import Mathlib.Data.List.Basic
import Mathlib.Order.Lattice

namespace MandateLedger.Data

/-! # Reading by cursor

Rows with increasing keys, read a page at a time: a page holds the first rows after the
cursor, and its last key is the next cursor.  As long as new rows only join above the
cursor, what has been read is exactly what lies up to it.  Rows may also come and go
anywhere between two pages: those that stay are still read, once.
-/

variable {α σ κ : Type} {key : α → κ} {rows : List α} {cursor : κ} {limit : Nat}

def nextCursor (key : α → κ) (cursor : κ) (read : List α) : κ :=
  (read.getLast?.map key).getD cursor

theorem nextCursor_cons (row : α) (read : List α) :
    nextCursor key cursor (row :: read) = nextCursor key (key row) read := by
  cases read with
  | nil => rfl
  | cons next rest => simp [nextCursor, List.getLast?_cons]

/-- The next cursor is a key, unless the page was empty. -/
theorem nextCursor_mem (read : List α) :
    read = [] ∧ nextCursor key cursor read = cursor ∨
      ∃ row ∈ read, key row = nextCursor key cursor read := by
  unfold nextCursor
  cases last : read.getLast? with
  | none => exact .inl ⟨List.getLast?_eq_none_iff.mp last, rfl⟩
  | some row => exact .inr ⟨row, List.mem_of_getLast? last, rfl⟩

variable [LinearOrder κ]

/-- The first rows above the cursor. -/
def page (key : α → κ) (rows : List α) (cursor : κ) (limit : Nat) : List α :=
  (rows.filter fun row => cursor < key row).take limit

def upTo (key : α → κ) (rows : List α) (cursor : κ) : List α :=
  rows.filter fun row => key row ≤ cursor

theorem le_nextCursor {read : List α} (above : ∀ row ∈ read, cursor ≤ key row) :
    cursor ≤ nextCursor key cursor read := by
  unfold nextCursor
  cases last : read.getLast? with
  | none => exact le_rfl
  | some row => exact above row (List.mem_of_getLast? last)

theorem mem_page {row : α} (listed : row ∈ page key rows cursor limit) :
    row ∈ rows ∧ cursor < key row := by
  have found := List.mem_of_mem_take listed
  simpa using List.mem_filter.mp found

theorem le_nextCursor_page : cursor ≤ nextCursor key cursor (page key rows cursor limit) :=
  le_nextCursor fun _ listed => (mem_page listed).2.le

theorem upTo_of_above (above : ∀ row ∈ rows, cursor < key row) : upTo key rows cursor = [] := by
  rw [upTo, List.filter_eq_nil_iff]
  intro row listed
  simpa using above row listed

theorem upTo_append (more : List α) :
    upTo key (rows ++ more) cursor = upTo key rows cursor ++ upTo key more cursor :=
  List.filter_append _ _

/-- A page moves the cursor exactly past what it holds.  By induction on the rows: one up to
the cursor has been read; the first one above it is the first of the page, and its key is
the cursor for the rest. -/
theorem upTo_nextCursor (sorted : rows.Pairwise fun first second => key first < key second) :
    upTo key rows (nextCursor key cursor (page key rows cursor limit)) =
      upTo key rows cursor ++ page key rows cursor limit := by
  induction rows generalizing cursor limit with
  | nil => simp [upTo, page]
  | cons row rest ih =>
      obtain ⟨first, later⟩ := List.pairwise_cons.mp sorted
      by_cases read : key row ≤ cursor
      · have skipped : page key (row :: rest) cursor limit = page key rest cursor limit := by
          simp [page, read]
        have moved : cursor ≤ nextCursor key cursor (page key rest cursor limit) :=
          le_nextCursor_page
        rw [skipped, upTo, List.filter_cons_of_pos (by simpa using read.trans moved)]
        rw [upTo, List.filter_cons_of_pos (by simpa using read), List.cons_append]
        exact congrArg (row :: ·) (ih later)
      · have above : cursor < key row := lt_of_not_ge read
        have unread : upTo key (row :: rest) cursor = [] := by
          refine upTo_of_above ?_
          intro other listed
          rcases List.mem_cons.mp listed with rfl | listed
          · exact above
          · exact above.trans (first other listed)
        cases limit with
        | zero =>
            have empty : page key (row :: rest) cursor 0 = [] := by simp [page]
            rw [empty, List.append_nil]
            rfl
        | succ limit =>
            have rests : page key rest (key row) limit = rest.take limit := by
              rw [page, List.filter_eq_self.mpr]
              intro other listed
              simpa using first other listed
            have paged : page key (row :: rest) cursor (limit + 1) =
                row :: page key rest (key row) limit := by
              rw [rests, page, List.filter_eq_self.mpr, List.take_succ_cons]
              intro other listed
              rcases List.mem_cons.mp listed with rfl | listed
              · simpa using above
              · simpa using above.trans (first other listed)
            have tail : upTo key rest (nextCursor key (key row) (page key rest (key row) limit)) =
                upTo key rest (key row) ++ page key rest (key row) limit := ih later
            rw [upTo_of_above first, List.nil_append] at tail
            have moved : key row ≤ nextCursor key (key row) (page key rest (key row) limit) :=
              le_nextCursor_page
            rw [paged, nextCursor_cons, unread, List.nil_append, upTo,
              List.filter_cons_of_pos (by simpa using moved)]
            exact congrArg (row :: ·) tail

section Changing

variable {view : σ → List α} {calls : List (σ × Nat)} {state : σ}

/-- A page of each state in turn, with the state it was read in. -/
def reads (key : α → κ) (view : σ → List α) : κ → List (σ × Nat) → List (σ × List α)
  | _, [] => []
  | cursor, (state, limit) :: rest =>
      let read := page key (view state) cursor limit
      (state, read) :: reads key view (nextCursor key cursor read) rest

/-- The rows of a state are in the order of their keys. -/
def InOrder (key : α → κ) (rows : List α) : Prop :=
  rows.Pairwise fun first second => key first < key second

theorem InOrder.page (ordered : InOrder key rows) : InOrder key (page key rows cursor limit) :=
  ordered.sublist ((List.take_sublist _ _).trans List.filter_sublist)

theorem key_le_nextCursor {read : List α} (ordered : InOrder key read) {row : α}
    (listed : row ∈ read) : key row ≤ nextCursor key cursor read := by
  obtain rfl | ⟨front, last, rfl⟩ := List.eq_nil_or_concat' read
  · cases listed
  · have final : nextCursor key cursor (front ++ [last]) = key last := by simp [nextCursor]
    rw [final]
    rcases List.mem_append.mp listed with earlier | same
    · exact ((List.pairwise_append.mp ordered).2.2 row earlier last (by simp)).le
    · rw [List.mem_singleton.mp same]

/-- What lies between two cursors is on the page between them. -/
theorem mem_page_of_le (ordered : InOrder key rows) {row : α} (listed : row ∈ rows)
    (above : cursor < key row)
    (passed : key row ≤ nextCursor key cursor (page key rows cursor limit)) :
    row ∈ page key rows cursor limit := by
  have found : row ∈ upTo key rows (nextCursor key cursor (page key rows cursor limit)) := by
    simpa [upTo] using And.intro listed passed
  rw [upTo_nextCursor ordered, List.mem_append] at found
  rcases found with read | paged
  · have low : key row ≤ cursor := by simpa using (List.mem_filter.mp read).2
    exact absurd low above.not_ge
  · exact paged

theorem le_of_page_eq_nil (some : 1 ≤ limit) (empty : page key rows cursor limit = [])
    {row : α} (listed : row ∈ rows) : key row ≤ cursor := by
  rw [page, List.take_eq_nil_iff] at empty
  rcases empty with none | none
  · omega
  · simpa using List.filter_eq_nil_iff.mp none row listed

theorem map_fst_reads : (reads key view cursor calls).map Prod.fst = calls.map Prod.fst := by
  induction calls generalizing cursor with
  | nil => rfl
  | cons call rest ih => rw [reads, List.map_cons, List.map_cons, ih]

theorem mem_reads {call : σ × List α} (listed : call ∈ reads key view cursor calls) {row : α}
    (read : row ∈ call.2) : row ∈ view call.1 := by
  induction calls generalizing cursor with
  | nil => cases listed
  | cons next rest ih =>
      rw [reads, List.mem_cons] at listed
      rcases listed with rfl | later
      · exact (mem_page read).1
      · exact ih later

/-- No row is read twice, nor before one with a smaller key. -/
theorem reads_ordered (ordered : ∀ call ∈ calls, InOrder key (view call.1)) :
    InOrder key ((reads key view cursor calls).flatMap Prod.snd) ∧
      ∀ row ∈ (reads key view cursor calls).flatMap Prod.snd, cursor < key row := by
  induction calls generalizing cursor with
  | nil => exact ⟨.nil, by simp [reads]⟩
  | cons next rest ih =>
      obtain ⟨state, limit⟩ := next
      have first := ordered (state, limit) (by simp)
      obtain ⟨later, above⟩ := @ih (nextCursor key cursor (page key (view state) cursor limit))
        fun call member => ordered call (by simp [member])
      simp only [reads, List.flatMap_cons]
      constructor
      · refine List.pairwise_append.mpr ⟨first.page, later, ?_⟩
        intro row read other next
        exact (key_le_nextCursor first.page read).trans_lt (above other next)
      · intro row read
        rcases List.mem_append.mp read with now | next
        · exact (mem_page now).2
        · exact le_nextCursor_page.trans_lt (above row next)

/-- What is there at every page is read before one comes back empty; so is what joins
above all other rows and then stays. -/
theorem reads_complete (ordered : ∀ call ∈ calls, InOrder key (view call.1))
    (limits : ∀ call ∈ calls, 1 ≤ call.2) {earlier later : List (σ × List α)}
    {call : σ × List α} (split : reads key view cursor calls = earlier ++ call :: later)
    (empty : call.2 = []) {target : κ} (above : cursor < target)
    (stays : ∀ page ∈ earlier, (∃ row ∈ view page.1, key row = target) ∨
      ∀ row ∈ view page.1, key row < target)
    (left : ∃ row ∈ view call.1, key row = target) :
    ∃ row ∈ earlier.flatMap Prod.snd, key row = target := by
  induction calls generalizing cursor earlier with
  | nil => simp [reads] at split
  | cons next rest ih =>
      obtain ⟨state, limit⟩ := next
      have first := ordered (state, limit) (by simp)
      rw [reads] at split
      cases earlier with
      | nil =>
          -- nothing is above the cursor any more
          obtain ⟨rfl, -⟩ := List.cons.inj split
          obtain ⟨row, listed, rfl⟩ := left
          exact absurd (le_of_page_eq_nil (limits (state, limit) (by simp)) empty listed) above.not_ge
      | cons head earlier =>
          rw [List.cons_append, List.cons.injEq] at split
          obtain ⟨rfl, split⟩ := split
          rw [List.flatMap_cons]
          by_cases passed : target ≤ nextCursor key cursor (page key (view state) cursor limit)
          · rcases stays _ (List.mem_cons_self ..) with ⟨row, listed, rfl⟩ | below
            · exact ⟨row, List.mem_append_left _ (mem_page_of_le first listed above passed), rfl⟩
            · -- the cursor is a key below the target, or has not moved
              exfalso
              rcases nextCursor_mem (page key (view state) cursor limit) with ⟨-, same⟩ |
                ⟨row, read, same⟩
              · rw [same] at passed
                exact passed.not_gt above
              · rw [← same] at passed
                exact passed.not_gt (below row (mem_page read).1)
          · obtain ⟨row, read, same⟩ := ih (fun call member => ordered call (by simp [member]))
              (fun call member => limits call (by simp [member])) split (lt_of_not_ge passed)
              (fun page member => stays page (by simp [member]))
            exact ⟨row, List.mem_append_right _ read, same⟩

theorem reads_of_le (below : ∀ call ∈ calls, ∀ row ∈ view call.1, key row ≤ cursor) :
    (reads key view cursor calls).flatMap Prod.snd = [] := by
  induction calls with
  | nil => rfl
  | cons next rest ih =>
      obtain ⟨state, limit⟩ := next
      have empty : page key (view state) cursor limit = [] := by
        rw [page, List.filter_eq_nil_iff.mpr, List.take_nil]
        intro row listed
        simpa using below (state, limit) (by simp) row listed
      rw [reads, empty]
      exact ih fun call member => below call (by simp [member])

/-- Pages of one table, read until one is empty, hold what was above the cursor. -/
theorem reads_same (ordered : InOrder key rows) (same : ∀ call ∈ calls, view call.1 = rows)
    (limits : ∀ call ∈ calls, 1 ≤ call.2)
    (drained : ∃ call ∈ reads key view cursor calls, call.2 = []) :
    upTo key rows cursor ++ (reads key view cursor calls).flatMap Prod.snd = rows := by
  induction calls generalizing cursor with
  | nil => simp [reads] at drained
  | cons next rest ih =>
      obtain ⟨state, limit⟩ := next
      have now : view state = rows := same (state, limit) (by simp)
      by_cases empty : page key rows cursor limit = []
      · have below : ∀ row ∈ rows, key row ≤ cursor := fun row =>
          le_of_page_eq_nil (limits (state, limit) (by simp)) empty
        rw [reads_of_le fun call member row listed => below row (same call member ▸ listed),
          List.append_nil, upTo, List.filter_eq_self]
        simpa using below
      · rw [reads] at drained ⊢
        rw [now] at drained ⊢
        have rest := @ih (nextCursor key cursor (page key rows cursor limit))
          (fun call member => same call (by simp [member]))
          (fun call member => limits call (by simp [member])) (by simpa [empty] using drained)
        rw [upTo_nextCursor ordered, List.append_assoc] at rest
        exact rest

/-- There are no more full pages of one table than it has rows. -/
theorem length_le_of_reads (ordered : InOrder key rows) (same : ∀ call ∈ calls, view call.1 = rows)
    (full : ∀ call ∈ reads key view cursor calls, call.2 ≠ []) :
    (upTo key rows cursor).length + calls.length ≤ rows.length := by
  induction calls generalizing cursor with
  | nil => exact List.length_filter_le _ _
  | cons next rest ih =>
      obtain ⟨state, limit⟩ := next
      have now : view state = rows := same (state, limit) (by simp)
      rw [reads, now] at full
      have more := @ih (nextCursor key cursor (page key rows cursor limit))
        (fun call member => same call (by simp [member]))
        (fun call member => full call (List.mem_cons_of_mem _ member))
      have read : 0 < (page key rows cursor limit).length :=
        List.length_pos_iff.mpr (full _ (List.mem_cons_self ..))
      rw [upTo_nextCursor ordered, List.length_append] at more
      rw [List.length_cons]
      omega

end Changing

end MandateLedger.Data
