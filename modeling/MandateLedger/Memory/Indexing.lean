import MandateLedger.Memory.Paging

namespace MandateLedger.Memory

open MandateLedger.Core MandateLedger.Data

namespace Inner

/-- Where a context's events stand. -/
def positions (events : List Event) (ctx : ContextId) : List Nat :=
  (List.range events.length).filter fun position => events[position]?.any fun event => event.ctx = ctx

theorem mem_positions {events : List Event} {ctx : ContextId} {position : Nat} :
    position ∈ positions events ctx ↔
      ∃ event, events[position]? = some event ∧ event.ctx = ctx := by
  rw [positions, List.mem_filter, List.mem_range, Option.any_eq_true]
  constructor
  · intro given
    obtain ⟨_, event, found, own⟩ := given
    exact ⟨event, found, of_decide_eq_true own⟩
  · intro given
    obtain ⟨event, found, own⟩ := given
    exact ⟨(List.getElem?_eq_some_iff.mp found).1, event, found, decide_eq_true own⟩

theorem positions_append (events : List Event) (event : Event) (ctx : ContextId) :
    positions (events ++ [event]) ctx =
      positions events ctx ++ if event.ctx = ctx then [events.length] else [] := by
  have earlier : ((List.range events.length).filter fun position =>
      (events ++ [event])[position]?.any fun event => event.ctx = ctx) = positions events ctx := by
    apply List.filter_congr
    intro position listed
    rw [List.getElem?_append_left (List.mem_range.mp listed)]
  rw [positions, List.length_append, List.length_singleton, List.range_succ, List.filter_append,
    earlier]
  by_cases own : event.ctx = ctx <;> simp [own]

/-- The index lists the contexts with events, and for each all of its positions. -/
theorem lookup_index (events : List Event) (ctx : ContextId) :
    (index events).lookup ctx =
      if positions events ctx = [] then none else some (positions events ctx) := by
  induction events using List.reverseRecOn with
  | nil => rfl
  | append_singleton events event ih =>
      rw [index_append, Table.lookup_insert_eq, positions_append]
      by_cases own : ctx = event.ctx
      · subst own
        rw [if_pos rfl, if_pos rfl, if_neg (by simp), ih]
        split <;> simp_all
      · rw [if_neg own, if_neg (Ne.symm own), List.append_nil, ih]

end Inner

/-- The index has an entry for exactly the contexts with stored events: their positions,
in order. -/
structure Represents (inner : Inner) : Prop where
  entries : ∀ ctx, (inner.byCtx.lookup ctx).isSome = true ↔ ∃ event ∈ inner.events, event.ctx = ctx
  nonempty : ∀ ctx entry, inner.byCtx.lookup ctx = some entry → entry ≠ []
  increasing : ∀ ctx entry, inner.byCtx.lookup ctx = some entry → entry.Pairwise (· < ·)
  inRange : ∀ ctx entry, inner.byCtx.lookup ctx = some entry →
    ∀ position ∈ entry, position < inner.events.length
  positions : ∀ ctx entry, inner.byCtx.lookup ctx = some entry →
    ∀ position, position ∈ entry ↔
      ∃ event, inner.events[position]? = some event ∧ event.ctx = ctx

theorem represents_of_index {inner : Inner} (indexed : inner.byCtx = Inner.index inner.events) :
    Represents inner := by
  have entry : ∀ ctx entry, inner.byCtx.lookup ctx = some entry →
      entry = Inner.positions inner.events ctx ∧ entry ≠ [] := by
    intro ctx entry found
    rw [indexed, Inner.lookup_index] at found
    split at found
    · cases found
    · next nonempty =>
        cases found
        exact ⟨rfl, nonempty⟩
  refine ⟨?_, fun ctx _ found => (entry ctx _ found).2, ?_, ?_, ?_⟩
  · intro ctx
    have listed : Inner.positions inner.events ctx ≠ [] ↔
        ∃ event ∈ inner.events, event.ctx = ctx := by
      rw [← List.isEmpty_eq_false_iff, List.isEmpty_eq_false_iff_exists_mem]
      constructor
      · intro given
        obtain ⟨position, listed⟩ := given
        obtain ⟨event, found, own⟩ := Inner.mem_positions.mp listed
        exact ⟨event, List.mem_of_getElem? found, own⟩
      · intro given
        obtain ⟨event, stored, own⟩ := given
        obtain ⟨position, found⟩ := List.mem_iff_getElem?.mp stored
        exact ⟨position, Inner.mem_positions.mpr ⟨event, found, own⟩⟩
    rw [← listed, indexed, Inner.lookup_index]
    split <;> simp_all
  · intro ctx _ found
    rw [(entry ctx _ found).1]
    exact List.pairwise_lt_range.filter _
  · intro ctx _ found position listed
    rw [(entry ctx _ found).1, Inner.mem_positions] at listed
    obtain ⟨event, held, -⟩ := listed
    exact (List.getElem?_eq_some_iff.mp held).1
  · intro ctx _ found position
    rw [(entry ctx _ found).1]
    exact Inner.mem_positions

namespace Inner

variable (inner : Inner)

def entry (ctx : ContextId) : List Nat := (inner.byCtx.lookup ctx).getD []

/-- `events`.  The source takes `events[i]`, which panics out of range; here and below, `none`
is that panic. -/
def checkedEvents (ctx : ContextId) : Option (List Event) :=
  (inner.entry ctx).mapM fun position => inner.events[position]?

/-- The `find_map` of `authorized_mandate`. -/
def findMandate : List Nat → Option (Option Mandate)
  | [] => some none
  | position :: rest => do
      let event ← inner.events[position]?
      match event.body.mandate? with
      | some mandate => some (some mandate)
      | none => findMandate rest

/-- The count of refusals in `append`. -/
def checkedDenials (ctx : ContextId) : Option Nat :=
  (inner.checkedEvents ctx).map fun events => events.countP fun event => event.body.isDenied

/-- The last event of a context, as `append` and `prune` look it up. -/
def checkedLast (ctx : ContextId) : Option (Option Event) :=
  match (inner.entry ctx).getLast? with
  | none => some none
  | some position => inner.events[position]?.map some

/-- `prev_hash` in `append`. -/
def checkedPrevHash (ctx : ContextId) : Option Hash32 :=
  (inner.checkedLast ctx).map fun last => last.elim .zero Event.hash

/-- The test `prune` puts to each entry. -/
def checkedIsGone (before : Timestamp) (ctx : ContextId) : Option Bool :=
  if inner.finished ctx then
    (inner.checkedLast ctx).map fun last => last.any fun event => event.recordedAt < before
  else some false

end Inner

/-- No index is out of range, and each function computes what the model says. -/
structure NeverPanics (inner : Inner) : Prop where
  events : ∀ ctx, inner.checkedEvents ctx = some (inner.chain ctx)
  authorizedMandate : ∀ ctx,
    inner.findMandate (inner.entry ctx) = some (inner.authorizedMandate ctx)
  denials : ∀ ctx, inner.checkedDenials ctx = some (inner.denials ctx)
  prevHash : ∀ ctx, inner.checkedPrevHash ctx = some (inner.prevHash ctx)
  isGone : ∀ before ctx, inner.checkedIsGone before ctx = some (inner.isGone before ctx)

section Panics

variable {inner : Inner} {entry : List Nat}

theorem mapM_getElem? (inRange : ∀ position ∈ entry, position < inner.events.length) :
    (entry.mapM fun position => inner.events[position]?) =
      some (entry.filterMap fun position => inner.events[position]?) := by
  induction entry with
  | nil => rfl
  | cons position rest ih =>
      have held := List.getElem?_eq_getElem (inRange position (by simp))
      rw [List.mapM_cons, held, ih fun position listed => inRange position (by simp [listed]),
        List.filterMap_cons_some held]
      rfl

theorem findMandate_eq (inRange : ∀ position ∈ entry, position < inner.events.length) :
    inner.findMandate entry =
      some ((entry.filterMap fun position => inner.events[position]?).findSome? fun event =>
        event.body.mandate?) := by
  induction entry with
  | nil => rfl
  | cons position rest ih =>
      obtain ⟨event, held⟩ : ∃ event, inner.events[position]? = some event :=
        ⟨_, List.getElem?_eq_getElem (inRange position (by simp))⟩
      rw [Inner.findMandate, held, List.filterMap_cons_some held, List.findSome?_cons]
      simp only [Option.bind_eq_bind, Option.bind_some]
      cases event.body.mandate? with
      | some mandate => rfl
      | none => exact ih fun position listed => inRange position (by simp [listed])

theorem getLast?_filterMap (inRange : ∀ position ∈ entry, position < inner.events.length) :
    (match entry.getLast? with
      | none => some none
      | some position => inner.events[position]?.map some) =
      some (entry.filterMap fun position => inner.events[position]?).getLast? := by
  obtain rfl | ⟨front, last, rfl⟩ := List.eq_nil_or_concat' entry
  · rfl
  · have held := List.getElem?_eq_getElem (inRange last (by simp))
    simp [held]

theorem neverPanics (represents : Represents inner) : NeverPanics inner := by
  have inRange : ∀ ctx, ∀ position ∈ inner.entry ctx, position < inner.events.length := by
    intro ctx position listed
    rw [Inner.entry] at listed
    cases found : inner.byCtx.lookup ctx with
    | none => simp [found] at listed
    | some entry =>
        rw [found] at listed
        exact represents.inRange ctx entry found position listed
  have events : ∀ ctx, inner.checkedEvents ctx = some (inner.chain ctx) :=
    fun ctx => mapM_getElem? (inRange ctx)
  have last : ∀ ctx, inner.checkedLast ctx = some (inner.chain ctx).getLast? :=
    fun ctx => getLast?_filterMap (inRange ctx)
  refine ⟨events, fun ctx => findMandate_eq (inRange ctx), ?_, ?_, ?_⟩
  · intro ctx
    rw [Inner.checkedDenials, events]
    rfl
  · intro ctx
    rw [Inner.checkedPrevHash, last, Inner.prevHash]
    cases (inner.chain ctx).getLast? <;> rfl
  · intro before ctx
    rw [Inner.checkedIsGone, last, Inner.isGone]
    cases inner.finished ctx <;> rfl

end Panics

/-- Everything ever appended is numbered in the order of the appends, up to the counter, which
counts them. -/
structure Numbered (traced : Traced) : Prop where
  increasing : InOrder Event.seq traced.history
  counted : ∀ event ∈ traced.history, event.seq ≤ traced.inner.lastSeq
  last : traced.inner.lastSeq = traced.history.length

namespace Numbered

variable {externals : Externals} {traced : Traced}

theorem logged (numbered : Numbered traced) {tables : Inner} {event : Event}
    (next : event.seq = traced.inner.lastSeq + 1) :
    Numbered ⟨tables.log event, traced.history ++ [event]⟩ := by
  refine ⟨?_, ?_, ?_⟩
  · refine List.pairwise_append.mpr ⟨numbered.increasing, by simp, ?_⟩
    intro old listed new last
    rw [List.mem_singleton.mp last, next]
    exact Nat.lt_succ_of_le (numbered.counted old listed)
  · intro old listed
    change old.seq ≤ event.seq
    rcases List.mem_append.mp listed with earlier | last
    · have := numbered.counted old earlier
      omega
    · rw [List.mem_singleton.mp last]
  · change event.seq = (traced.history ++ [event]).length
    rw [next, numbered.last, List.length_append, List.length_singleton]

theorem run (reached : Traced.Reachable externals traced) : Numbered traced := by
  induction reached with
  | refl => exact ⟨.nil, by simp [Traced.empty], rfl⟩
  | @tail before after _ stepped ih =>
      cases stepped.moved with
      | same => exact ih
      | logged writes built => exact ih.logged (Event.new_eq_ok built).1
      | revoked mandate => exact ⟨ih.increasing, ih.counted, ih.last⟩
      | pruned instant =>
          obtain ⟨events, byCtx, pruned⟩ := before.inner.prune_frame instant
          have kept : (before.inner.prune instant).lastSeq = before.inner.lastSeq := by rw [pruned]
          refine ⟨ih.increasing, ?_, kept.trans ih.last⟩
          change ∀ event ∈ before.history, event.seq ≤ (before.inner.prune instant).lastSeq
          rw [kept]
          exact ih.counted

/-- `last_seq` is a `u64` in the source, which fewer than `2 ^ 64` appends do not exhaust. -/
theorem lastSeq_lt (numbered : Numbered traced) (few : traced.history.length < 2 ^ 64) :
    traced.inner.lastSeq < 2 ^ 64 := by
  rw [numbered.last]
  exact few

/-- What is appended next has a number that nothing had before. -/
theorem fresh (numbered : Numbered traced) {ctx : ContextId} {now : Timestamp} {body : EventBody}
    {event : Event} (appended : (traced.append externals ctx now body).1 = .ok (.appended event)) :
    ∀ old ∈ traced.history, old.seq < event.seq := by
  obtain ⟨result, same, refusal⟩ | ⟨made, tables, -, built, same⟩ :=
    traced.append_cases externals ctx now body
  · rw [same] at appended
    exact absurd (refusal _ appended) (by simp [AppendOutcome.refuses])
  · rw [same] at appended
    cases appended
    intro old listed
    have := numbered.counted old listed
    have := (Event.new_eq_ok built).1
    omega

theorem eq_of_seq (numbered : Numbered traced) {first second : Event}
    (listed : first ∈ traced.history) (other : second ∈ traced.history)
    (same : first.seq = second.seq) : first = second := by
  have distinct : traced.history.Pairwise fun first second => first.seq ≠ second.seq :=
    numbered.increasing.imp fun less => less.ne
  exact List.inj_on_of_nodup_map (List.pairwise_map.mpr distinct) listed other same

end Numbered

/-- The pages of a reader of the log, who passes the last number they saw. -/
def tails : Nat → List (Traced × Nat) → List (Traced × List Event)
  | _, [] => []
  | cursor, (traced, limit) :: rest =>
      let page := traced.inner.eventsAfter cursor limit
      (traced, page) :: tails (nextCursor Event.seq cursor page) rest

theorem tails_eq (cursor : Nat) (calls : List (Traced × Nat)) :
    tails cursor calls = reads Event.seq (fun traced : Traced => traced.inner.events) cursor calls := by
  induction calls generalizing cursor with
  | nil => rfl
  | cons call rest ih =>
      rw [tails, reads, ih]
      rfl

/-- The log after some steps: what was there before, or was appended since. -/
def Continues (before after : Traced) : Prop :=
  ∃ more, after.history = before.history ++ more ∧
    ∀ event ∈ after.inner.events, event ∈ before.inner.events ∨ event ∈ more

theorem Continues.step {externals : Externals} {start before after : Traced}
    (continues : Continues start before) (stepped : Traced.Step externals before after) :
    Continues start after := by
  obtain ⟨more, grown, stored⟩ := continues
  cases stepped.moved with
  | same | revoked => exact ⟨more, grown, stored⟩
  | @logged event now tables writes built =>
      refine ⟨more ++ [event], by rw [grown, List.append_assoc], ?_⟩
      intro other listed
      change other ∈ tables.events ++ [event] at listed
      rw [writes.frame.1] at listed
      rcases List.mem_append.mp listed with earlier | new
      · exact (stored other earlier).imp_right (List.mem_append_left _)
      · exact .inr (List.mem_append_right _ new)
  | pruned instant =>
      refine ⟨more, grown, ?_⟩
      intro event listed
      exact stored event ((before.inner.prune_sublist instant).subset listed)

theorem Continues.run {externals : Externals} {before after : Traced}
    (steps : Relation.ReflTransGen (Traced.Step externals) before after) :
    Continues before after := by
  induction steps with
  | refl => exact ⟨[], by simp, fun _ listed => .inl listed⟩
  | tail _ stepped ih => exact ih.step stepped

theorem Traced.performs_steps (externals : Externals) (traced : Traced)
    (operations : List Traced.Operation) :
    Relation.ReflTransGen (Traced.Step externals) traced (traced.performs externals operations) := by
  induction operations generalizing traced with
  | nil => exact .refl
  | cons operation rest ih => exact .head (traced.step_perform externals operation) (ih _)

theorem Traced.pairwise_calls (externals : Externals) (traced : Traced) (rounds : List Round) :
    (∀ call ∈ (traced.calls externals rounds).map Prod.fst,
      Relation.ReflTransGen (Traced.Step externals) traced call) ∧
    ((traced.calls externals rounds).map Prod.fst).Pairwise
      (Relation.ReflTransGen (Traced.Step externals)) := by
  induction rounds generalizing traced with
  | nil => exact ⟨by simp [Traced.calls], .nil⟩
  | cons round rest ih =>
      obtain ⟨after, pairs⟩ := ih (traced.performs externals round.operations)
      have first := traced.performs_steps externals round.operations
      rw [Traced.calls, List.map_cons]
      refine ⟨?_, List.pairwise_cons.mpr ⟨after, pairs⟩⟩
      intro call listed
      rcases List.mem_cons.mp listed with rfl | later
      · exact first
      · exact first.trans (after call later)

section Tailing

variable {externals : Externals} {traced : Traced}

theorem events_inOrder (reached : Traced.Reachable externals traced) :
    InOrder Event.seq traced.inner.events :=
  (Numbered.run reached).increasing.sublist (events_sublist reached)

/-- An event that is stored now was stored at an earlier time, or came after everything
that was. -/
theorem stored_before {earlier later : Traced} (reached : Traced.Reachable externals earlier)
    (steps : Relation.ReflTransGen (Traced.Step externals) earlier later) {event : Event}
    (stored : event ∈ later.inner.events) :
    event ∈ earlier.inner.events ∨ ∀ old ∈ earlier.inner.events, old.seq < event.seq := by
  obtain ⟨more, grown, held⟩ := Continues.run steps
  refine (held event stored).imp_right fun new old listed => ?_
  have increasing := (Numbered.run (reached.trans steps)).increasing
  rw [grown] at increasing
  exact (List.pairwise_append.mp increasing).2.2 old ((events_sublist reached).subset listed) event new

/-- A cursor reads what survives and what comes later, once. -/
theorem tails_complete (reached : Traced.Reachable externals traced) {cursor : Nat}
    {rounds : List Round} (limits : ∀ round ∈ rounds, 1 ≤ round.limit)
    {earlier later : List (Traced × List Event)} {page : Traced × List Event}
    (split : tails cursor (traced.calls externals rounds) = earlier ++ page :: later)
    (empty : page.2 = []) {event : Event} (stored : event ∈ page.1.inner.events)
    (above : cursor < event.seq) : (earlier.flatMap Prod.snd).count event = 1 := by
  rw [tails_eq] at split
  have calls := reached.calls rounds
  have ordered : ∀ call ∈ traced.calls externals rounds, InOrder Event.seq call.1.inner.events :=
    fun call member => events_inOrder (calls call member)
  -- the states of the pages, in the order of the run
  have states := congrArg (List.map Prod.fst) split
  rw [map_fst_reads, List.map_append, List.map_cons] at states
  have pairs := (traced.pairwise_calls externals rounds).2
  rw [states] at pairs
  have before : ∀ call ∈ earlier, Traced.Reachable externals call.1 ∧
      Relation.ReflTransGen (Traced.Step externals) call.1 page.1 := by
    intro call listed
    have member : call.1 ∈ (traced.calls externals rounds).map Prod.fst := by
      rw [states]
      exact List.mem_append_left _ (List.mem_map_of_mem listed)
    obtain ⟨own, held, same⟩ := List.mem_map.mp member
    refine ⟨same ▸ calls own held, ?_⟩
    exact (List.pairwise_append.mp pairs).2.2 call.1 (List.mem_map_of_mem listed) page.1 (by simp)
  have final : Traced.Reachable externals page.1 := by
    have member : page.1 ∈ (traced.calls externals rounds).map Prod.fst := by simp [states]
    obtain ⟨own, held, same⟩ := List.mem_map.mp member
    exact same ▸ calls own held
  obtain ⟨row, read, number⟩ := reads_complete ordered (Traced.limit_calls limits) split empty above
    (fun call listed =>
      (stored_before (before call listed).1 (before call listed).2 stored).imp_left fun held =>
        ⟨event, held, rfl⟩)
    ⟨event, stored, rfl⟩
  have same : row = event := by
    obtain ⟨call, listed, own⟩ := List.mem_flatMap.mp read
    have member : call ∈ reads Event.seq (fun traced : Traced => traced.inner.events) cursor
        (traced.calls externals rounds) := by
      rw [split]
      exact List.mem_append_left _ listed
    have old := (events_sublist (before call listed).1).subset (mem_reads member own)
    obtain ⟨more, grown, -⟩ := Continues.run (before call listed).2
    have kept : row ∈ page.1.history := by
      rw [grown]
      exact List.mem_append_left _ old
    exact (Numbered.run final).eq_of_seq kept ((events_sublist final).subset stored) number
  have increasing : InOrder Event.seq ((earlier ++ page :: later).flatMap Prod.snd) :=
    split ▸ (reads_ordered ordered).1
  rw [InOrder, List.flatMap_append] at increasing
  have nodup : (earlier.flatMap Prod.snd).Nodup :=
    (List.pairwise_append.mp increasing).1.imp fun less same => by simp [same] at less
  exact List.count_eq_one_of_mem nodup (same ▸ read)

end Tailing

theorem eventsAfter_eq {inner : Inner} (ordered : InOrder Event.seq inner.events)
    (after limit : Nat) :
    inner.eventsAfter after limit =
      (inner.events.dropWhile fun event => event.seq ≤ after).take limit := by
  rw [Inner.eventsAfter]
  congr 1
  generalize inner.events = events at ordered
  induction events with
  | nil => rfl
  | cons event rest ih =>
      obtain ⟨first, later⟩ := List.pairwise_cons.mp ordered
      by_cases read : event.seq ≤ after
      · rw [List.filter_cons_of_neg (by simpa using read),
          List.dropWhile_cons_of_pos (by simpa using read), ih later]
      · -- everything from here on is after the cursor
        rw [List.dropWhile_cons_of_neg (by simpa using read), List.filter_eq_self]
        intro other listed
        rcases List.mem_cons.mp listed with rfl | listed
        · simpa using read
        · have := first other listed
          simp only [decide_eq_true_eq]
          omega

/-- **The index represents the log**, numbers are handed out once, and cursors survive
pruning. -/
theorem index_represents_log {externals : Externals} {traced : Traced}
    (reached : Traced.Reachable externals traced) :
    Represents traced.inner ∧ NeverPanics traced.inner ∧
    -- numbers increase along the log, up to the counter
    InOrder Event.seq traced.inner.events ∧
    (∀ event ∈ traced.inner.events, event.seq ≤ traced.inner.lastSeq) ∧
    -- no number is handed out twice, whatever was pruned
    InOrder Event.seq traced.history ∧
    (∀ ctx now body event, (traced.append externals ctx now body).1 = .ok (.appended event) →
      ∀ old ∈ traced.history, old.seq < event.seq) ∧
    -- a page holds the first events after the cursor
    (∀ after limit, traced.inner.eventsAfter after limit =
      (traced.inner.events.dropWhile fun event => event.seq ≤ after).take limit) ∧
    -- a cursor reads in order, and what is stored once a page is empty was read once
    (∀ cursor rounds, (∀ round ∈ rounds, 1 ≤ Round.limit round) →
      let pages := tails cursor (traced.calls externals rounds)
      InOrder Event.seq (pages.flatMap Prod.snd) ∧
      ∀ earlier page later, pages = earlier ++ page :: later → page.2 = [] →
        ∀ event ∈ page.1.inner.events, cursor < event.seq →
          (earlier.flatMap Prod.snd).count event = 1) := by
  have represents := represents_of_index (Lifecycle.run reached).indexed
  have numbered := Numbered.run reached
  refine ⟨represents, neverPanics represents, events_inOrder reached, ?_, numbered.increasing, ?_,
    eventsAfter_eq (events_inOrder reached), ?_⟩
  · intro event stored
    exact numbered.counted event ((events_sublist reached).subset stored)
  · intro ctx now body event appended
    exact numbered.fresh appended
  · intro cursor rounds limits
    constructor
    · rw [tails_eq]
      exact (reads_ordered fun call member => events_inOrder (reached.calls rounds call member)).1
    · intro earlier page later split empty event stored above
      exact tails_complete reached limits split empty stored above

/-- A purchase that expired and one that did not. -/
def sampleLog : Traced :=
  let authorize := EventBody.authorized (Sample.mandate Sample.alice)
    (Sample.cart.snapshot Sample.sha256) "k1"
  Traced.empty.performs Sample.externals
    [.append Sample.firstCtx ⟨10⟩ authorize, .append Sample.firstCtx ⟨11⟩ .expired,
      .append Sample.secondCtx ⟨12⟩ authorize]

/-- A prune before the first page, an append before the second. -/
def sampleTail : List Round :=
  [⟨[.prune ⟨20⟩], 1⟩, ⟨[.append Sample.secondCtx ⟨30⟩ .expired], 1⟩, ⟨[], 1⟩]

theorem sampleLog_represented :
    (tails 1 (sampleLog.calls Sample.externals sampleTail)).map
      (fun page => page.2.map Event.seq) = [[3], [4], []] ∧
    Represents sampleLog.inner ∧
    InOrder Event.seq ((tails 1 (sampleLog.calls Sample.externals sampleTail)).flatMap Prod.snd) := by
  have reached : Traced.Reachable Sample.externals sampleLog := Traced.Reachable.performs .refl _
  obtain ⟨represents, -, -, -, -, -, -, cursors⟩ := index_represents_log reached
  exact ⟨by decide +kernel, represents, (cursors 1 sampleTail (by decide)).1⟩

end MandateLedger.Memory
