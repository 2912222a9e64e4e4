import MandateLedger.Data.Cursor
import MandateLedger.Memory.Lifecycle
import MandateLedger.Memory.Queries

namespace MandateLedger.Memory

open MandateLedger.Core MandateLedger.Data

/-- What is done to the store before a page is read, and the limit of the page. -/
structure Round where
  operations : List Traced.Operation
  limit : Nat

def Traced.calls (externals : Externals) : Traced → List Round → List (Traced × Nat)
  | _, [] => []
  | traced, round :: rest =>
      let next := traced.performs externals round.operations
      (next, round.limit) :: calls externals next rest

/-- The pages of a reader who keeps passing the last id they saw. -/
def scans (filter : RecordFilter) :
    Option ContextId → List (Traced × Nat) → List (Traced × List Record)
  | _, [] => []
  | after, (traced, limit) :: rest =>
      let page := traced.inner.scan filter after limit
      (traced, page) :: scans filter ((page.getLast?.map Record.ctx).or after) rest

theorem Traced.Reachable.calls {externals : Externals} {traced : Traced}
    (reached : Reachable externals traced) (rounds : List Round) :
    ∀ call ∈ traced.calls externals rounds, Reachable externals call.1 := by
  induction rounds generalizing traced with
  | nil => simp [Traced.calls]
  | cons round rest ih =>
      intro call listed
      rw [Traced.calls, List.mem_cons] at listed
      have next := reached.performs round.operations
      rcases listed with rfl | later
      · exact next
      · exact ih next call later

theorem Traced.length_calls (externals : Externals) (traced : Traced) (rounds : List Round) :
    (traced.calls externals rounds).length = rounds.length := by
  induction rounds generalizing traced with
  | nil => rfl
  | cons round rest ih => rw [Traced.calls, List.length_cons, List.length_cons, ih]

theorem Traced.limit_calls {externals : Externals} {traced : Traced} {rounds : List Round}
    (limits : ∀ round ∈ rounds, 1 ≤ round.limit) :
    ∀ call ∈ traced.calls externals rounds, 1 ≤ call.2 := by
  induction rounds generalizing traced with
  | nil => simp [Traced.calls]
  | cons round rest ih =>
      intro call listed
      rw [Traced.calls, List.mem_cons] at listed
      rcases listed with rfl | later
      · exact limits round (by simp)
      · exact ih (fun round member => limits round (by simp [member])) call later

def Keyed (inner : Inner) : Prop :=
  ∀ ctx record, inner.records.lookup ctx = some record → record.ctx = ctx

theorem Keyed.logged {externals : Externals} {inner tables : Inner} {event : Event}
    {ctx : ContextId} {now : Timestamp} {body : EventBody} (keyed : Keyed inner)
    (writes : inner.Writes externals.decimals ctx now body tables) : Keyed (tables.log event) := by
  intro other record found
  change tables.records.lookup other = some record at found
  by_cases own : other = ctx
  · subst own
    obtain ⟨-, same⟩ | ⟨mandate, cart, requestKey, -, -, same⟩ |
      ⟨target, before, -, -, held, -, same⟩ := writes.records
    · rw [same] at found
      exact keyed other record found
    · rw [same, Finmap.lookup_insert] at found
      cases found
      rfl
    · rw [same, Finmap.lookup_insert] at found
      cases found
      rw [Record.advance_ctx]
      exact keyed other before held
  · rw [writes.other_record own] at found
    exact keyed other record found

theorem Keyed.run {externals : Externals} {traced : Traced}
    (reached : Traced.Reachable externals traced) : Keyed traced.inner := by
  induction reached with
  | refl =>
      intro ctx record found
      cases found
  | @tail before after _ stepped ih =>
      cases stepped.moved with
      | same | revoked => exact ih
      | logged writes built => exact ih.logged writes
      | pruned instant =>
          obtain ⟨events, byCtx, pruned⟩ := before.inner.prune_frame instant
          change Keyed (before.inner.prune instant)
          rw [pruned]
          exact ih

def Inner.hits (inner : Inner) (filter : RecordFilter) : List Record :=
  inner.records.rows.filter filter.accepts

def position (record : Record) : WithBot ContextId := record.ctx

/-- The id a page is read after; no id comes before all of them. -/
def startOf : Option ContextId → WithBot ContextId
  | none => ⊥
  | some ctx => ctx

theorem Keyed.hits {inner : Inner} (keyed : Keyed inner) (filter : RecordFilter) :
    InOrder position (inner.hits filter) := by
  apply List.Pairwise.filter
  apply (Table.pairwise_rows keyed).imp
  intro first second less
  exact WithBot.coe_lt_coe.mpr less

theorem mem_hits {inner : Inner} (keyed : Keyed inner) {filter : RecordFilter} {record : Record} :
    record ∈ inner.hits filter ↔
      inner.records.lookup record.ctx = some record ∧ filter.accepts record = true := by
  rw [Inner.hits, List.mem_filter, Table.mem_rows]
  refine and_congr_left fun _ => ⟨?_, fun found => ⟨record.ctx, found⟩⟩
  intro given
  obtain ⟨ctx, found⟩ := given
  rw [keyed ctx record found]
  exact found

theorem startOf_lt_position {after : Option ContextId} {record : Record} :
    startOf after < position record ↔ after.all (· < record.ctx) = true := by
  cases after with
  | none => simp [startOf, position]
  | some last => simp [startOf, position]

/-- Sorting the records that were found changes nothing. -/
theorem Keyed.scan_eq {inner : Inner} (keyed : Keyed inner) (filter : RecordFilter)
    (after : Option ContextId) (limit : Nat) :
    inner.scan filter after limit =
      page position (inner.hits filter) (startOf after) limit := by
  have found : (inner.records.rows.filter fun record =>
      filter.accepts record && after.all (· < record.ctx)) =
        (inner.hits filter).filter fun record => startOf after < position record := by
    rw [Inner.hits, List.filter_filter]
    apply List.filter_congr
    intro record _
    rw [Bool.eq_iff_iff, Bool.and_eq_true, Bool.and_eq_true, decide_eq_true_iff,
      startOf_lt_position, and_comm]
  have sorted : ((inner.hits filter).filter fun record =>
      startOf after < position record).Pairwise fun first second => first.ctx ≤ second.ctx := by
    apply ((keyed.hits filter).filter _).imp
    intro first second less
    exact (WithBot.coe_lt_coe.mp less).le
  rw [Inner.scan, found, sorted.insertionSort_eq, page]

theorem nextCursor_position (after : Option ContextId) (read : List Record) :
    nextCursor position (startOf after) read =
      startOf ((read.getLast?.map Record.ctx).or after) := by
  rw [nextCursor]
  cases read.getLast? <;> rfl

theorem scans_eq {filter : RecordFilter} {calls : List (Traced × Nat)} {after : Option ContextId}
    (keyed : ∀ call ∈ calls, Keyed call.1.inner) :
    scans filter after calls =
      reads position (fun traced : Traced => traced.inner.hits filter) (startOf after) calls := by
  induction calls generalizing after with
  | nil => rfl
  | cons call rest ih =>
      obtain ⟨traced, limit⟩ := call
      have own := keyed (traced, limit) (by simp)
      rw [scans, reads]
      simp only [own.scan_eq, nextCursor_position]
      rw [ih fun call member => keyed call (by simp [member])]

def Hits (filter : RecordFilter) (inner : Inner) (ctx : ContextId) : Prop :=
  ∃ record, inner.records.lookup ctx = some record ∧ filter.accepts record = true

theorem Hits.exists_position {filter : RecordFilter} {inner : Inner} {ctx : ContextId}
    (hits : Hits filter inner ctx) (keyed : Keyed inner) :
    ∃ record ∈ inner.hits filter, position record = ctx := by
  obtain ⟨record, found, accepted⟩ := hits
  have own := keyed ctx record found
  refine ⟨record, (mem_hits keyed).mpr ⟨own ▸ found, accepted⟩, ?_⟩
  rw [position, own]

section Reading

variable {filter : RecordFilter} {calls : List (Traced × Nat)}

theorem keyed_of_mem_scans (keyed : ∀ call ∈ calls, Keyed call.1.inner)
    {page : Traced × List Record} (listed : page ∈ scans filter none calls) :
    Keyed page.1.inner := by
  have states : page.1 ∈ (scans filter none calls).map Prod.fst := List.mem_map_of_mem listed
  rw [scans_eq keyed, map_fst_reads] at states
  obtain ⟨call, member, same⟩ := List.mem_map.mp states
  exact same ▸ keyed call member

theorem scans_increase (filter : RecordFilter) (keyed : ∀ call ∈ calls, Keyed call.1.inner) :
    ((scans filter none calls).flatMap Prod.snd).Pairwise fun first second =>
      first.ctx < second.ctx := by
  rw [scans_eq keyed]
  apply (reads_ordered fun call member => (keyed call member).hits filter).1.imp
  intro first second less
  exact WithBot.coe_lt_coe.mp less

theorem scans_complete (keyed : ∀ call ∈ calls, Keyed call.1.inner)
    (limits : ∀ call ∈ calls, 1 ≤ call.2) {earlier later : List (Traced × List Record)}
    {page : Traced × List Record} (split : scans filter none calls = earlier ++ page :: later)
    (empty : page.2 = []) {ctx : ContextId}
    (hits : ∀ call ∈ earlier ++ [page], Hits filter call.1.inner ctx) :
    ((earlier.flatMap Prod.snd).map Record.ctx).count ctx = 1 := by
  have joined : scans filter none calls = (earlier ++ [page]) ++ later := by
    rw [split, List.append_assoc, List.singleton_append]
  have stays : ∀ call ∈ earlier ++ [page],
      ∃ record ∈ call.1.inner.hits filter, position record = ctx := by
    intro call listed
    have read : call ∈ scans filter none calls := by
      rw [joined]
      exact List.mem_append_left _ listed
    exact (hits call listed).exists_position (keyed_of_mem_scans keyed read)
  have increasing := scans_increase filter keyed
  rw [split, List.flatMap_append] at increasing
  have nodup : ((earlier.flatMap Prod.snd).map Record.ctx).Nodup := by
    rw [List.Nodup, List.pairwise_map]
    exact (List.pairwise_append.mp increasing).1.imp fun less => less.ne
  apply List.count_eq_one_of_mem nodup
  rw [scans_eq keyed] at split
  obtain ⟨record, read, same⟩ := reads_complete
    (fun call member => (keyed call member).hits filter) limits split empty (WithBot.bot_lt_coe ctx)
    (fun call listed => .inl (stays call (List.mem_append_left _ listed))) (stays page (by simp))
  exact List.mem_map.mpr ⟨record, read, WithBot.coe_inj.mp same⟩

theorem scans_sound (keyed : ∀ call ∈ calls, Keyed call.1.inner) {page : Traced × List Record}
    (listed : page ∈ scans filter none calls) {record : Record} (read : record ∈ page.2) :
    filter.accepts record = true ∧ page.1.inner.records.lookup record.ctx = some record := by
  have own := keyed_of_mem_scans keyed listed
  rw [scans_eq keyed] at listed
  exact ((mem_hits own).mp (mem_reads listed read)).symm

theorem scans_unchanged (keyed : ∀ call ∈ calls, Keyed call.1.inner)
    (limits : ∀ call ∈ calls, 1 ≤ call.2) {inner : Inner} (own : Keyed inner)
    (unchanged : ∀ call ∈ calls, call.1.inner = inner)
    (drained : ∃ page ∈ scans filter none calls, page.2 = []) :
    (scans filter none calls).flatMap Prod.snd = inner.hits filter := by
  have nothing : upTo position (inner.hits filter) (startOf none) = [] :=
    upTo_of_above fun record _ => WithBot.bot_lt_coe record.ctx
  rw [scans_eq keyed] at drained ⊢
  have all := reads_same (own.hits filter)
    (fun call member => congrArg (Inner.hits · filter) (unchanged call member)) limits drained
  rw [nothing, List.nil_append] at all
  exact all

theorem scans_drain (keyed : ∀ call ∈ calls, Keyed call.1.inner) {inner : Inner}
    (own : Keyed inner) (unchanged : ∀ call ∈ calls, call.1.inner = inner)
    (enough : (inner.hits filter).length < calls.length) :
    ∃ page ∈ scans filter none calls, page.2 = [] := by
  by_contra full
  rw [scans_eq keyed] at full
  have most := length_le_of_reads (own.hits filter)
    (fun call member => congrArg (Inner.hits · filter) (unchanged call member))
    (fun page listed empty => full ⟨page, listed, empty⟩)
  omega

/-- However the store changes between the pages, one comes back empty once there are more
pages than contexts. -/
theorem scans_run_out (keyed : ∀ call ∈ calls, Keyed call.1.inner) (contexts : Finset ContextId)
    (within : ∀ call ∈ calls, call.1.inner.records.keys ⊆ contexts)
    (enough : contexts.card < calls.length) : ∃ page ∈ scans filter none calls, page.2 = [] := by
  by_contra full
  have states : (scans filter none calls).map Prod.fst = calls.map Prod.fst := by
    rw [scans_eq keyed, map_fst_reads]
  have nodup : (((scans filter none calls).flatMap Prod.snd).map Record.ctx).Nodup := by
    rw [List.Nodup, List.pairwise_map]
    exact (scans_increase filter keyed).imp fun less => less.ne
  have known : ∀ ctx ∈ ((scans filter none calls).flatMap Prod.snd).map Record.ctx,
      ctx ∈ contexts := by
    intro ctx returned
    obtain ⟨record, read, rfl⟩ := List.mem_map.mp returned
    obtain ⟨page, listed, read⟩ := List.mem_flatMap.mp read
    have state : page.1 ∈ calls.map Prod.fst := states ▸ List.mem_map_of_mem listed
    obtain ⟨call, member, same⟩ := List.mem_map.mp state
    apply within call member
    rw [same, Finmap.mem_keys]
    exact Finmap.mem_of_lookup_eq_some (scans_sound keyed listed read).2
  have most := (List.subperm_of_subset nodup fun ctx listed =>
    Finset.mem_toList.mpr (known ctx listed)).length_le
  have least := List.length_le_sum_of_one_le ((scans filter none calls).map (·.2.length)) (by
    intro length listed
    obtain ⟨page, member, rfl⟩ := List.mem_map.mp listed
    exact List.length_pos_of_ne_nil fun empty => full ⟨page, member, empty⟩)
  have pages := congrArg List.length states
  rw [List.length_map, List.length_flatMap, Finset.length_toList] at most
  simp only [List.length_map] at least pages
  omega

end Reading

/-- **Paging over contexts loses and repeats nothing.** -/
theorem scans_lose_nothing {externals : Externals} {traced : Traced}
    (reached : Traced.Reachable externals traced) (filter : RecordFilter) (rounds : List Round)
    (limits : ∀ round ∈ rounds, 1 ≤ round.limit) :
    let pages := scans filter none (traced.calls externals rounds)
    -- the ids increase, in byte order
    (pages.flatMap Prod.snd).Pairwise (fun first second =>
      byteOrder first.ctx.val < byteOrder second.ctx.val) ∧
    -- a context that matches at every page is returned once before one comes back empty
    (∀ earlier page later, pages = earlier ++ page :: later → page.2 = [] →
      ∀ ctx, (∀ call ∈ earlier ++ [page], Hits filter call.1.inner ctx) →
        ((earlier.flatMap Prod.snd).map Record.ctx).count ctx = 1) ∧
    -- what is returned matches and is the context's record at that page
    (∀ page ∈ pages, ∀ record ∈ page.2, filter.accepts record = true ∧
      page.1.inner.records.lookup record.ctx = some record) ∧
    -- when nothing changes, the pages up to an empty one are the sorted list of all matches,
    -- and an empty one comes
    (∀ inner : Inner, (∀ page ∈ pages, page.1.inner = inner) →
      ((∃ page ∈ pages, page.2 = []) →
        pages.flatMap Prod.snd = inner.records.rows.filter filter.accepts) ∧
      ((inner.records.rows.filter filter.accepts).length < rounds.length →
        ∃ page ∈ pages, page.2 = [])) := by
  have keyed : ∀ call ∈ traced.calls externals rounds, Keyed call.1.inner :=
    fun call member => Keyed.run (reached.calls rounds call member)
  have limited : ∀ call ∈ traced.calls externals rounds, 1 ≤ call.2 := Traced.limit_calls limits
  refine ⟨scans_increase filter keyed, ?_, ?_, ?_⟩
  · intro earlier page later split empty ctx hits
    exact scans_complete keyed limited split empty hits
  · intro page listed record read
    exact scans_sound keyed listed read
  · intro inner same
    have unchanged : ∀ call ∈ traced.calls externals rounds, call.1.inner = inner := by
      intro call member
      have states : call.1 ∈ (scans filter none (traced.calls externals rounds)).map Prod.fst := by
        rw [scans_eq keyed, map_fst_reads]
        exact List.mem_map_of_mem member
      obtain ⟨page, listed, state⟩ := List.mem_map.mp states
      exact state ▸ same page listed
    constructor
    · intro drained
      obtain ⟨page, listed, empty⟩ := drained
      have own : Keyed inner := same page listed ▸ keyed_of_mem_scans keyed listed
      exact scans_unchanged keyed limited own unchanged ⟨page, listed, empty⟩
    · intro enough
      rw [← Traced.length_calls externals traced rounds] at enough
      obtain ⟨call, member⟩ := List.exists_mem_of_length_pos (Nat.zero_lt_of_lt enough)
      have own : Keyed inner := unchanged call member ▸ keyed call member
      exact scans_drain keyed own unchanged enough

/-- Between the pages a context is opened, one expires and the log is pruned. -/
def sampleRounds : List Round :=
  let authorize := EventBody.authorized (Sample.mandate Sample.alice)
    (Sample.cart.snapshot Sample.sha256) "k1"
  [ ⟨[.append Sample.firstCtx ⟨10⟩ authorize], 1⟩,
    ⟨[.append Sample.firstCtx ⟨11⟩ .expired, .append Sample.secondCtx ⟨12⟩ authorize], 1⟩,
    ⟨[.prune ⟨20⟩], 1⟩ ]

def samplePages : List (Traced × List Record) :=
  scans ⟨none, none⟩ none (Traced.empty.calls Sample.externals sampleRounds)

theorem samplePages_lose_nothing :
    samplePages.map (fun page => page.1.inner.events.length) = [1, 3, 1] ∧
    (∀ call ∈ samplePages, Hits ⟨none, none⟩ call.1.inner Sample.firstCtx) ∧
    (samplePages.flatMap Prod.snd).Pairwise (fun first second =>
      byteOrder first.ctx.val < byteOrder second.ctx.val) ∧
    ∃ earlier page later, samplePages = earlier ++ page :: later ∧ page.2 = [] ∧
      ((earlier.flatMap Prod.snd).map Record.ctx).count Sample.firstCtx = 1 := by
  have matching : samplePages.all
      (fun page => (page.1.inner.records.lookup Sample.firstCtx).isSome) = true := by
    decide +kernel
  have hits : ∀ call ∈ samplePages, Hits ⟨none, none⟩ call.1.inner Sample.firstCtx := by
    intro call listed
    obtain ⟨record, found⟩ := Option.isSome_iff_exists.mp (List.all_eq_true.mp matching call listed)
    exact ⟨record, found, rfl⟩
  have reached : Traced.Reachable Sample.externals .empty := .refl
  obtain ⟨page, member, empty⟩ : ∃ page ∈ samplePages, page.2 = [] :=
    scans_run_out (fun call member => Keyed.run (reached.calls sampleRounds call member))
      {Sample.firstCtx, Sample.secondCtx} (by decide +kernel) (by decide +kernel)
  obtain ⟨earlier, later, split⟩ := List.append_of_mem member
  obtain ⟨increase, once, -, -⟩ := scans_lose_nothing reached ⟨none, none⟩ sampleRounds (by decide)
  refine ⟨by decide +kernel, hits, increase, earlier, page, later, split, empty,
    once earlier page later split empty _ fun call listed => hits call ?_⟩
  rw [split]
  obtain past | last := List.mem_append.mp listed
  · exact List.mem_append_left _ past
  · exact List.mem_append_right _ (List.mem_singleton.mp last ▸ List.mem_cons_self)

end MandateLedger.Memory
