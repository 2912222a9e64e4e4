import MandateLedger.Memory.Append
import Mathlib.Logic.Relation

namespace MandateLedger.Memory

open MandateLedger.Core MandateLedger.Data

/-! # Runs of the store, and the lifecycle of a context

A run is any sequence of appends, revocations and prunes.  `Traced` carries,
beside the store, every event that was ever appended: `prune` shortens the log
but not that history.  The lifecycle invariant ties the records, the stored
chains and the index to it.
-/

/-- The store and everything ever appended to it. -/
structure Traced where
  inner : Inner
  history : List Event

namespace Traced

def empty : Traced := ⟨.empty, []⟩

def append (externals : Externals) (traced : Traced) (ctx : ContextId) (now : Timestamp)
    (body : EventBody) : Except StoreError AppendOutcome × Traced :=
  let (result, inner) := traced.inner.append externals ctx now body
  (result, ⟨inner, traced.history ++ (appendedEvent result).toList⟩)

def revoke (traced : Traced) (mandate : MandateId) : Traced :=
  { traced with inner := traced.inner.revoke mandate }

def prune (traced : Traced) (before : Timestamp) : Traced :=
  { traced with inner := traced.inner.prune before }

/-- One operation on the store. -/
inductive Step (externals : Externals) : Traced → Traced → Prop where
  | append (traced : Traced) (ctx : ContextId) (now : Timestamp) (body : EventBody) :
      Step externals traced (traced.append externals ctx now body).2
  | revoke (traced : Traced) (mandate : MandateId) :
      Step externals traced (traced.revoke mandate)
  | prune (traced : Traced) (before : Timestamp) :
      Step externals traced (traced.prune before)

/-- The states of every run from the empty store. -/
def Reachable (externals : Externals) (traced : Traced) : Prop :=
  Relation.ReflTransGen (Step externals) empty traced

def appends (externals : Externals) (traced : Traced)
    (entries : List (ContextId × Timestamp × EventBody)) : Traced :=
  entries.foldl (fun traced entry => (traced.append externals entry.1 entry.2.1 entry.2.2).2) traced

theorem Reachable.appends {externals : Externals} {traced : Traced}
    (reached : Reachable externals traced) (entries : List (ContextId × Timestamp × EventBody)) :
    Reachable externals (traced.appends externals entries) := by
  induction entries generalizing traced with
  | nil => exact reached
  | cons entry rest ih => exact ih (reached.tail (.append traced entry.1 entry.2.1 entry.2.2))

inductive Operation where
  | append (ctx : ContextId) (now : Timestamp) (body : EventBody)
  | revoke (mandate : MandateId)
  | prune (before : Timestamp)

def perform (externals : Externals) (traced : Traced) : Operation → Traced
  | .append ctx now body => (traced.append externals ctx now body).2
  | .revoke mandate => traced.revoke mandate
  | .prune before => traced.prune before

def performs (externals : Externals) (traced : Traced) (operations : List Operation) : Traced :=
  operations.foldl (perform externals) traced

theorem step_perform (externals : Externals) (traced : Traced) (operation : Operation) :
    Step externals traced (traced.perform externals operation) := by
  cases operation with
  | append ctx now body => exact .append traced ctx now body
  | revoke mandate => exact .revoke traced mandate
  | prune before => exact .prune traced before

theorem Reachable.performs {externals : Externals} {traced : Traced}
    (reached : Reachable externals traced) (operations : List Operation) :
    Reachable externals (traced.performs externals operations) := by
  induction operations generalizing traced with
  | nil => exact reached
  | cons operation rest ih => exact ih (reached.tail (traced.step_perform externals operation))

theorem append_cases (externals : Externals) (traced : Traced) (ctx : ContextId)
    (now : Timestamp) (body : EventBody) :
    (∃ result, traced.append externals ctx now body = (result, traced) ∧
      ∀ outcome, result = .ok outcome → outcome.refuses body = true) ∨
    ∃ event tables, traced.inner.Writes externals.decimals ctx now body tables ∧
      Event.new externals (traced.inner.prevHash ctx) (traced.inner.lastSeq + 1) ctx now body =
        .ok event ∧
      traced.append externals ctx now body =
        (.ok (.appended event), ⟨tables.log event, traced.history ++ [event]⟩) := by
  unfold append
  obtain ⟨result, appended, refusal⟩ | ⟨event, tables, writes, built, appended⟩ :=
    traced.inner.append_cases externals ctx now body
  · exact .inl ⟨result, by simp [appended, appendedEvent_of_refusal refusal], refusal⟩
  · exact .inr ⟨event, tables, writes, built, by rw [appended]; rfl⟩

/-- What a step leaves: all there was, one more event, a revocation, or a pruned log. -/
inductive Moved (externals : Externals) (before : Traced) : Traced → Prop where
  | same : Moved externals before before
  | logged {event : Event} {now : Timestamp} {tables : Inner}
      (writes : before.inner.Writes externals.decimals event.ctx now event.body tables)
      (built : Event.new externals (before.inner.prevHash event.ctx) (before.inner.lastSeq + 1)
        event.ctx now event.body = .ok event) :
      Moved externals before ⟨tables.log event, before.history ++ [event]⟩
  | revoked (mandate : MandateId) : Moved externals before (before.revoke mandate)
  | pruned (instant : Timestamp) : Moved externals before (before.prune instant)

theorem Step.moved {externals : Externals} {before after : Traced}
    (stepped : Step externals before after) : Moved externals before after := by
  cases stepped with
  | append ctx now body =>
      obtain ⟨result, appended, -⟩ | ⟨event, tables, writes, built, appended⟩ :=
        before.append_cases externals ctx now body
      · rw [appended]
        exact .same
      · rw [appended]
        obtain ⟨-, rfl, -, -, rfl, -⟩ := Event.new_eq_ok built
        exact .logged writes built
  | revoke mandate => exact .revoked mandate
  | prune instant => exact .pruned instant

end Traced

namespace Inner

theorem index_append (events : List Event) (event : Event) :
    index (events ++ [event]) =
      (index events).insert event.ctx
        (((index events).lookup event.ctx).getD [] ++ [events.length]) := by
  simp [index, List.zipIdx_append]

theorem index_lt_length (events : List Event) (ctx : ContextId) :
    ∀ position ∈ ((index events).lookup ctx).getD [], position < events.length := by
  induction events using List.reverseRecOn with
  | nil => simp [index]
  | append_singleton events event ih =>
      rw [index_append, Table.lookup_insert_eq, List.length_append, List.length_singleton]
      intro position listed
      by_cases own : ctx = event.ctx
      · subst own
        rw [if_pos rfl, Option.getD_some, List.mem_append, List.mem_singleton] at listed
        obtain earlier | rfl := listed
        · exact Nat.lt_succ_of_lt (ih position earlier)
        · exact Nat.lt_succ_self _
      · rw [if_neg own] at listed
        exact Nat.lt_succ_of_lt (ih position listed)

/-- The positions the index lists for a context are those of its events. -/
theorem index_events (events : List Event) (ctx : ContextId) :
    (((index events).lookup ctx).getD []).filterMap (fun position => events[position]?) =
      events.filter fun event => event.ctx = ctx := by
  induction events using List.reverseRecOn with
  | nil => simp
  | append_singleton events event ih =>
      have earlier : (((index events).lookup ctx).getD []).filterMap
          (fun position => (events ++ [event])[position]?) =
          events.filter fun event => event.ctx = ctx := by
        rw [← ih]
        apply List.filterMap_congr
        intro position listed
        exact List.getElem?_append_left (index_lt_length events ctx position listed)
      rw [index_append, Table.lookup_insert_eq]
      by_cases own : ctx = event.ctx
      · subst own
        rw [if_pos rfl, Option.getD_some, List.filterMap_append, earlier]
        simp
      · have other : ¬ event.ctx = ctx := fun same => own same.symm
        rw [if_neg own, earlier]
        simp [other]

/-- With the index in order, a context's chain is its part of the log. -/
theorem chain_eq {inner : Inner} (indexed : inner.byCtx = index inner.events) (ctx : ContextId) :
    inner.chain ctx = inner.events.filter fun event => event.ctx = ctx := by
  rw [chain, indexed, index_events]

theorem index_log {inner : Inner} (indexed : inner.byCtx = index inner.events) (event : Event) :
    (inner.log event).byCtx = index (inner.log event).events := by
  change inner.byCtx.insert event.ctx _ = index (inner.events ++ [event])
  rw [index_append, indexed]

end Inner

def changes (ctx : ContextId) (events : List Event) : List Event :=
  events.filter fun event => event.ctx = ctx && event.body.resultingState.isSome

def states (events : List Event) : List PaymentState :=
  events.filterMap fun event => event.body.resultingState

def recordAfter (record : Option Record) (event : Event) : Option Record :=
  match event.body, record with
  | .authorized mandate cart _, _ => some (Record.opened event.ctx mandate cart)
  | body, some record => some (record.advance body)
  | _, none => none

def replayRecord (events : List Event) : Option Record := events.foldl recordAfter none

/-- A path of the machine: it starts with `Authorized` and follows
`can_transition_to`. -/
structure IsPath (states : List PaymentState) : Prop where
  starts : ∀ first ∈ states.head?, first = .authorized
  follows : states.IsChain fun state next => state.canTransitionTo next = true

theorem IsPath.first : IsPath [.authorized] := ⟨by simp, by simp⟩

theorem IsPath.append {states : List PaymentState} {last target : PaymentState}
    (path : IsPath states) (current : states.getLast? = some last)
    (legal : last.canTransitionTo target = true) : IsPath (states ++ [target]) := by
  refine ⟨?_, ?_⟩
  · intro first head
    apply path.starts first
    cases states with
    | nil => cases current
    | cons => exact head
  · rw [List.isChain_append]
    refine ⟨path.follows, by simp, ?_⟩
    rintro previous final next ⟨⟩
    rw [current] at final
    cases final
    exact legal

theorem terminal_ends {state : PaymentState} {rest : List PaymentState}
    (terminal : state.isTerminal = true)
    (follows : (state :: rest).IsChain fun state next => state.canTransitionTo next = true) :
    rest = [] := by
  cases rest with
  | nil => rfl
  | cons next rest =>
      have legal := (List.isChain_cons_cons.mp follows).1
      rw [PaymentState.not_canTransitionTo_of_isTerminal terminal] at legal
      cases legal

/-- The paths of the machine, all of them. -/
theorem IsPath.mem {states : List PaymentState} (path : IsPath states) :
    states ∈ [[], [.authorized], [.authorized, .expired], [.authorized, .paid],
      [.authorized, .paid, .settled], [.authorized, .paid, .settlementFailed],
      [.authorized, .paid, .settled, .delivered],
      [.authorized, .paid, .settlementFailed, .compensated]] := by
  obtain ⟨starts, follows⟩ := path
  match states, starts, follows with
  | [], _, _ => simp
  | [first], starts, _ => simp [starts first rfl]
  | first :: second :: rest, starts, follows =>
      obtain rfl := starts first rfl
      obtain ⟨legal, follows⟩ := List.isChain_cons_cons.mp follows
      cases second <;> cases legal
      case expired => simp [terminal_ends rfl follows]
      case paid =>
          cases rest with
          | nil => simp
          | cons third rest =>
              obtain ⟨legal, follows⟩ := List.isChain_cons_cons.mp follows
              cases third <;> cases legal
              all_goals
                cases rest with
                | nil => simp
                | cons fourth rest =>
                    obtain ⟨legal, follows⟩ := List.isChain_cons_cons.mp follows
                    cases fourth <;> cases legal
                    simp [terminal_ends rfl follows]

theorem IsPath.nodup {states : List PaymentState} (path : IsPath states) : states.Nodup :=
  (by decide : ∀ states ∈ [[], [PaymentState.authorized], [.authorized, .expired],
      [.authorized, .paid], [.authorized, .paid, .settled], [.authorized, .paid, .settlementFailed],
      [.authorized, .paid, .settled, .delivered],
      [.authorized, .paid, .settlementFailed, .compensated]], states.Nodup) states path.mem

/-- A state with one predecessor in the machine is reached through it, once. -/
theorem IsPath.through {earlier later : List PaymentState} {source target : PaymentState}
    (path : IsPath (earlier ++ target :: later)) (inner : target ≠ .authorized)
    (only : ∀ state, state.canTransitionTo target = true → state = source) :
    earlier.count source = 1 := by
  obtain rfl | ⟨start, last, rfl⟩ := List.eq_nil_or_concat earlier
  · exact absurd (path.starts target rfl) inner
  · have legal := (List.isChain_append.mp path.follows).2.2 last (by simp) target (by simp)
    obtain rfl := only last legal
    exact List.count_eq_one_of_mem (List.nodup_append.mp path.nodup).1 (by simp)

theorem IsPath.ends {earlier later : List PaymentState} {final : PaymentState}
    (path : IsPath (earlier ++ final :: later)) (terminal : final.isTerminal = true) :
    later = [] :=
  terminal_ends terminal (List.isChain_append.mp path.follows).2.1

theorem IsPath.init {passed : List PaymentState} {last : PaymentState}
    (path : IsPath (passed ++ [last])) : IsPath passed := by
  refine ⟨?_, (List.isChain_append.mp path.follows).1⟩
  intro first head
  apply path.starts first
  cases passed with
  | nil => cases head
  | cons => exact head

theorem IsPath.fresh {passed : List PaymentState} {last : PaymentState}
    (path : IsPath (passed ++ [last])) : last ∉ passed := by
  intro again
  exact (List.nodup_append.mp path.nodup).2.2 last again last (List.mem_singleton_self _) rfl

theorem IsPath.authorized_mem {passed : List PaymentState} (path : IsPath passed)
    (some : passed ≠ []) : PaymentState.authorized ∈ passed := by
  cases passed with
  | nil => contradiction
  | cons first rest => simp [path.starts first rfl]

section Histories

variable {ctx : ContextId} {events : List Event} {event : Event}

theorem mem_changes :
    event ∈ changes ctx events ↔
      event ∈ events ∧ event.ctx = ctx ∧ event.body.resultingState.isSome = true := by
  simp [changes]

theorem changes_append_of_change (own : event.ctx = ctx)
    (moves : event.body.resultingState.isSome = true) :
    changes ctx (events ++ [event]) = changes ctx events ++ [event] := by
  simp [changes, own, moves]

theorem changes_append_of_not (unrelated : event.ctx ≠ ctx ∨ event.body.resultingState = none) :
    changes ctx (events ++ [event]) = changes ctx events := by
  obtain other | refusal := unrelated
  · simp [changes, other]
  · simp [changes, refusal]

theorem states_append (events : List Event) (event : Event) {target : PaymentState}
    (moves : event.body.resultingState = some target) :
    states (events ++ [event]) = states events ++ [target] := by
  simp [states, moves]

/-- Nothing precedes the event that opens a record. -/
theorem IsPath.opens_first {target : PaymentState} (path : IsPath (states events ++ [target]))
    (moves : ∀ event ∈ events, event.body.resultingState.isSome = true)
    (opened : target = .authorized) : events = [] := by
  subst opened
  by_contra some
  obtain ⟨head, rest, rfl⟩ := List.exists_cons_of_ne_nil some
  obtain ⟨state, started⟩ := Option.isSome_iff_exists.mp (moves head (by simp))
  exact path.fresh (path.init.authorized_mem (by simp [states, started]))

theorem replayRecord_append (events : List Event) (event : Event) :
    replayRecord (events ++ [event]) = recordAfter (replayRecord events) event := by
  simp [replayRecord]

/-- Dropping some contexts' events leaves the others' parts of the log. -/
theorem filter_ctx_filter (ctx : ContextId) (events : List Event) (gone : Finset ContextId) :
    (events.filter fun event => event.ctx ∉ gone).filter (fun event => event.ctx = ctx) =
      if ctx ∈ gone then [] else events.filter fun event => event.ctx = ctx := by
  rw [List.filter_filter]
  split
  · next dropped =>
      rw [List.filter_eq_nil_iff]
      intro event _ kept
      simp only [Bool.and_eq_true, decide_eq_true_eq] at kept
      exact kept.2 (kept.1 ▸ dropped)
  · next kept =>
      apply List.filter_congr
      intro event _
      by_cases own : event.ctx = ctx <;> simp [own, kept]

/-- Dropping some contexts' events drops their changes and no others. -/
theorem changes_filter (ctx : ContextId) (events : List Event) (gone : Finset ContextId) :
    changes ctx (events.filter fun event => event.ctx ∉ gone) =
      if ctx ∈ gone then [] else changes ctx events := by
  have split : ∀ log : List Event, changes ctx log =
      (log.filter fun event => event.ctx = ctx).filter fun event =>
        event.body.resultingState.isSome := by
    intro log
    rw [List.filter_filter]
    unfold changes
    apply List.filter_congr
    intro event _
    rw [Bool.and_comm]
  rw [split, split, filter_ctx_filter]
  split_ifs <;> simp

/-- A context's part of the log passes through the states of its changes. -/
theorem states_filter (ctx : ContextId) (events : List Event) :
    states (events.filter fun event => event.ctx = ctx) = states (changes ctx events) := by
  induction events with
  | nil => rfl
  | cons event rest ih =>
      by_cases own : event.ctx = ctx <;>
        cases moves : event.body.resultingState <;>
        simp_all [states, changes]

theorem changes_eq_nil_of_states (empty : states (changes ctx events) = []) :
    changes ctx events = [] := by
  rw [List.eq_nil_iff_forall_not_mem]
  intro event listed
  have moves := (List.mem_filter.mp listed).2
  rw [Bool.and_eq_true] at moves
  obtain ⟨target, moved⟩ := Option.isSome_iff_exists.mp moves.2
  have passed : target ∈ states (changes ctx events) := List.mem_filterMap.mpr ⟨event, listed, moved⟩
  rw [empty] at passed
  cases passed

end Histories

/-- What the events say of the fields of a record. -/
def saidOpening : EventBody → Option (Mandate × CartSnapshot)
  | .authorized mandate cart _ => some (mandate, cart)
  | _ => none

def saidPayment : EventBody → Option (String × String × Hash32)
  | .paid rail reference _ _ idempotencyKey => some (rail, reference, idempotencyKey)
  | _ => none

def saidSettlement : EventBody → Option String
  | .settled _ reference => some reference
  | _ => none

def saidFailure : EventBody → Option String
  | .settlementFailed _ reason => some reason
  | _ => none

def saidReceipt : EventBody → Option String
  | .delivered receipt => some receipt.reference
  | _ => none

def lastSaid {α : Type} (field : EventBody → Option α) (events : List Event) : Option α :=
  (events.filterMap fun event => field event.body).getLast?

/-- The record that the events tell of: nothing without an `Authorized` event, and in each
field what was last said about it. -/
def recordTold (ctx : ContextId) (events : List Event) : Option Record :=
  (lastSaid saidOpening events).map fun opening =>
    { ctx := ctx
      state := (lastSaid EventBody.resultingState events).getD .authorized
      mandateId := opening.1.body.id
      cartHash := opening.2.hash
      merchant := opening.2.claims.merchant
      amount := opening.2.claims.total
      rail := (lastSaid saidPayment events).map fun payment => payment.1
      paymentReference := (lastSaid saidPayment events).map fun payment => payment.2.1
      idempotencyKey := (lastSaid saidPayment events).map fun payment => payment.2.2
      settlementReference := lastSaid saidSettlement events
      failureReason := lastSaid saidFailure events
      receiptReference := lastSaid saidReceipt events }

theorem lastSaid_append {α : Type} (field : EventBody → Option α) (events : List Event)
    (event : Event) :
    lastSaid field (events ++ [event]) = (field event.body).or (lastSaid field events) := by
  unfold lastSaid
  cases said : field event.body <;> simp [said]

theorem recordTold_opened {event : Event} {mandate : Mandate} {cart : CartSnapshot}
    {requestKey : String} (body : event.body = .authorized mandate cart requestKey) :
    recordTold event.ctx [event] = some (Record.opened event.ctx mandate cart) := by
  simp [recordTold, lastSaid, body, saidOpening, saidPayment, saidSettlement, saidFailure,
    saidReceipt, EventBody.resultingState, Record.opened]

theorem recordTold_advanced {ctx : ContextId} {events : List Event} {event : Event}
    {target : PaymentState} (moves : event.body.resultingState = some target)
    (later : target ≠ .authorized) :
    recordTold ctx (events ++ [event]) =
      (recordTold ctx events).map fun record => record.advance event.body := by
  unfold recordTold
  simp only [lastSaid_append]
  cases body : event.body <;>
    simp_all [saidOpening, saidPayment, saidSettlement, saidFailure, saidReceipt,
      EventBody.resultingState, Record.advance, Function.comp_def]

/-- Folding the events of a context gives the record they tell of. -/
theorem replayRecord_eq_told {ctx : ContextId} {events : List Event}
    (own : ∀ event ∈ events, event.ctx = ctx)
    (moves : ∀ event ∈ events, event.body.resultingState.isSome = true)
    (path : IsPath (states events)) : replayRecord events = recordTold ctx events := by
  induction events using List.reverseRecOn with
  | nil => rfl
  | append_singleton events last ih =>
      obtain ⟨target, moved⟩ := Option.isSome_iff_exists.mp (moves last (by simp))
      have earlier : ∀ event ∈ events, event.body.resultingState.isSome = true :=
        fun event listed => moves event (List.mem_append_left _ listed)
      have passed := states_append events last moved
      rw [passed] at path
      by_cases opened : target = .authorized
      · obtain rfl := path.opens_first earlier opened
        obtain rfl := own last (by simp)
        cases body : last.body with
        | authorized mandate cart requestKey =>
            rw [List.nil_append, recordTold_opened body]
            simp [replayRecord, recordAfter, body]
        | _ => simp_all [EventBody.resultingState]
      · rw [replayRecord_append, recordTold_advanced moved opened,
          ih (fun event listed => own event (List.mem_append_left _ listed)) earlier path.init]
        unfold recordAfter
        cases body : last.body <;> cases recordTold ctx events <;>
          simp_all [EventBody.resultingState]

/-- One context: its record, the changes its stored chain holds, and all the
changes it ever had. -/
structure ContextLifecycle (record : Option Record) (stored history : List Event) : Prop where
  folded : record = replayRecord history
  path : IsPath (states history)
  current : record.map Record.state = (states history).getLast?
  stored : stored = history ∨
    stored = [] ∧ ∃ final, record = some final ∧ final.state.isTerminal = true

namespace ContextLifecycle

variable {record : Option Record} {stored history events : List Event} {event : Event}
  {ctx : ContextId}

theorem empty : ContextLifecycle none [] [] where
  folded := rfl
  path := ⟨by simp [states], by simp [states]⟩
  current := rfl
  stored := .inl rfl

theorem absent (lifecycle : ContextLifecycle none stored (changes ctx events)) :
    changes ctx events = [] := by
  have current := lifecycle.current.symm
  rw [Option.map_none, List.getLast?_eq_none_iff] at current
  exact changes_eq_nil_of_states current

theorem opened {mandate : Mandate} {cart : CartSnapshot} {requestKey : String}
    (lifecycle : ContextLifecycle none stored (changes ctx events))
    (body : event.body = .authorized mandate cart requestKey) :
    ContextLifecycle (some (Record.opened event.ctx mandate cart)) (stored ++ [event])
      (changes ctx events ++ [event]) := by
  have empty := lifecycle.absent
  have kept : stored = [] := by
    obtain same | ⟨same, -⟩ := lifecycle.stored
    · exact same.trans empty
    · exact same
  rw [empty, kept]
  have passed : states [event] = [.authorized] := by simp [states, body, EventBody.resultingState]
  refine ⟨?_, ?_, ?_, .inl rfl⟩
  · simp [replayRecord, recordAfter, body]
  · rw [List.nil_append, passed]
    exact .first
  · rw [List.nil_append, passed]
    rfl

/-- Every later event follows the machine and advances the record. -/
theorem advanced {before : Record} {target : PaymentState}
    (lifecycle : ContextLifecycle (some before) stored history)
    (moves : event.body.resultingState = some target) (later : target ≠ .authorized)
    (legal : before.state.canTransitionTo target = true) :
    ContextLifecycle (some (before.advance event.body)) (stored ++ [event])
      (history ++ [event]) := by
  have current : (states history).getLast? = some before.state := lifecycle.current.symm
  have passed := states_append history event moves
  refine ⟨?_, ?_, ?_, ?_⟩
  · rw [replayRecord_append, ← lifecycle.folded]
    unfold recordAfter
    cases body : event.body <;> simp_all [EventBody.resultingState]
  · rw [passed]
    exact lifecycle.path.append current legal
  · simp [passed, Record.advance_state moves later]
  · obtain same | ⟨-, final, found, terminal⟩ := lifecycle.stored
    · exact .inl (by rw [same])
    · cases found
      rw [PaymentState.not_canTransitionTo_of_isTerminal terminal] at legal
      cases legal

/-- A finished context, or one that was only refused, can lose its chain. -/
theorem pruned (lifecycle : ContextLifecycle record stored (changes ctx events))
    (finished : record.all (fun record => record.state.isTerminal) = true) :
    ContextLifecycle record [] (changes ctx events) := by
  refine ⟨lifecycle.folded, lifecycle.path, lifecycle.current, ?_⟩
  cases record with
  | none => exact .inl lifecycle.absent.symm
  | some final => exact .inr ⟨rfl, final, rfl, finished⟩

end ContextLifecycle

/-- The records, the stored chains and the index agree with the history. -/
structure Lifecycle (traced : Traced) : Prop where
  indexed : traced.inner.byCtx = Inner.index traced.inner.events
  contexts : ∀ ctx, ContextLifecycle (traced.inner.records.lookup ctx)
    (changes ctx traced.inner.events) (changes ctx traced.history)

namespace Lifecycle

variable {traced : Traced} {externals : Externals}

theorem empty : Lifecycle .empty := ⟨rfl, fun _ => .empty⟩

theorem logged (lifecycle : Lifecycle traced) {now : Timestamp} {event : Event} {tables : Inner}
    (writes : traced.inner.Writes externals.decimals event.ctx now event.body tables) :
    Lifecycle ⟨tables.log event, traced.history ++ [event]⟩ := by
  obtain ⟨events, byCtx, -, -⟩ := writes.frame
  have grown : (tables.log event).events = traced.inner.events ++ [event] := by
    rw [← events]
    rfl
  refine ⟨Inner.index_log (by rw [byCtx, events, lifecycle.indexed]) event, ?_⟩
  intro ctx
  have before := lifecycle.contexts ctx
  change ContextLifecycle (tables.records.lookup ctx) (changes ctx (tables.log event).events)
    (changes ctx (traced.history ++ [event]))
  rw [grown]
  by_cases own : ctx = event.ctx
  · subst own
    obtain ⟨refusal, same⟩ | ⟨mandate, cart, requestKey, body, absent, same⟩ |
      ⟨target, record, moves, later, found, legal, same⟩ := writes.records
    · rw [same, changes_append_of_not (.inr refusal), changes_append_of_not (.inr refusal)]
      exact before
    · have moved : event.body.resultingState.isSome = true := by rw [body]; rfl
      rw [same, Finmap.lookup_insert, changes_append_of_change rfl moved,
        changes_append_of_change rfl moved]
      rw [absent] at before
      exact before.opened body
    · have moved : event.body.resultingState.isSome = true := by rw [moves]; rfl
      rw [same, Finmap.lookup_insert, changes_append_of_change rfl moved,
        changes_append_of_change rfl moved]
      rw [found] at before
      exact before.advanced moves later legal
  · have other : event.ctx ≠ ctx ∨ event.body.resultingState = none := .inl (Ne.symm own)
    rw [writes.other_record own, changes_append_of_not other, changes_append_of_not other]
    exact before

/-- Pruning drops whole chains, and only of contexts that are over. -/
theorem prune (lifecycle : Lifecycle traced) (before : Timestamp) :
    Lifecycle (traced.prune before) := by
  unfold Traced.prune Inner.prune
  dsimp only
  split
  · exact ⟨lifecycle.indexed, lifecycle.contexts⟩
  · refine ⟨rfl, ?_⟩
    intro ctx
    dsimp only
    rw [changes_filter]
    split
    · next gone =>
        have ended := (Finset.mem_filter.mp gone).2
        rw [Inner.isGone, Bool.and_eq_true] at ended
        exact (lifecycle.contexts ctx).pruned ended.1
    · exact lifecycle.contexts ctx

theorem step {before after : Traced} (lifecycle : Lifecycle before)
    (stepped : Traced.Step externals before after) : Lifecycle after := by
  cases stepped.moved with
  | same => exact lifecycle
  | logged writes built => exact lifecycle.logged writes
  | revoked mandate => exact ⟨lifecycle.indexed, lifecycle.contexts⟩
  | pruned instant => exact lifecycle.prune instant

theorem run (reached : Traced.Reachable externals traced) : Lifecycle traced := by
  induction reached with
  | refl => exact empty
  | tail _ stepped ih => exact ih.step stepped

end Lifecycle

/-- The log holds events of the history, in their order. -/
theorem events_sublist {externals : Externals} {traced : Traced}
    (reached : Traced.Reachable externals traced) :
    traced.inner.events.Sublist traced.history := by
  induction reached with
  | refl => exact List.Sublist.refl _
  | @tail before after _ stepped ih =>
      cases stepped.moved with
      | same | revoked => exact ih
      | @logged event now tables writes built =>
          change (tables.events ++ [event]).Sublist (before.history ++ [event])
          rw [writes.frame.1]
          exact ih.append_right [event]
      | pruned instant => exact (before.inner.prune_sublist instant).trans ih

theorem changes_chain {inner : Inner} (indexed : inner.byCtx = Inner.index inner.events)
    (ctx : ContextId) : changes ctx (inner.chain ctx) = changes ctx inner.events := by
  rw [Inner.chain_eq indexed, changes, changes, List.filter_filter]
  apply List.filter_congr
  rintro event -
  by_cases own : event.ctx = ctx <;> simp [own]

/-- Lifecycle safety and event sourcing of one context: what the state-changing
events ever appended to it look like, and how the stored chain, the record and
the exported evidence relate to them. -/
structure EventSourced (traced : Traced) (ctx : ContextId) : Prop where
  path : IsPath (states (changes ctx traced.history))
  delivered : ∀ earlier later, states (changes ctx traced.history) = earlier ++ .delivered :: later →
    earlier.count .settled = 1
  settled : ∀ earlier later, states (changes ctx traced.history) = earlier ++ .settled :: later →
    earlier.count .paid = 1
  terminal : ∀ earlier final later, final.isTerminal = true →
    states (changes ctx traced.history) = earlier ++ final :: later → later = []
  complete : changes ctx (traced.inner.chain ctx) ≠ [] →
    changes ctx (traced.inner.chain ctx) = changes ctx traced.history
  folded : changes ctx (traced.inner.chain ctx) ≠ [] →
    traced.inner.records.lookup ctx = replayRecord (changes ctx (traced.inner.chain ctx))
  told : changes ctx (traced.inner.chain ctx) ≠ [] →
    traced.inner.records.lookup ctx = recordTold ctx (changes ctx (traced.inner.chain ctx))
  evidence : changes ctx (traced.inner.chain ctx) ≠ [] → ∀ generatedAt,
    ∃ record, traced.inner.records.lookup ctx = some record ∧
      (EvidenceBundle.new ctx generatedAt (traced.inner.chain ctx)).finalState = some record.state

theorem reachable_eventSourced {externals : Externals} {traced : Traced}
    (reached : Traced.Reachable externals traced) (ctx : ContextId) :
    EventSourced traced ctx := by
  have lifecycle := Lifecycle.run reached
  have context := lifecycle.contexts ctx
  have stored := changes_chain lifecycle.indexed ctx
  have complete : changes ctx (traced.inner.chain ctx) ≠ [] →
      changes ctx (traced.inner.chain ctx) = changes ctx traced.history := by
    intro holds
    rw [stored] at holds ⊢
    obtain same | ⟨empty, -⟩ := context.stored
    · exact same
    · exact absurd empty holds
  have folded : changes ctx (traced.inner.chain ctx) ≠ [] →
      traced.inner.records.lookup ctx = replayRecord (changes ctx (traced.inner.chain ctx)) := by
    intro holds
    rw [complete holds]
    exact context.folded
  refine ⟨context.path, ?_, ?_, ?_, complete, folded, ?_, ?_⟩
  · intro earlier later passed
    have path := context.path
    rw [passed] at path
    exact path.through (by decide) (fun state => by cases state <;> decide)
  · intro earlier later passed
    have path := context.path
    rw [passed] at path
    exact path.through (by decide) (fun state => by cases state <;> decide)
  · intro earlier final later terminal passed
    have path := context.path
    rw [passed] at path
    exact path.ends terminal
  · intro holds
    rw [folded holds, complete holds]
    refine replayRecord_eq_told ?_ ?_ context.path
    · intro event listed
      exact (mem_changes.mp listed).2.1
    · intro event listed
      exact (mem_changes.mp listed).2.2
  · intro holds generatedAt
    have passed : (EvidenceBundle.new ctx generatedAt (traced.inner.chain ctx)).finalState =
        (states (changes ctx traced.history)).getLast? := by
      rw [EvidenceBundle.finalState_eq, ← complete holds, stored, ← states_filter,
        ← Inner.chain_eq lifecycle.indexed]
      rfl
    cases found : traced.inner.records.lookup ctx with
    | none =>
        rw [found] at context
        exact absurd (complete holds ▸ context.absent) holds
    | some record =>
        refine ⟨record, rfl, ?_⟩
        rw [passed, ← context.current, found]
        rfl

/-- A purchase from authorization to delivery, refused once on the way. -/
def samplePurchase : Traced :=
  Traced.empty.appends Sample.externals
    [ (Sample.firstCtx, ⟨10⟩, .authorized (Sample.mandate Sample.alice)
        (Sample.cart.snapshot Sample.sha256) "k1"),
      (Sample.firstCtx, ⟨11⟩, .denied .payment .unboundProof "bound to nothing"),
      (Sample.firstCtx, ⟨12⟩, .paid "mock" "pay-1" "nonce-1" (Sample.cents 6000) .zero),
      (Sample.firstCtx, ⟨13⟩, .settled "mock" "pay-1@2"),
      (Sample.firstCtx, ⟨14⟩, .expired),
      (Sample.firstCtx, ⟨15⟩, .delivered ⟨"receipt-1", .agentReported⟩) ]

theorem samplePurchase_eventSourced :
    states (changes Sample.firstCtx samplePurchase.history) =
        [.authorized, .paid, .settled, .delivered] ∧
      (samplePurchase.inner.chain Sample.firstCtx).length = 5 ∧
      EventSourced samplePurchase Sample.firstCtx :=
  ⟨by decide +kernel, by decide +kernel,
    reachable_eventSourced (Traced.Reachable.appends .refl _) Sample.firstCtx⟩

end MandateLedger.Memory
