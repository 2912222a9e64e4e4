import MandateLedger.Memory.Tokens

namespace MandateLedger.Memory

open MandateLedger.Core MandateLedger.Data

/-- The later record says all that the earlier one says, and its state comes after. -/
structure Precedes (earlier later : Record) : Prop where
  opened : Ledger.authorizedFrom later = Ledger.authorizedFrom earlier
  state : later.state ∈ past earlier.state
  rail : ∀ rail, earlier.rail = some rail → later.rail = some rail
  paymentReference : ∀ reference, earlier.paymentReference = some reference →
    later.paymentReference = some reference
  idempotencyKey : ∀ key, earlier.idempotencyKey = some key → later.idempotencyKey = some key
  settlementReference : ∀ reference, earlier.settlementReference = some reference →
    later.settlementReference = some reference
  failureReason : ∀ reason, earlier.failureReason = some reason → later.failureReason = some reason
  receiptReference : ∀ reference, earlier.receiptReference = some reference →
    later.receiptReference = some reference

/-- The fields that are set after the payment, with the events that set them. -/
structure Written (events : List Event) (record : Record) : Prop where
  settled : ∀ reference, record.settlementReference = some reference →
    ∃ event ∈ events, ∃ rail, event.body = .settled rail reference
  failed : ∀ reason, record.failureReason = some reason →
    ∃ event ∈ events, ∃ rail, event.body = .settlementFailed rail reason
  delivered : ∀ reference, record.receiptReference = some reference →
    ∃ event ∈ events, ∃ receipt, event.body = .delivered receipt ∧ receipt.reference = reference

namespace Written

variable {events : List Event} {record : Record} {event : Event}

theorem opens {ctx : ContextId} {mandate : Mandate} {cart : CartSnapshot} :
    Written events (Record.opened ctx mandate cart) := by
  refine ⟨?_, ?_, ?_⟩
  · rintro reference ⟨⟩
  · rintro reason ⟨⟩
  · rintro reference ⟨⟩

theorem append (written : Written events record) : Written (events ++ [event]) record := by
  refine ⟨?_, ?_, ?_⟩
  · intro reference set
    obtain ⟨earlier, listed, wrote⟩ := written.settled reference set
    exact ⟨earlier, List.mem_append_left _ listed, wrote⟩
  · intro reason set
    obtain ⟨earlier, listed, wrote⟩ := written.failed reason set
    exact ⟨earlier, List.mem_append_left _ listed, wrote⟩
  · intro reference set
    obtain ⟨earlier, listed, wrote⟩ := written.delivered reference set
    exact ⟨earlier, List.mem_append_left _ listed, wrote⟩

theorem advance (written : Written events record) :
    Written (events ++ [event]) (record.advance event.body) := by
  have kept : Written (events ++ [event]) record := written.append
  have last : event ∈ events ++ [event] := by simp
  cases body : event.body with
  | settled rail reference =>
      refine ⟨?_, kept.failed, kept.delivered⟩
      rintro _ ⟨rfl⟩
      exact ⟨event, last, rail, body⟩
  | settlementFailed rail reason =>
      refine ⟨kept.settled, ?_, kept.delivered⟩
      rintro _ ⟨rfl⟩
      exact ⟨event, last, rail, body⟩
  | delivered receipt =>
      refine ⟨kept.settled, kept.failed, ?_⟩
      rintro _ ⟨rfl⟩
      exact ⟨event, last, receipt, body, rfl⟩
  | _ => exact ⟨kept.settled, kept.failed, kept.delivered⟩

end Written

theorem replayRecord_written (events : List Event) :
    ∀ record, replayRecord events = some record → Written events record := by
  induction events using List.reverseRecOn with
  | nil => intro record replayed; cases replayed
  | append_singleton events event ih =>
      intro record replayed
      rw [replayRecord_append] at replayed
      unfold recordAfter at replayed
      split at replayed
      · cases replayed
        exact .opens
      · next before replayedBefore _ =>
          cases replayed
          exact (ih before replayedBefore).advance
      · cases replayed

/-- A record is in a state that one of its events led to. -/
theorem replayRecord_state (events : List Event) :
    ∀ record, replayRecord events = some record → record.state ∈ states events := by
  induction events using List.reverseRecOn with
  | nil => intro record replayed; cases replayed
  | append_singleton events event ih =>
      intro record replayed
      rw [replayRecord_append] at replayed
      unfold recordAfter at replayed
      split at replayed
      · next body =>
          cases replayed
          simp [states, body, EventBody.resultingState, Record.opened]
      · next before replayedBefore _ =>
          cases replayed
          have passed := ih before replayedBefore
          unfold states at passed ⊢
          rw [List.filterMap_append, List.mem_append]
          cases body : event.body with
          | authorized | denied => exact .inl passed
          | _ => exact .inr (by simp [body, EventBody.resultingState, Record.advance])
      · cases replayed

section Succession

variable {traced : Traced} {beginning : List Event} {ctx : ContextId} {record : Record}

theorem changes_subset {events all : List Event} (grown : events <+: all) (ctx : ContextId) :
    changes ctx events ⊆ changes ctx all :=
  (grown.sublist.filter _).subset

/-- The record of a context succeeds every record the context had before. -/
theorem Lifecycle.succeeds (lifecycle : Lifecycle traced) (grown : beginning <+: traced.history)
    (folds : replayRecord (changes ctx beginning) = some record) :
    ∃ newer, traced.inner.records.lookup ctx = some newer ∧ Precedes record newer := by
  have kept := changes_subset grown ctx
  have written := replayRecord_written _ record folds
  have provenance := replayRecord_provenance _ record folds
  obtain ⟨opening, opened, token⟩ := provenance.opened
  obtain ⟨newer, newest⟩ := lifecycle.found (kept opened)
  -- what an event wrote before, the newer record carries
  have carried : ∀ event ∈ changes ctx beginning, Carries newer event :=
    fun event listed => lifecycle.carries newest (kept listed)
  have paid : (record.rail = none ∧ record.paymentReference = none ∧
        record.idempotencyKey = none) ∨
      newer.rail = record.rail ∧ newer.paymentReference = record.paymentReference ∧
        newer.idempotencyKey = record.idempotencyKey := by
    refine provenance.paid.imp_right ?_
    rintro ⟨event, listed, _, holds, rail, reference, key⟩
    obtain ⟨_, _, _, _, _, body, rfl⟩ := paidToken_eq_some.mp holds
    have carries := carried event listed
    rw [Carries, body] at carries
    obtain ⟨newRail, newReference, newKey⟩ := carries
    exact ⟨newRail.trans rail.symm, newReference.trans reference.symm, newKey.trans key.symm⟩
  refine ⟨newer, newest, ?_, ?_, ?_, ?_, ?_, ?_, ?_, ?_⟩
  · obtain ⟨_, _, _, body, -⟩ := authorizedToken_eq_some.mp token
    have carries := carried opening opened
    rw [Carries, body, token, Option.some.injEq] at carries
    exact carries.symm
  · obtain ⟨event, listed, moves⟩ := List.mem_filterMap.mp (replayRecord_state _ record folds)
    obtain ⟨same, again, reached, -, -⟩ := lifecycle.passed (kept listed) moves
    cases newest.symm.trans again
    exact reached
  · intro rail set
    obtain ⟨unset, -, -⟩ | ⟨same, -, -⟩ := paid
    · simp [unset] at set
    · rw [same, set]
  · intro reference set
    obtain ⟨-, unset, -⟩ | ⟨-, same, -⟩ := paid
    · simp [unset] at set
    · rw [same, set]
  · intro key set
    obtain ⟨-, -, unset⟩ | ⟨-, -, same⟩ := paid
    · simp [unset] at set
    · rw [same, set]
  · intro reference set
    obtain ⟨event, listed, _, body⟩ := written.settled reference set
    have carries := carried event listed
    rwa [Carries, body] at carries
  · intro reason set
    obtain ⟨event, listed, _, body⟩ := written.failed reason set
    have carries := carried event listed
    rwa [Carries, body] at carries
  · intro reference set
    obtain ⟨event, listed, _, body, rfl⟩ := written.delivered reference set
    have carries := carried event listed
    rwa [Carries, body] at carries

theorem Lifecycle.authorizedToken_unique (lifecycle : Lifecycle traced) {event opening : Event}
    {token other : Authorized} (listed : event ∈ traced.history)
    (appended : opening ∈ traced.history) (stands : authorizedToken event = some token)
    (vouched : authorizedToken opening = some other) (same : token.ctx = other.ctx) :
    token = other := by
  obtain ⟨_, _, _, body, rfl⟩ := authorizedToken_eq_some.mp stands
  obtain ⟨_, _, _, body', rfl⟩ := authorizedToken_eq_some.mp vouched
  have first := lifecycle.once listed (by rw [body]; rfl)
  have second := lifecycle.once appended (by rw [body']; rfl)
  dsimp only at same
  rw [← same, first] at second
  cases second
  exact Option.some.inj (stands.symm.trans vouched)

/-- What an event earned can still be read off the record. -/
theorem Lifecycle.reads_back {α : Type} {token : Event → Option α} {state : PaymentState}
    {read : Record → Except LedgerError α} {value : α} (lifecycle : Lifecycle traced)
    (earned : ∃ event ∈ changes ctx traced.history, token event = some value)
    (moves : ∀ event, token event = some value → event.body.resultingState = some state)
    (reads : ∀ record event, Carries record event → event.ctx = record.ctx →
      event.body.resultingState = some state →
      ∃ value, read record = .ok value ∧ token event = some value) :
    ∃ record, traced.inner.records.lookup ctx = some record ∧ record.ctx = ctx ∧
      record.state ∈ past state ∧ read record = .ok value := by
  obtain ⟨event, listed, holds⟩ := earned
  obtain ⟨record, found, there, carries, own⟩ := lifecycle.passed listed (moves event holds)
  have same : event.ctx = record.ctx := (mem_changes.mp listed).2.1.trans own.symm
  obtain ⟨other, reads, again⟩ := reads record event carries same (moves event holds)
  cases holds.symm.trans again
  exact ⟨record, found, own, there, reads⟩

end Succession

end MandateLedger.Memory
