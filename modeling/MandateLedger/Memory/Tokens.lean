import MandateLedger.Memory.Provenance

namespace MandateLedger.Memory

open MandateLedger.Core MandateLedger.Data

/-- The record carries what the event wrote. -/
def Carries (record : Record) (event : Event) : Prop :=
  match event.body with
  | .authorized .. => authorizedToken event = some (Ledger.authorizedFrom record)
  | .paid rail reference _ _ key =>
      record.rail = some rail ∧ record.paymentReference = some reference ∧
        record.idempotencyKey = some key
  | .settled _ reference => record.settlementReference = some reference
  | .settlementFailed _ reason => record.failureReason = some reason
  | .delivered receipt => record.receiptReference = some receipt.reference
  | .compensated _ | .expired | .denied .. => True

section Carries

variable {record : Record} {event other : Event}

theorem carries_opened {mandate : Mandate} {cart : CartSnapshot} {requestKey : String}
    (body : event.body = .authorized mandate cart requestKey) :
    Carries (Record.opened event.ctx mandate cart) event := by
  simp [Carries, body, authorizedToken, Ledger.authorizedFrom, Record.opened]

theorem carries_advance (later : event.body.resultingState ≠ some .authorized) :
    Carries (record.advance event.body) event := by
  unfold Carries
  cases body : event.body with
  | authorized => simp [body, EventBody.resultingState] at later
  | _ => simp [Record.advance]

theorem Carries.advance (carries : Carries record event)
    (different : other.body.resultingState ≠ event.body.resultingState) :
    Carries (record.advance other.body) event := by
  unfold Carries at carries ⊢
  cases body : event.body <;> cases further : other.body <;>
    simp_all [Record.advance, EventBody.resultingState, Ledger.authorizedFrom]

end Carries

/-- The states from which a context has passed a state. -/
def past : PaymentState → List PaymentState
  | .authorized => [.authorized, .paid, .settled, .settlementFailed, .compensated, .delivered,
      .expired]
  | .paid => [.paid, .settled, .settlementFailed, .compensated, .delivered]
  | .settled => [.settled, .delivered]
  | .settlementFailed => [.settlementFailed, .compensated]
  | .compensated => [.compensated]
  | .delivered => [.delivered]
  | .expired => [.expired]

/-- The last state of a path tells which others are on it. -/
theorem IsPath.passed_iff {passed : List PaymentState} {last : PaymentState}
    (path : IsPath passed) (current : passed.getLast? = some last) (state : PaymentState) :
    state ∈ passed ↔ last ∈ past state := by
  have all : ∀ passed ∈ [[], [PaymentState.authorized], [.authorized, .expired],
      [.authorized, .paid], [.authorized, .paid, .settled], [.authorized, .paid, .settlementFailed],
      [.authorized, .paid, .settled, .delivered],
      [.authorized, .paid, .settlementFailed, .compensated]],
      ∀ last ∈ passed.getLast?, (state ∈ passed ↔ last ∈ past state) := by
    cases state <;> decide
  exact all passed path.mem last current

/-- Every event of a context is carried by the record it is folded to. -/
theorem carries_of_replayed {events : List Event}
    (moves : ∀ event ∈ events, event.body.resultingState.isSome = true)
    (path : IsPath (states events)) {record : Record} (replayed : replayRecord events = some record) :
    ∀ event ∈ events, Carries record event := by
  induction events using List.reverseRecOn generalizing record with
  | nil => simp
  | append_singleton events last ih =>
      obtain ⟨target, moved⟩ := Option.isSome_iff_exists.mp (moves last (by simp))
      have earlier : ∀ event ∈ events, event.body.resultingState.isSome = true :=
        fun event listed => moves event (List.mem_append_left _ listed)
      have passed := states_append events last moved
      rw [passed] at path
      rw [replayRecord_append] at replayed
      intro event listed
      rw [List.mem_append, List.mem_singleton] at listed
      unfold recordAfter at replayed
      split at replayed
      · next mandate cart requestKey body =>
          cases replayed
          rw [path.opens_first earlier (by simpa [body, EventBody.resultingState] using moved.symm)]
            at listed
          obtain listed | rfl := listed
          · cases listed
          · exact carries_opened body
      · next before replayedBefore unopened =>
          cases replayed
          obtain listed | rfl := listed
          · refine (ih earlier path.init replayedBefore event listed).advance ?_
            intro same
            have again : target ∈ states events :=
              List.mem_filterMap.mpr ⟨event, listed, same.symm.trans moved⟩
            exact path.fresh again
          · refine carries_advance ?_
            intro opens
            cases body : event.body with
            | authorized mandate cart requestKey => exact unopened _ _ _ body
            | _ => simp [body, EventBody.resultingState] at opens
      · cases replayed

def settledToken (event : Event) : Option Settled :=
  match event.body with
  | .settled _ reference => some ⟨event.ctx, reference⟩
  | _ => none

def failedToken (event : Event) : Option SettlementFailed :=
  match event.body with
  | .settlementFailed _ reason => some ⟨event.ctx, reason⟩
  | _ => none

def compensatedToken (event : Event) : Option Compensated :=
  match event.body with
  | .compensated _ => some ⟨event.ctx⟩
  | _ => none

def deliveredToken (event : Event) : Option Delivered :=
  match event.body with
  | .delivered receipt => some ⟨event.ctx, receipt.reference⟩
  | _ => none

/-- A token is present when the context has passed its state, and is then the
token of the event that led there. -/
def Earned {α : Type} (events : List Event) (state : PaymentState) (token : Event → Option α)
    (held : Option α) : Prop :=
  (held.isSome = true ↔ state ∈ states events) ∧
    ∀ event ∈ events, event.body.resultingState = some state → held = token event

/-- The tokens of a `reached` answer are those of the context's events. -/
structure Recovers (events : List Event) (reached : Reached) : Prop where
  authorized : ∀ event ∈ events, event.body.resultingState = some .authorized →
    authorizedToken event = some reached.authorized
  paid : Earned events .paid paidToken reached.paid
  settled : Earned events .settled settledToken reached.settled
  settlementFailed : Earned events .settlementFailed failedToken reached.settlementFailed
  compensated : Earned events .compensated compensatedToken reached.compensated
  delivered : Earned events .delivered deliveredToken reached.delivered
  expired : reached.expired = true ↔ .expired ∈ states events

section Reads

variable {record : Record} {event : Event}

theorem Carries.paidFrom (carries : Carries record event) (own : event.ctx = record.ctx)
    (moves : event.body.resultingState = some .paid) :
    ∃ value, Ledger.paidFrom record = .ok value ∧ paidToken event = some value := by
  unfold Carries at carries
  cases body : event.body with
  | paid rail reference nonce amount key =>
      rw [body] at carries
      obtain ⟨railed, referenced, keyed⟩ := carries
      refine ⟨⟨record.ctx, rail, reference, key⟩, ?_, by simp [paidToken, body, own]⟩
      rw [Ledger.paidFrom, railed, referenced, keyed]
      rfl
  | _ => simp [body, EventBody.resultingState] at moves

theorem Carries.settledFrom (carries : Carries record event) (own : event.ctx = record.ctx)
    (moves : event.body.resultingState = some .settled) :
    ∃ value, Ledger.settledFrom record = .ok value ∧ settledToken event = some value := by
  unfold Carries at carries
  cases body : event.body with
  | settled rail reference =>
      rw [body] at carries
      refine ⟨⟨record.ctx, reference⟩, ?_, by simp [settledToken, body, own]⟩
      rw [Ledger.settledFrom, carries]
      rfl
  | _ => simp [body, EventBody.resultingState] at moves

theorem Carries.failedFrom (carries : Carries record event) (own : event.ctx = record.ctx)
    (moves : event.body.resultingState = some .settlementFailed) :
    ∃ value, Ledger.failedFrom record = .ok value ∧ failedToken event = some value := by
  unfold Carries at carries
  cases body : event.body with
  | settlementFailed rail reason =>
      rw [body] at carries
      refine ⟨⟨record.ctx, reason⟩, ?_, by simp [failedToken, body, own]⟩
      rw [Ledger.failedFrom, carries]
      rfl
  | _ => simp [body, EventBody.resultingState] at moves

theorem Carries.deliveredFrom (carries : Carries record event) (own : event.ctx = record.ctx)
    (moves : event.body.resultingState = some .delivered) :
    ∃ value, Ledger.deliveredFrom record = .ok value ∧ deliveredToken event = some value := by
  unfold Carries at carries
  cases body : event.body with
  | delivered receipt =>
      rw [body] at carries
      refine ⟨⟨record.ctx, receipt.reference⟩, ?_, by simp [deliveredToken, body, own]⟩
      rw [Ledger.deliveredFrom, carries]
      rfl
  | _ => simp [body, EventBody.resultingState] at moves

end Reads

section Recovers

variable {traced : Traced} {ctx : ContextId} {record : Record}

theorem Lifecycle.passed_iff (lifecycle : Lifecycle traced)
    (found : traced.inner.records.lookup ctx = some record) (state : PaymentState) :
    state ∈ states (changes ctx traced.history) ↔ record.state ∈ past state := by
  have context := lifecycle.contexts ctx
  rw [found] at context
  exact context.path.passed_iff context.current.symm state

theorem Lifecycle.carries (lifecycle : Lifecycle traced)
    (found : traced.inner.records.lookup ctx = some record) {event : Event}
    (listed : event ∈ changes ctx traced.history) : Carries record event := by
  have context := lifecycle.contexts ctx
  rw [found] at context
  refine carries_of_replayed ?_ context.path context.folded.symm event listed
  intro other member
  exact (mem_changes.mp member).2.2

theorem earned_eq {α : Type} {events : List Event} {state : PaymentState} {condition : Bool}
    {token : Event → Option α} {read : Except LedgerError α}
    (passed : condition = true ↔ state ∈ states events)
    (reads : ∀ event ∈ events, event.body.resultingState = some state →
      ∃ value, read = .ok value ∧ token event = some value) :
    ∃ held, Ledger.earned condition read = .ok held ∧ Earned events state token held := by
  cases condition with
  | false =>
      refine ⟨none, rfl, by simpa using passed, ?_⟩
      intro event listed moves
      have member : state ∈ states events := List.mem_filterMap.mpr ⟨event, listed, moves⟩
      simp [member] at passed
  | true =>
      obtain ⟨event, listed, moves⟩ := List.mem_filterMap.mp (passed.mp rfl)
      obtain ⟨value, read, -⟩ := reads event listed moves
      refine ⟨some value, by rw [read]; rfl, by simpa using passed, ?_⟩
      intro other member same
      obtain ⟨again, readAgain, stands⟩ := reads other member same
      rw [read] at readAgain
      cases readAgain
      exact stands.symm

/-- `reached` succeeds on every record, with the tokens the context has earned. -/
theorem Lifecycle.recovers (lifecycle : Lifecycle traced)
    (found : traced.inner.records.lookup ctx = some record) :
    ∃ reached, Ledger.reachedFrom ctx record = .ok reached ∧ reached.state = record.state ∧
      Recovers (changes ctx traced.history) reached := by
  have own := lifecycle.record_ctx found
  have passed := lifecycle.passed_iff found
  have filed : ∀ event ∈ changes ctx traced.history, event.ctx = record.ctx := by
    intro event listed
    rw [own]
    exact (mem_changes.mp listed).2.1
  have held : ∀ {α : Type} {state : PaymentState} (condition : Bool) {token : Event → Option α}
      {read : Except LedgerError α}, (condition = true ↔ record.state ∈ past state) →
      (∀ event, Carries record event → event.ctx = record.ctx →
        event.body.resultingState = some state → ∃ value, read = .ok value ∧ token event = some value) →
      ∃ held, Ledger.earned condition read = .ok held ∧
        Earned (changes ctx traced.history) state token held := by
    intro α state condition token read there reads
    refine earned_eq (there.trans (passed state).symm) ?_
    intro event listed moves
    exact reads event (lifecycle.carries found listed) (filed event listed) moves
  obtain ⟨paid, readPaid, earnedPaid⟩ := held
    (record.state ∈ [.paid, .settled, .settlementFailed, .compensated, .delivered])
    (by simp [past]) fun _ => Carries.paidFrom
  obtain ⟨settled, readSettled, earnedSettled⟩ := held
    (record.state ∈ [.settled, .delivered]) (by simp [past]) fun _ => Carries.settledFrom
  obtain ⟨failed, readFailed, earnedFailed⟩ := held
    (record.state ∈ [.settlementFailed, .compensated]) (by simp [past]) fun _ => Carries.failedFrom
  obtain ⟨delivered, readDelivered, earnedDelivered⟩ := held
    (record.state = .delivered) (by simp [past]) fun _ => Carries.deliveredFrom
  refine ⟨{
    state := record.state
    authorized := Ledger.authorizedFrom record
    paid := paid
    settled := settled
    settlementFailed := failed
    compensated := if record.state = .compensated then some ⟨ctx⟩ else none
    delivered := delivered
    expired := record.state = .expired }, ?_, rfl, ?_⟩
  · rw [Ledger.reachedFrom, readPaid, readSettled, readFailed, readDelivered]
    rfl
  · refine ⟨?_, earnedPaid, earnedSettled, earnedFailed, ⟨?_, ?_⟩, earnedDelivered, ?_⟩
    · intro event listed moves
      have carries := lifecycle.carries found listed
      unfold Carries at carries
      cases body : event.body with
      | authorized =>
          rw [body] at carries
          exact carries
      | _ => simp [body, EventBody.resultingState] at moves
    · rw [passed]
      by_cases last : record.state = .compensated <;> simp [past, last]
    · intro event listed moves
      have last : record.state ∈ past .compensated :=
        (passed .compensated).mp (List.mem_filterMap.mpr ⟨event, listed, moves⟩)
      cases body : event.body with
      | compensated reference =>
          simp [List.mem_singleton.mp last, compensatedToken, body, filed event listed, own]
      | _ => simp [body, EventBody.resultingState] at moves
    · simp [passed, past]

end Recovers

theorem Lifecycle.found {traced : Traced} {ctx : ContextId} (lifecycle : Lifecycle traced)
    {event : Event} (listed : event ∈ changes ctx traced.history) :
    ∃ record, traced.inner.records.lookup ctx = some record := by
  cases found : traced.inner.records.lookup ctx with
  | some record => exact ⟨record, rfl⟩
  | none =>
      have context := lifecycle.contexts ctx
      rw [found] at context
      rw [context.absent] at listed
      cases listed

theorem Lifecycle.arrived {traced : Traced} {ctx : ContextId} {record : Record}
    {state : PaymentState} (lifecycle : Lifecycle traced)
    (found : traced.inner.records.lookup ctx = some record) (there : record.state ∈ past state) :
    ∃ event ∈ changes ctx traced.history, event.body.resultingState = some state ∧
      Carries record event ∧ event.ctx = record.ctx := by
  obtain ⟨event, listed, moves⟩ :=
    List.mem_filterMap.mp ((lifecycle.passed_iff found state).mpr there)
  exact ⟨event, listed, moves, lifecycle.carries found listed,
    (mem_changes.mp listed).2.1.trans (lifecycle.record_ctx found).symm⟩

theorem Lifecycle.passed {traced : Traced} {ctx : ContextId} {event : Event} {state : PaymentState}
    (lifecycle : Lifecycle traced) (listed : event ∈ changes ctx traced.history)
    (moves : event.body.resultingState = some state) :
    ∃ record, traced.inner.records.lookup ctx = some record ∧ record.state ∈ past state ∧
      Carries record event ∧ record.ctx = ctx := by
  obtain ⟨record, found⟩ := lifecycle.found listed
  have there : state ∈ states (changes ctx traced.history) :=
    List.mem_filterMap.mpr ⟨event, listed, moves⟩
  exact ⟨record, found, (lifecycle.passed_iff found state).mp there,
    lifecycle.carries found listed, lifecycle.record_ctx found⟩

theorem Lifecycle.reads {traced : Traced} {ctx : ContextId} {record : Record} {α : Type}
    {state : PaymentState} {token : Event → Option α} {read : Except LedgerError α}
    (lifecycle : Lifecycle traced) (found : traced.inner.records.lookup ctx = some record)
    (reads : ∀ event, Carries record event → event.ctx = record.ctx →
      event.body.resultingState = some state → ∃ value, read = .ok value ∧ token event = some value)
    (there : record.state ∈ past state) : ∃ value, read = .ok value := by
  obtain ⟨event, -, moves, carries, own⟩ := lifecycle.arrived found there
  obtain ⟨value, reads, -⟩ := reads event carries own moves
  exact ⟨value, reads⟩

/-- The stored mandate is that of the event that opened the context, as long as
the chain is there. -/
theorem Lifecycle.authorizedMandate {traced : Traced} {ctx : ContextId} {record : Record}
    (lifecycle : Lifecycle traced) (found : traced.inner.records.lookup ctx = some record) :
    (∃ event ∈ changes ctx traced.history, ∃ mandate cart requestKey,
      event.body = .authorized mandate cart requestKey ∧
        traced.inner.authorizedMandate ctx = some mandate) ∨
    (traced.inner.authorizedMandate ctx = none ∧ record.state.isTerminal = true) := by
  have stored := (lifecycle.contexts ctx).stored
  have member : ∀ event, event ∈ changes ctx traced.inner.events →
      event ∈ traced.inner.chain ctx := by
    intro event listed
    obtain ⟨past, own, -⟩ := mem_changes.mp listed
    rw [Inner.chain_eq lifecycle.indexed]
    exact List.mem_filter.mpr ⟨past, decide_eq_true own⟩
  cases read : traced.inner.authorizedMandate ctx with
  | some mandate =>
      left
      obtain ⟨event, listed, signed⟩ := List.exists_of_findSome?_eq_some read
      rw [Inner.chain_eq lifecycle.indexed] at listed
      obtain ⟨past, own⟩ := List.mem_filter.mp listed
      cases body : event.body with
      | authorized presented cart requestKey =>
          rw [body] at signed
          cases signed
          have change : event ∈ changes ctx traced.inner.events :=
            mem_changes.mpr ⟨past, of_decide_eq_true own, by rw [body]; rfl⟩
          obtain same | ⟨none, -⟩ := stored
          · exact ⟨event, same ▸ change, _, _, _, body, rfl⟩
          · rw [none] at change
            cases change
      | _ => simp [body, EventBody.mandate?] at signed
  | none =>
      right
      refine ⟨rfl, ?_⟩
      obtain same | ⟨-, final, last, terminal⟩ := stored
      · obtain ⟨opening, opened, token⟩ := (lifecycle.provenance found).opened
        obtain ⟨mandate, cart, requestKey, body, -⟩ := authorizedToken_eq_some.mp token
        have silent := List.findSome?_eq_none_iff.mp read opening (member opening (same ▸ opened))
        simp [body, EventBody.mandate?] at silent
      · rw [found] at last
        cases last
        exact terminal

/-- The token of the state a context is in. -/
def Latest (ctx : ContextId) (reached : Reached) : Resumed → Prop
  | .authorized token => reached.state = .authorized ∧ reached.authorized = token
  | .paid token => reached.state = .paid ∧ reached.paid = some token
  | .settled token => reached.state = .settled ∧ reached.settled = some token
  | .settlementFailed token =>
      reached.state = .settlementFailed ∧ reached.settlementFailed = some token
  | .compensated token => reached.state = .compensated ∧ reached.compensated = some token
  | .delivered token => reached.state = .delivered ∧ reached.delivered = some token
  | .expired own => reached.state = .expired ∧ own = ctx

theorem earned_true {α : Type} {read : Except LedgerError α} {held : Option α}
    (earned : Ledger.earned true read = .ok held) : ∃ value, read = .ok value ∧ held = some value := by
  obtain ⟨value, reads, same⟩ := bind_eq_ok.mp earned
  cases same
  exact ⟨value, reads, rfl⟩

/-- `resume` hands out the latest of the tokens `reached` lists. -/
theorem resumedFrom_latest {ctx : ContextId} {record : Record} {reached : Reached}
    (read : Ledger.reachedFrom ctx record = .ok reached) :
    ∃ resumed, Ledger.resumedFrom ctx record = .ok resumed ∧ Latest ctx reached resumed := by
  obtain ⟨paid, readPaid, rest⟩ := bind_eq_ok.mp read
  obtain ⟨settled, readSettled, rest⟩ := bind_eq_ok.mp rest
  obtain ⟨failed, readFailed, rest⟩ := bind_eq_ok.mp rest
  obtain ⟨delivered, readDelivered, rest⟩ := bind_eq_ok.mp rest
  cases rest
  unfold Ledger.resumedFrom Latest
  cases state : record.state with
  | authorized => exact ⟨_, rfl, rfl, rfl⟩
  | compensated => exact ⟨_, rfl, rfl, by simp⟩
  | expired => exact ⟨_, rfl, rfl, rfl⟩
  | paid =>
      rw [state] at readPaid
      obtain ⟨token, reads, rfl⟩ := earned_true readPaid
      exact ⟨.paid token, by rw [reads]; rfl, rfl, rfl⟩
  | settled =>
      rw [state] at readSettled
      obtain ⟨token, reads, rfl⟩ := earned_true readSettled
      exact ⟨.settled token, by rw [reads]; rfl, rfl, rfl⟩
  | settlementFailed =>
      rw [state] at readFailed
      obtain ⟨token, reads, rfl⟩ := earned_true readFailed
      exact ⟨.settlementFailed token, by rw [reads]; rfl, rfl, rfl⟩
  | delivered =>
      rw [state] at readDelivered
      obtain ⟨token, reads, rfl⟩ := earned_true readDelivered
      exact ⟨.delivered token, by rw [reads]; rfl, rfl, rfl⟩

end MandateLedger.Memory
