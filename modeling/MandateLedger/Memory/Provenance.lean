import MandateLedger.Core.Ledger
import MandateLedger.Memory.Lifecycle

namespace MandateLedger.Memory

open MandateLedger.Core MandateLedger.Data

def authorizedToken (event : Event) : Option Authorized :=
  match event.body with
  | .authorized mandate cart _ =>
      some ⟨event.ctx, mandate.body.id, cart.hash, cart.claims.merchant, cart.claims.total⟩
  | _ => none

def paidToken (event : Event) : Option Paid :=
  match event.body with
  | .paid rail reference _ _ key => some ⟨event.ctx, rail, reference, key⟩
  | _ => none

theorem authorizedToken_eq_some {event : Event} {token : Authorized} :
    authorizedToken event = some token ↔ ∃ mandate cart requestKey,
      event.body = .authorized mandate cart requestKey ∧
      token = ⟨event.ctx, mandate.body.id, cart.hash, cart.claims.merchant, cart.claims.total⟩ := by
  unfold authorizedToken
  cases event.body <;> simp [eq_comm]

theorem paidToken_eq_some {event : Event} {token : Paid} :
    paidToken event = some token ↔ ∃ rail reference nonce amount key,
      event.body = .paid rail reference nonce amount key ∧
      token = ⟨event.ctx, rail, reference, key⟩ := by
  unfold paidToken
  cases event.body <;> simp [eq_comm]

/-- What a record's fields are, in terms of the events it was folded from. -/
structure Provenance (events : List Event) (record : Record) : Prop where
  opened : ∃ event ∈ events, authorizedToken event = some (Ledger.authorizedFrom record)
  paid : (record.rail = none ∧ record.paymentReference = none ∧ record.idempotencyKey = none) ∨
    ∃ event ∈ events, ∃ token, paidToken event = some token ∧ record.rail = some token.rail ∧
      record.paymentReference = some token.reference ∧
      record.idempotencyKey = some token.idempotencyKey

namespace Provenance

variable {events : List Event} {record : Record} {event : Event}

theorem opens {mandate : Mandate} {cart : CartSnapshot} {requestKey : String}
    (body : event.body = .authorized mandate cart requestKey) :
    Provenance (events ++ [event]) (Record.opened event.ctx mandate cart) := by
  refine ⟨⟨event, by simp, ?_⟩, .inl ⟨rfl, rfl, rfl⟩⟩
  simp [authorizedToken, body, Ledger.authorizedFrom, Record.opened]

theorem advance (provenance : Provenance events record) :
    Provenance (events ++ [event]) (record.advance event.body) := by
  obtain ⟨⟨opening, opened, token⟩, paid⟩ := provenance
  refine ⟨⟨opening, List.mem_append_left _ opened, ?_⟩, ?_⟩
  · simpa [Ledger.authorizedFrom] using token
  · cases body : event.body with
    | paid rail reference nonce amount key =>
        exact .inr ⟨event, by simp, _, paidToken_eq_some.mpr ⟨_, _, _, _, _, body, rfl⟩, rfl, rfl, rfl⟩
    | _ =>
        obtain unpaid | ⟨earlier, listed, rest⟩ := paid
        · exact .inl unpaid
        · exact .inr ⟨earlier, List.mem_append_left _ listed, rest⟩

end Provenance

theorem replayRecord_provenance (events : List Event) :
    ∀ record, replayRecord events = some record → Provenance events record := by
  induction events using List.reverseRecOn with
  | nil => intro record replayed; cases replayed
  | append_singleton events event ih =>
      intro record replayed
      rw [replayRecord_append] at replayed
      unfold recordAfter at replayed
      split at replayed
      · next mandate cart requestKey body =>
          cases replayed
          exact .opens body
      · next before replayedBefore _ =>
          cases replayed
          exact (ih before replayedBefore).advance
      · cases replayed

section Runs

variable {externals : Externals} {traced : Traced} {ctx : ContextId} {record : Record}

theorem Lifecycle.provenance (lifecycle : Lifecycle traced)
    (found : traced.inner.records.lookup ctx = some record) :
    Provenance (changes ctx traced.history) record := by
  have folded := (lifecycle.contexts ctx).folded
  rw [found] at folded
  exact replayRecord_provenance _ record folded.symm

theorem Lifecycle.record_ctx (lifecycle : Lifecycle traced)
    (found : traced.inner.records.lookup ctx = some record) : record.ctx = ctx := by
  obtain ⟨⟨event, listed, token⟩, -⟩ := lifecycle.provenance found
  obtain ⟨_, _, _, -, same⟩ := authorizedToken_eq_some.mp token
  have own : record.ctx = event.ctx := congrArg Authorized.ctx same
  exact own.trans (mem_changes.mp listed).2.1

def arrivals (ctx : ContextId) (state : PaymentState) (events : List Event) : List Event :=
  events.filter fun event => event.ctx = ctx && event.body.resultingState = some state

theorem count_states (events : List Event) (state : PaymentState) :
    (states (changes ctx events)).count state = (arrivals ctx state events).length := by
  induction events with
  | nil => rfl
  | cons event rest ih =>
      by_cases own : event.ctx = ctx <;>
        cases moves : event.body.resultingState with
        | none => simp_all [states, changes, arrivals]
        | some target =>
            by_cases same : target = state <;> simp_all [states, changes, arrivals]

/-- A context passes through each state at most once. -/
theorem Lifecycle.once (lifecycle : Lifecycle traced) {event : Event} {state : PaymentState}
    (listed : event ∈ traced.history) (moves : event.body.resultingState = some state) :
    arrivals event.ctx state traced.history = [event] := by
  have path := (lifecycle.contexts event.ctx).path.nodup
  have short : (arrivals event.ctx state traced.history).length ≤ 1 := by
    rw [← count_states]
    exact List.nodup_iff_count_le_one.mp path state
  have member : event ∈ arrivals event.ctx state traced.history := by
    simp [arrivals, listed, moves]
  obtain ⟨only, same⟩ := List.length_eq_one_iff.mp
    (le_antisymm short (List.length_pos_of_mem member))
  rw [same] at member ⊢
  rw [List.mem_singleton.mp member]

theorem Lifecycle.state_of_paid (lifecycle : Lifecycle traced)
    (found : traced.inner.records.lookup ctx = some record)
    (paid : .paid ∈ states (changes ctx traced.history)) :
    record.state ≠ .authorized ∧
      (.settlementFailed ∉ states (changes ctx traced.history) → record.state.isLive = true) := by
  have context := lifecycle.contexts ctx
  have current := context.current
  rw [found, Option.map_some] at current
  have path := context.path.mem
  simp only [List.mem_cons, List.not_mem_nil, or_false] at path
  generalize states (changes ctx traced.history) = passed at paid current path ⊢
  rcases path with rfl | rfl | rfl | rfl | rfl | rfl | rfl | rfl <;>
    simp_all [PaymentState.isLive]

theorem Lifecycle.record_of_paid (lifecycle : Lifecycle traced)
    (paid : .paid ∈ states (changes ctx traced.history)) :
    ∃ record, traced.inner.records.lookup ctx = some record := by
  have current := (lifecycle.contexts ctx).current
  cases found : traced.inner.records.lookup ctx with
  | some record => exact ⟨record, rfl⟩
  | none =>
      rw [found, Option.map_none, eq_comm, List.getLast?_eq_none_iff] at current
      rw [current] at paid
      cases paid

theorem Lifecycle.paidToken_unique (lifecycle : Lifecycle traced) {event payment : Event}
    {token other : Paid} (listed : event ∈ traced.history) (appended : payment ∈ traced.history)
    (stands : paidToken event = some token) (vouched : paidToken payment = some other)
    (same : token.ctx = other.ctx) : token = other := by
  obtain ⟨_, _, _, _, _, body, rfl⟩ := paidToken_eq_some.mp stands
  obtain ⟨_, _, _, _, _, body', rfl⟩ := paidToken_eq_some.mp vouched
  have first := lifecycle.once listed (by rw [body]; rfl)
  have second := lifecycle.once appended (by rw [body']; rfl)
  dsimp only at same
  rw [← same, first] at second
  cases second
  exact Option.some.inj (stands.symm.trans vouched)

theorem mem_states_changes {state : PaymentState} {events : List Event} :
    state ∈ states (changes ctx events) ↔
      ∃ event ∈ events, event.ctx = ctx ∧ event.body.resultingState = some state := by
  simp only [states, changes, List.mem_filterMap, List.mem_filter, Bool.and_eq_true,
    decide_eq_true_eq]
  constructor
  · intro listed
    obtain ⟨event, ⟨listed, own, -⟩, moves⟩ := listed
    exact ⟨event, listed, own, moves⟩
  · intro listed
    obtain ⟨event, listed, own, moves⟩ := listed
    exact ⟨event, ⟨listed, own, by rw [moves]; rfl⟩, moves⟩

end Runs

end MandateLedger.Memory
