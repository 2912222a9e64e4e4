import MandateLedger.Core.Reservations
import MandateLedger.Memory.Provenance

namespace MandateLedger.Memory

open MandateLedger.Core MandateLedger.Data

def NonnegativeHistory (history : List Event) : Prop :=
  ∀ event ∈ history, ∀ mandate cart requestKey,
    event.body = .authorized mandate cart requestKey → 0 ≤ cart.claims.total.value

theorem Lifecycle.nonnegative_record {traced : Traced} {ctx : ContextId} {record : Record}
    (lifecycle : Lifecycle traced) (nonnegative : NonnegativeHistory traced.history)
    (found : traced.inner.records.lookup ctx = some record) : 0 ≤ record.amount.value := by
  obtain ⟨event, listed, stands⟩ := (lifecycle.provenance found).opened
  obtain ⟨mandate, cart, requestKey, body, same⟩ := authorizedToken_eq_some.mp stands
  have amount : record.amount = cart.claims.total := congrArg Authorized.amount same
  rw [amount]
  exact nonnegative event (mem_changes.mp listed).1 mandate cart requestKey body

/-- The running totals agree with the records and the history. -/
structure Budget (traced : Traced) : Prop where
  total : Backed (· = ·) traced.inner.reserved traced.inner.records
  authorized : ∀ mandate, (traced.inner.reserved.lookup mandate).isSome = true ↔
    EverAuthorized mandate traced.history
  currency : Denominated traced.inner.reserved traced.inner.records

namespace Budget

variable {ops : DecimalOps} {traced : Traced}

theorem empty : Budget .empty where
  total _ := rfl
  authorized mandate := by simp [Traced.empty, Inner.empty, EverAuthorized]
  currency _ _ found := by cases found

theorem opened (budget : Budget traced) (exact : ops.Exact)
    {event : Event} {mandate : Mandate} {cart : CartSnapshot} {requestKey : String} {next : Money}
    {inner : Inner}
    (body : event.body = .authorized mandate cart requestKey)
    (absent : traced.inner.records.lookup event.ctx = none)
    (granted : checkBudget ops mandate.body.scope cart.claims.total
      (traced.inner.reserved.lookup mandate.body.id) = .ok (.granted next))
    (reserved : inner.reserved = traced.inner.reserved.insert mandate.body.id next)
    (recorded : inner.records = traced.inner.records.insert event.ctx
      (Record.opened event.ctx mandate cart)) :
    Budget ⟨inner, traced.history ++ [event]⟩ := by
  obtain ⟨sum, currency, compatible, -⟩ := checkBudget_granted exact granted
  constructor
  · dsimp only
    rw [reserved, recorded]
    exact budget.total.opened (fun c => congrArg (c + ·)) Eq.trans absent rfl sum
  · intro other
    dsimp only
    rw [reserved, Table.lookup_insert_eq, everAuthorized_append]
    by_cases same : other = mandate.body.id
    · subst same
      simp [body]
    · rw [if_neg same, budget.authorized]
      simp [body, Ne.symm same]
  · dsimp only
    rw [reserved, recorded]
    refine budget.currency.opened currency ?_
    intro current held
    rw [compatible current held, currency]

theorem moved (budget : Budget traced) {event : Event} {record : Record} {inner : Inner}
    (unopened : event.body.resultingState ≠ some .authorized)
    (found : traced.inner.records.lookup event.ctx = some record)
    (kept : ∀ mandate, liveAmount mandate (record.advance event.body) = liveAmount mandate record)
    (reserved : inner.reserved = traced.inner.reserved)
    (recorded : inner.records = traced.inner.records.insert event.ctx
      (record.advance event.body)) :
    Budget ⟨inner, traced.history ++ [event]⟩ := by
  constructor
  · dsimp only
    rw [reserved, recorded]
    exact budget.total.moved found kept
  · intro mandate
    dsimp only
    rw [reserved, budget.authorized, everAuthorized_moved unopened]
  · dsimp only
    rw [reserved, recorded]
    exact budget.currency.moved found

theorem released (budget : Budget traced) (exact : ops.Exact) {event : Event} {record : Record}
    {next : Money} {inner : Inner} (unopened : event.body.resultingState ≠ some .authorized)
    (found : traced.inner.records.lookup event.ctx = some record)
    (live : record.state.isLive = true)
    (ended : ∀ mandate, liveAmount mandate (record.advance event.body) = 0)
    (given : releaseFrom ops (traced.inner.reserved.lookup record.mandateId) record.mandateId
      record.amount = .ok next)
    (reserved : inner.reserved = traced.inner.reserved.insert record.mandateId next)
    (recorded : inner.records = traced.inner.records.insert event.ctx
      (record.advance event.body)) :
    Budget ⟨inner, traced.history ++ [event]⟩ := by
  obtain ⟨current, held, -, currency, rest, -⟩ := releaseFrom_eq_ok exact given
  constructor
  · dsimp only
    rw [reserved, recorded]
    exact budget.total.released (fun c => congrArg (c + ·)) found live ended held rest
  · intro mandate
    dsimp only
    rw [everAuthorized_moved unopened, ← budget.authorized, reserved, Table.lookup_insert_eq]
    by_cases own : mandate = record.mandateId
    · subst own
      simp [held]
    · rw [if_neg own]
  · dsimp only
    rw [reserved, recorded]
    exact (budget.currency.insert held currency).moved found

theorem denied (budget : Budget traced) {event : Event} {inner : Inner}
    (unopened : event.body.resultingState ≠ some .authorized)
    (reserved : inner.reserved = traced.inner.reserved)
    (recorded : inner.records = traced.inner.records) :
    Budget ⟨inner, traced.history ++ [event]⟩ := by
  constructor
  · dsimp only
    rw [reserved, recorded]
    exact budget.total
  · intro mandate
    dsimp only
    rw [reserved, budget.authorized, everAuthorized_moved unopened]
  · dsimp only
    rw [reserved, recorded]
    exact budget.currency

theorem logged (budget : Budget traced) (exact : ops.Exact)
    {now : Timestamp} {event : Event} {tables : Inner}
    (writes : traced.inner.Writes ops event.ctx now event.body tables) :
    Budget ⟨tables.log event, traced.history ++ [event]⟩ := by
  generalize body : event.body = written at writes
  cases writes with
  | authorized absent active paced granted =>
      refine budget.opened exact body absent granted ?_ ?_
      · simp only [Inner.log, Inner.putRecord, Inner.reserve, Inner.widen]
        split <;> rfl
      · simp only [Inner.log, Inner.putRecord, Inner.reserve, Inner.widen]
        split <;> rfl
  | paid found legal free =>
      have moves : event.body.resultingState = some .paid := by rw [body]; rfl
      refine budget.moved (by simp [moves]) found ?_ rfl (by rw [body]; rfl)
      intro mandate
      exact liveAmount_advance_kept moves (by decide) (PaymentState.isLive_of_plain legal (by simp))
  | moved moves plain found legal =>
      subst body
      have unopened : event.body.resultingState ≠ some .authorized := by
        rw [moves]
        rintro ⟨⟩
        simp at plain
      refine budget.moved unopened found ?_ rfl rfl
      intro mandate
      exact liveAmount_advance_kept moves (fun same => unopened (same ▸ moves))
        (PaymentState.isLive_of_plain legal (.inr plain))
  | released moves giving found legal given =>
      subst body
      obtain ⟨live, ended⟩ := PaymentState.isLive_of_giving legal giving
      have unopened : event.body.resultingState ≠ some .authorized := by
        rw [moves]
        rintro ⟨⟩
        simp at giving
      refine budget.released exact unopened found live ?_ given rfl rfl
      intro mandate
      exact liveAmount_advance_released moves (fun same => unopened (same ▸ moves)) ended
  | denied uncapped => exact budget.denied (by simp [body, EventBody.resultingState]) rfl rfl

theorem step {externals : Externals} {before after : Traced} (budget : Budget before)
    (exact : externals.decimals.Exact)
    (stepped : Traced.Step externals before after) : Budget after := by
  cases stepped.moved with
  | same => exact budget
  | logged writes built => exact budget.logged exact writes
  | revoked mandate => exact ⟨budget.total, budget.authorized, budget.currency⟩
  | pruned instant =>
      obtain ⟨events, byCtx, pruned⟩ := before.inner.prune_frame instant
      rw [Traced.prune, pruned]
      exact ⟨budget.total, budget.authorized, budget.currency⟩

theorem run {externals : Externals} (exact : externals.decimals.Exact)
    (reached : Traced.Reachable externals traced) : Budget traced := by
  induction reached with
  | refl => exact empty
  | tail reached stepped ih => exact ih.step exact stepped

/-- A live context's amount is part of its mandate's total, so it can be given
back. -/
theorem release_defined (budget : Budget traced) (lifecycle : Lifecycle traced)
    (exact : ops.Exact) (nonnegative : NonnegativeHistory traced.history) {ctx : ContextId}
    {record : Record} (found : traced.inner.records.lookup ctx = some record)
    (live : record.state.isLive = true) :
    ∃ after, traced.inner.release ops record.mandateId record.amount = .ok after := by
  obtain ⟨next, given⟩ := releaseFrom_backed exact budget.total budget.currency le_of_eq
    (fun _ _ => lifecycle.nonnegative_record nonnegative) found live
  exact ⟨_, by rw [Inner.release, given]; rfl⟩

end Budget

/-- Only the events that end a live context give an amount back, and it is the
amount of its record. -/
theorem Inner.validate_release {ops : DecimalOps} {inner : Inner} {ctx : ContextId}
    {now : Timestamp} {body : EventBody} {effects : Inner.Effects} {mandate : MandateId}
    {amount : Money} (valid : inner.validate ops ctx now body = .ok (.granted effects))
    (gives : effects.release = some (mandate, amount)) :
    ∃ record, inner.records.lookup ctx = some record ∧ record.state.isLive = true ∧
      mandate = record.mandateId ∧ amount = record.amount := by
  -- the two members of the family that release
  have giving : ∀ target, target = PaymentState.settlementFailed ∨ target = .expired →
      inner.validateRelease ctx target = .ok (.granted effects) →
      ∃ record, inner.records.lookup ctx = some record ∧ record.state.isLive = true ∧
        mandate = record.mandateId ∧ amount = record.amount := by
    intro target giving valid
    obtain ⟨transition, rest⟩ := check_bind_eq_ok.mp valid
    have later : target ≠ .authorized := by rintro rfl; simp at giving
    obtain ⟨record, found, legal⟩ := (checkTransition_advance later).mp transition
    rw [found] at rest
    cases rest
    cases gives
    exact ⟨record, found, (PaymentState.isLive_of_giving legal giving).1, rfl, rfl⟩
  cases body with
  | settlementFailed rail reason => exact giving _ (.inl rfl) valid
  | expired => exact giving _ (.inr rfl) valid
  | authorized mandate cart requestKey =>
      obtain ⟨-, rest⟩ := check_bind_eq_ok.mp valid
      dsimp only at rest
      split at rest
      · cases rest
      · split at rest
        · cases rest
        · obtain ⟨verdict, -, rest⟩ := bind_eq_ok.mp rest
          cases verdict <;> cases rest
          cases gives
  | paid rail reference nonce amount key =>
      obtain ⟨-, rest⟩ := check_bind_eq_ok.mp valid
      split at rest <;> cases rest
      cases gives
  | settled rail reference =>
      cases (check_bind_eq_ok.mp valid).2
      cases gives
  | compensated reference =>
      cases (check_bind_eq_ok.mp valid).2
      cases gives
  | delivered receipt =>
      cases (check_bind_eq_ok.mp valid).2
      cases gives
  | denied stage reason detail =>
      simp only [validate, validateDenied] at valid
      split at valid <;> cases valid
      cases gives

end MandateLedger.Memory
