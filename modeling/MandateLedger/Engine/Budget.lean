import MandateLedger.Adapters.Mock
import MandateLedger.Engine.Calls
import MandateLedger.Memory.Budget

namespace MandateLedger.Engine

open MandateLedger.Core MandateLedger.Data MandateLedger.Memory MandateLedger.Process

variable {Proof Evidence : Type} {externals : Externals} {ledgers : Set Ledger}
  {world : World Proof Evidence}

/-- The engine authorizes no negative amount. -/
theorem nonnegative_history (each : Each (Justifies externals ledgers) world.acts) :
    NonnegativeHistory world.history := by
  intro event past mandate cart requestKey body
  obtain ⟨earlier, -, justified⟩ := each.of_mem (mem_history.mp past)
  simp only [Justifies, EventSound, body] at justified
  exact (Scope.admits_eq_ok.mp justified.admitted).nonnegative

/-- The budget ledger of one mandate. -/
structure BudgetHolds (externals : Externals) (world : World Proof Evidence)
    (mandate : MandateId) : Prop where
  total : ∀ reserved, world.inner.reserved.lookup mandate = some reserved →
    reserved.value = liveTotal mandate world.inner.records
  currency : ∀ reserved, world.inner.reserved.lookup mandate = some reserved →
    ∀ ctx record, world.inner.records.lookup ctx = some record → record.mandateId = mandate →
      record.amount.currency = reserved.currency
  absent : world.inner.reserved.lookup mandate = none ↔ ¬ EverAuthorized mandate world.history
  released : ∀ ctx now body effects amount,
    world.inner.validate externals.decimals ctx now body = .ok (.granted effects) →
    effects.release = some (mandate, amount) →
      ∃ after, world.inner.release externals.decimals mandate amount = .ok after
  capped : ∀ ctx now signed cart requestKey event cap, signed.body.id = mandate →
    (world.append externals ctx now (.authorized signed cart requestKey)).1 =
      .ok (.appended event) →
    signed.body.scope.maxTotal = some cap →
      ∃ reserved, (world.append externals ctx now
          (.authorized signed cart requestKey)).2.inner.reserved.lookup mandate = some reserved ∧
        reserved.currency = cap.currency ∧ reserved.value ≤ cap.value

/-- The total an authorization leaves is within its mandate's cap. -/
theorem append_capped (exact : externals.decimals.Exact) {ctx : ContextId} {now : Timestamp}
    {signed : Mandate} {cart : CartSnapshot} {requestKey : String} {event : Event} {cap : Money}
    (appended : (world.append externals ctx now (.authorized signed cart requestKey)).1 =
      .ok (.appended event))
    (limited : signed.body.scope.maxTotal = some cap) :
    ∃ reserved, (world.append externals ctx now
        (.authorized signed cart requestKey)).2.inner.reserved.lookup signed.body.id =
          some reserved ∧
      reserved.currency = cap.currency ∧ reserved.value ≤ cap.value := by
  obtain ⟨result, ended, refusal⟩ | ⟨built, tables, writes, -, ended⟩ :=
    world.inner.append_cases externals ctx now (.authorized signed cart requestKey)
  · simp only [World.append, ended] at appended
    simpa using refusal _ appended
  · simp only [World.append, ended]
    cases writes with
    | @authorized _ _ _ next absent active paced granted =>
        obtain ⟨-, -, -, capped⟩ := checkBudget_granted exact granted
        refine ⟨next, ?_, capped cap limited⟩
        simp [Inner.log, Inner.putRecord, Inner.reserve]
    | moved moves plain => cases moves; simp at plain
    | released moves giving => cases moves; simp at giving

/-- In every state that any interleaving of ledger calls and prunes reaches, the
budget of every mandate is exact. -/
theorem reachable_budgetHolds {Tid : Type} [DecidableEq Tid]
    {config : Config Tid (World Proof Evidence) (Op Proof Evidence) Op.Answer Response}
    (exact : externals.decimals.Exact) (reached : Reachable externals ledgers config)
    (mandate : MandateId) : BudgetHolds externals config.shared mandate := by
  obtain ⟨run, each⟩ := (reachable_kept reached).inv
  have lifecycle := Lifecycle.run run
  have budget := Budget.run exact run
  constructor
  · intro reserved held
    have total := budget.total mandate
    simp only [World.traced, held, reservedValue_some] at total
    exact total.symm
  · rintro reserved held ctx record found rfl
    obtain ⟨money, present, currency⟩ := budget.currency ctx record found
    rw [World.traced, held] at present
    cases present
    exact currency
  · rw [← Option.not_isSome_iff_eq_none]
    exact not_congr (budget.authorized mandate)
  · intro ctx now body effects amount valid gives
    obtain ⟨record, found, live, rfl, rfl⟩ := Inner.validate_release valid gives
    exact budget.release_defined lifecycle exact (nonnegative_history each) found live
  · rintro ctx now signed cart requestKey event cap rfl appended limited
    exact append_capped exact appended limited

/-- Two purchases of 60.00 on a budget of 100.00: the second is refused until the
first expires. -/
def sampleBudgetCalls : List Adapters.Sample.Timed :=
  [ (10, .authorize Adapters.Sample.ledger (Sample.mandate Sample.alice) Sample.cart "k1"),
    (11, .authorize Adapters.Sample.ledger (Sample.mandate Sample.alice) Sample.cart "k2"),
    (12, .expire ⟨Sample.firstCtx, Sample.mandateId, Sample.cartHash, Sample.merchant,
      Sample.cents 6000⟩),
    (13, .authorize Adapters.Sample.ledger (Sample.mandate Sample.alice) Sample.cart "k2") ]

theorem sample_budgetHolds :
    (Adapters.Sample.served sampleBudgetCalls).inner.reserved.lookup Sample.mandateId =
        some (Sample.cents 6000) ∧
      ((Adapters.Sample.served sampleBudgetCalls).inner.records.lookup Sample.firstCtx).map
        Record.state = some .expired ∧
      BudgetHolds Sample.externals (Adapters.Sample.served sampleBudgetCalls)
        Sample.mandateId :=
  ⟨by decide +kernel, by decide +kernel,
    reachable_budgetHolds DecimalOps.aligned_exact
      (Adapters.Sample.served_reachable sampleBudgetCalls
        (by simp [sampleBudgetCalls, Request.ledger?]))
      Sample.mandateId⟩

end MandateLedger.Engine
