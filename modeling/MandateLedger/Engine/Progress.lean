import MandateLedger.Engine.Budget
import MandateLedger.Engine.Recovery
import MandateLedger.Engine.Undecided

namespace MandateLedger.Engine

open MandateLedger.Core MandateLedger.Data MandateLedger.Memory MandateLedger.Process

variable {Proof Evidence α : Type} {externals : Externals} {world : World Proof Evidence}
  {around : Surroundings Proof Evidence}

/-- A submission the store has the writes for is written. -/
theorem Outcome.of_writes {ctx : ContextId} {now : Timestamp} {before after : Traced}
    {submission : Submission α} {result : Except LedgerError α} {tables : Inner}
    (canonical : Canonical externals)
    (outcome : Outcome externals ctx now before (.submit submission) result after)
    (never : ∀ refusal : AppendOutcome, refusal.refuses submission.body = false)
    (writes : before.inner.Writes externals.decimals ctx now submission.body tables) :
    result = .ok submission.value ∧ after.inner.records = tables.records := by
  obtain ⟨event, built⟩ := canonical.built (before.inner.prevHash ctx) (before.inner.lastSeq + 1)
    ctx now submission.body
  have appended := writes.appended built
  cases outcome with
  | submitted others rebuilt =>
      rw [built] at rebuilt
      cases rebuilt
      have same := (Prod.mk.inj ((others.appended built).symm.trans appended)).2
      have records : _ = (tables.log event).records := congrArg Inner.records same
      exact ⟨rfl, records⟩
  | declined refuses => rw [never] at refuses; cases refuses
  | failed failed => rw [appended] at failed; cases (Prod.mk.inj failed).1

/-- A decision for a legal step, run alone, is carried out. -/
theorem complete_legal {decision : Decision Proof Evidence α} {body : EventBody} {value : α}
    {target : PaymentState} {moves : body.resultingState = some target}
    {later : target ≠ .authorized ∧ target ≠ .paid} {tables : Inner}
    (canonical : Canonical externals)
    (planned : (decision.decide (world.inner.records.lookup decision.ctx)).resolve around =
      .plain body value moves later)
    (writes : world.inner.Writes externals.decimals decision.ctx around.now body tables) :
    (world.complete externals around decision.call.run).1 = .ok value ∧
      ((world.complete externals around decision.call.run).2.inner.records.lookup
        decision.ctx).map Record.state = some target := by
  have outcome := world.complete_decision externals around decision
  rw [planned] at outcome
  obtain ⟨returned, records⟩ := Outcome.of_writes canonical outcome
    (fun refusal => refusal.not_refuses moves later.1 later.2) writes
  obtain ⟨record, found, reached⟩ := writes.reaches moves later.1
  refine ⟨returned, ?_⟩
  rw [← records] at found
  rw [show (world.complete externals around decision.call.run).2.inner.records.lookup decision.ctx =
    some record from found, Option.map_some, reached]

/-- A decision that only answers, run alone, writes nothing. -/
theorem complete_answer {decision : Decision Proof Evidence α} {value : α}
    (planned : (decision.decide (world.inner.records.lookup decision.ctx)).resolve around =
      .answer value) :
    (world.complete externals around decision.call.run).1 = .ok value ∧
      (world.complete externals around decision.call.run).2.inner = world.inner := by
  have outcome := world.complete_decision externals around decision
  rw [planned] at outcome
  generalize world.complete externals around decision.call.run = completed at outcome ⊢
  obtain ⟨result, after⟩ := completed
  generalize same : after.traced = left at outcome
  cases outcome
  exact ⟨rfl, congrArg Traced.inner same⟩

/-- The call succeeds when it runs alone, and leaves the context in the state. -/
def Lands (externals : Externals) (world : World Proof Evidence)
    (around : Surroundings Proof Evidence) (request : Request Proof Evidence) (ctx : ContextId)
    (target : PaymentState) : Prop :=
  responseError (world.complete externals around (request.program externals)).1 = none ∧
    ((world.complete externals around (request.program externals)).2.inner.records.lookup ctx).map
      Record.state = some target

theorem lands_decision (decision : Decision Proof Evidence α) {call : Call Proof Evidence α}
    {request : Request Proof Evidence} {respond : Except LedgerError α → Response}
    {record : Record} {body : EventBody} {value : α} {target : PaymentState}
    {moves : body.resultingState = some target}
    {later : target ≠ .authorized ∧ target ≠ .paid} {tables : Inner}
    (program : request.program externals = (do return respond (← call.run)))
    (decides : call = decision.call)
    (succeeds : ∀ value, responseError (respond (.ok value)) = none)
    (canonical : Canonical externals)
    (found : world.inner.records.lookup decision.ctx = some record)
    (planned : (decision.decide (some record)).resolve around = .plain body value moves later)
    (writes : world.inner.Writes externals.decimals decision.ctx around.now body tables) :
    Lands externals world around request decision.ctx target := by
  obtain ⟨returned, landed⟩ := complete_legal canonical (found ▸ planned) writes
  unfold Lands
  rw [program, World.complete_respond, decides, returned]
  exact ⟨succeeds value, landed⟩

/-- Where the rail's word takes a payment. -/
def afterVerdict : FinalityStatus → PaymentState
  | .final _ => .settled
  | .pending _ => .paid
  | .failed _ => .settlementFailed

/-- Every step that is due for the context succeeds, whatever the call is given besides the
context and whenever it is made. -/
structure Due (externals : Externals) (world : World Proof Evidence) (ctx : ContextId)
    (record : Record) : Prop where
  expires : record.state = .authorized → ∀ around auth, auth.ctx = ctx →
    Lands externals world around (.expire auth) ctx .expired
  settles : record.state = .paid → ∃ rail reference, record.rail = some rail ∧
    record.paymentReference = some reference ∧
    ∀ around ledger paid evidence status, ledger.railId = rail → paid.ctx = ctx →
      around.judge rail evidence (Ledger.settlementExpectation ctx record reference) = .ok status →
        Lands externals world around (.recordSettlement ledger paid evidence) ctx
          (afterVerdict status)
  delivers : record.state = .settled → ∀ around settled receipt, settled.ctx = ctx →
    Lands externals world around (.recordDelivery settled receipt) ctx .delivered
  compensates : record.state = .settlementFailed → ∀ around failed reference, failed.ctx = ctx →
    Lands externals world around (.compensate failed reference) ctx .compensated

section Steps

variable {ctx : ContextId} {record : Record}

theorem lands_delivery (canonical : Canonical externals)
    (found : world.inner.records.lookup ctx = some record) (state : record.state = .settled)
    (around : Surroundings Proof Evidence) (settled : Settled) (receipt : DeliveryReceipt)
    (own : settled.ctx = ctx) :
    Lands externals world around (.recordDelivery settled receipt) ctx .delivered := by
  subst own
  have planned : ((delivery settled receipt : Decision Proof Evidence _).decide
      (some record)).resolve around =
      .plain (.delivered receipt) ⟨settled.ctx, receipt.reference⟩ rfl (by decide) := by
    simp only [delivery, state]
    rfl
  exact lands_decision (delivery settled receipt) rfl (recordDelivery_eq settled receipt)
    (fun _ => rfl) canonical found planned (.moved rfl (by simp) found (by rw [state]; rfl))

theorem lands_compensation (canonical : Canonical externals)
    (found : world.inner.records.lookup ctx = some record)
    (state : record.state = .settlementFailed) (around : Surroundings Proof Evidence)
    (failed : SettlementFailed) (reference : Option String) (own : failed.ctx = ctx) :
    Lands externals world around (.compensate failed reference) ctx .compensated := by
  subst own
  have planned : ((compensation failed reference : Decision Proof Evidence _).decide
      (some record)).resolve around =
      .plain (.compensated reference) ⟨failed.ctx⟩ rfl (by decide) := by
    simp only [compensation, state]
    rfl
  exact lands_decision (compensation failed reference) rfl (compensate_eq failed reference)
    (fun _ => rfl) canonical found planned (.moved rfl (by simp) found (by rw [state]; rfl))

theorem lands_expiry (canonical : Canonical externals)
    (found : world.inner.records.lookup ctx = some record) (state : record.state = .authorized)
    {next : Money} (given : releaseFrom externals.decimals
      (world.inner.reserved.lookup record.mandateId) record.mandateId record.amount = .ok next)
    (around : Surroundings Proof Evidence) {auth : Authorized} (own : auth.ctx = ctx) :
    Lands externals world around (.expire auth) ctx .expired := by
  subst own
  have planned : ((expiry auth : Decision Proof Evidence _).decide (some record)).resolve around =
      .plain .expired () rfl (by decide) := by
    simp only [expiry, state]
    rfl
  exact lands_decision (expiry auth) rfl (expire_eq auth) (fun _ => rfl) canonical found planned
    (.released rfl (.inr rfl) found (by rw [state]; rfl) given)

/-- A payment ends as the rail says, and stays open while the rail has not decided. -/
theorem lands_settlement (canonical : Canonical externals)
    (found : world.inner.records.lookup ctx = some record) (state : record.state = .paid)
    {next : Money} (given : releaseFrom externals.decimals
      (world.inner.reserved.lookup record.mandateId) record.mandateId record.amount = .ok next)
    {ledger : Ledger} {reference : String} (via : record.rail = some ledger.railId)
    (recorded : record.paymentReference = some reference) {around : Surroundings Proof Evidence}
    {paid : Paid} {evidence : Evidence} {status : FinalityStatus} (own : paid.ctx = ctx)
    (judged : around.judge ledger.railId evidence
      (Ledger.settlementExpectation ctx record reference) = .ok status) :
    Lands externals world around (.recordSettlement ledger paid evidence) ctx
      (afterVerdict status) := by
  subst own
  have planned : ((settlement externals ledger paid evidence : Decision Proof Evidence _).decide
      (some record)).resolve around = settlementPlan ledger paid.ctx (.ok status) := by
    simp only [settlement, state, via, recorded, ne_eq, not_true_eq_false, if_false,
      Consult.resolve, judged]
  cases status with
  | final settled =>
      have final : _ = Plan.plain (.settled ledger.railId settled)
        (Settlement.settled ⟨paid.ctx, settled⟩) rfl (by decide) := planned
      exact lands_decision (settlement externals ledger paid evidence) rfl
        (recordSettlement_eq externals ledger paid evidence) (fun _ => rfl) canonical found final
        (.moved rfl (.inl rfl) found (by rw [state]; rfl))
  | failed reason =>
      have failed : _ = Plan.plain (.settlementFailed ledger.railId reason)
        (Settlement.failed ⟨paid.ctx, reason⟩) rfl (by decide) := planned
      exact lands_decision (settlement externals ledger paid evidence) rfl
        (recordSettlement_eq externals ledger paid evidence) (fun _ => rfl) canonical found failed
        (.released rfl (.inl rfl) found (by rw [state]; rfl) given)
  | pending reason =>
      have waits : _ = Plan.answer (Settlement.pending reason) := planned
      obtain ⟨returned, same⟩ := complete_answer (found ▸ waits : ((settlement externals ledger paid
        evidence : Decision Proof Evidence _).decide (world.inner.records.lookup paid.ctx)).resolve
          around = _)
      unfold Lands
      rw [Request.program, World.complete_respond, recordSettlement_eq, returned, same, found]
      exact ⟨rfl, congrArg some state⟩

end Steps

theorem paidFrom_fields {record : Record} {token : Paid}
    (read : Ledger.paidFrom record = .ok token) :
    ∃ rail reference, record.rail = some rail ∧ record.paymentReference = some reference := by
  unfold Ledger.paidFrom at read
  cases via : record.rail with
  | none => rw [via] at read; cases read
  | some rail =>
      cases recorded : record.paymentReference with
      | none => rw [via, recorded] at read; cases read
      | some reference => exact ⟨rail, reference, rfl, rfl⟩

section Runs

variable {Tid : Type} [DecidableEq Tid] {ledgers : Set Ledger}
  {config : Config Tid (World Proof Evidence) (Op Proof Evidence) Op.Answer Response}

/-- In every state that interleaved calls reach, the steps that are due for a context
succeed. -/
theorem due_steps_succeed (exact : externals.decimals.Exact) (canonical : Canonical externals)
    (reached : Reachable externals ledgers config) {ctx : ContextId} {record : Record}
    (found : config.shared.inner.records.lookup ctx = some record) :
    Due externals config.shared ctx record := by
  obtain ⟨run, each⟩ := (reachable_kept reached).inv
  have lifecycle := Lifecycle.run run
  have budget := Budget.run exact run
  -- a live context's amount can be given back
  have gives : record.state.isLive = true → ∃ next, releaseFrom externals.decimals
      (config.shared.inner.reserved.lookup record.mandateId) record.mandateId record.amount =
        .ok next := fun live =>
    releaseFrom_backed exact budget.total budget.currency le_of_eq
      (fun _ _ => lifecycle.nonnegative_record (nonnegative_history each)) found live
  constructor
  · intro state around auth own
    obtain ⟨next, given⟩ := gives (by rw [state]; rfl)
    exact lands_expiry canonical found state given around own
  · intro state
    obtain ⟨next, given⟩ := gives (by rw [state]; rfl)
    obtain ⟨token, read⟩ := lifecycle.reads found (fun _ => Carries.paidFrom)
      (by simp [state, past])
    obtain ⟨rail, reference, via, recorded⟩ := paidFrom_fields read
    refine ⟨rail, reference, via, recorded, ?_⟩
    rintro around ledger paid evidence status rfl own judged
    exact lands_settlement canonical found state given via recorded own judged
  · intro state around settled receipt own
    exact lands_delivery canonical found state around settled receipt own
  · intro state around failed reference own
    exact lands_compensation canonical found state around failed reference own

/-- The context has come to its end. -/
def Ended (world : World Proof Evidence) (ctx : ContextId) : Prop :=
  ∃ record, world.inner.records.lookup ctx = some record ∧ record.state.isTerminal = true

/-- A rail with one verdict. -/
def verdict (status : FinalityStatus) : Surroundings Proof Evidence where
  now := ⟨0⟩
  verify := fun _ _ _ => .error (.unavailable "closed")
  judge := fun _ _ _ => .ok status

theorem Lands.record {request : Request Proof Evidence} {ctx : ContextId} {target : PaymentState}
    (lands : Lands externals world around request ctx target) :
    ∃ record, (world.serve externals [(around, request)]).inner.records.lookup ctx = some record ∧
      record.state = target :=
  Option.map_eq_some_iff.mp lands.2

theorem Lands.ended {request : Request Proof Evidence} {ctx : ContextId} {target : PaymentState}
    (lands : Lands externals world around request ctx target)
    (terminal : target.isTerminal = true) :
    Ended (world.serve externals [(around, request)]) ctx := by
  obtain ⟨record, stored, ended⟩ := lands.record
  exact ⟨record, stored, ended ▸ terminal⟩

/-- No context is stuck: in every state that interleaved calls reach, the steps that are due
for it succeed, and two calls are enough to end it. -/
theorem contexts_never_stuck (exact : externals.decimals.Exact) (canonical : Canonical externals)
    (reached : Reachable externals ledgers config) {ctx : ContextId} {record : Record}
    (found : config.shared.inner.records.lookup ctx = some record) (evidence : Evidence) :
    Due externals config.shared ctx record ∧
      ∃ calls, calls.length ≤ 2 ∧ Ended (config.shared.serve externals calls) ctx := by
  have due := due_steps_succeed exact canonical reached found
  refine ⟨due, ?_⟩
  cases state : record.state with
  | authorized =>
      have lands := due.expires state (verdict (.failed "closed"))
        ⟨ctx, record.mandateId, record.cartHash, record.merchant, record.amount⟩ rfl
      exact ⟨[_], by simp, lands.ended rfl⟩
  | paid =>
      -- the rail's word decides which end it is: here the payment failed
      obtain ⟨rail, reference, -, -, settles⟩ := due.settles state
      have lands := settles (verdict (.failed "closed")) ⟨rail, fun _ _ => false⟩
        ⟨ctx, rail, reference, .zero⟩ evidence _ rfl rfl rfl
      obtain ⟨failed, stored, ended⟩ := lands.record
      have closes := lands_compensation canonical stored ended (verdict (.failed "closed"))
        ⟨ctx, "closed"⟩ none rfl
      exact ⟨[_, _], le_rfl, closes.ended rfl⟩
  | settled =>
      have lands := due.delivers state (verdict (.failed "closed")) ⟨ctx, "closed"⟩
        ⟨"closed", .agentReported⟩ rfl
      exact ⟨[_], by simp, lands.ended rfl⟩
  | settlementFailed =>
      have lands := due.compensates state (verdict (.failed "closed")) ⟨ctx, "closed"⟩ none rfl
      exact ⟨[_], by simp, lands.ended rfl⟩
  | compensated | delivered | expired =>
      exact ⟨[], by simp, record, found, by rw [state]; rfl⟩

end Runs

/-- A purchase whose payment was recorded and never settled. -/
theorem contexts_never_stuck_paid :
    ∃ record, (Adapters.Sample.served (samplePayment.take 2)).inner.records.lookup Sample.firstCtx =
        some record ∧ record.state = .paid ∧
      Due Sample.externals (Adapters.Sample.served (samplePayment.take 2)) Sample.firstCtx record ∧
      ∃ calls, calls.length ≤ 2 ∧ Ended ((Adapters.Sample.served (samplePayment.take 2)).serve
        Sample.externals calls) Sample.firstCtx := by
  have paid : ((Adapters.Sample.served (samplePayment.take 2)).inner.records.lookup
      Sample.firstCtx).map Record.state = some .paid := by decide +kernel
  obtain ⟨record, found, state⟩ := Option.map_eq_some_iff.mp paid
  exact ⟨record, found, state, contexts_never_stuck DecimalOps.aligned_exact sample_canonical
    (Adapters.Sample.served_reachable (samplePayment.take 2)
      (by simp [samplePayment, Request.ledger?])) found (Adapters.MockFinality.failed "p" "x")⟩

end MandateLedger.Engine
