import MandateLedger.Adapters.Mock
import MandateLedger.Engine.Calls
import MandateLedger.Engine.Serial

namespace MandateLedger.Engine

open MandateLedger.Core MandateLedger.Data MandateLedger.Memory MandateLedger.Process

variable {Proof Evidence α : Type}

def failure : Except LedgerError α → Option LedgerError
  | .ok _ => none
  | .error error => some error

def responseError : Response → Option LedgerError
  | .authorize result => failure result
  | .recordPayment result => failure result
  | .recordSettlement result => failure result
  | .compensate result => failure result
  | .expire result => failure result
  | .recordDelivery result => failure result
  | .resume result => failure result
  | .reached result => failure result
  | .evidence result => failure result
  | .revoke result => failure result

/-- `Ok(Pending)`. -/
def isPending : Response → Bool
  | .recordSettlement (.ok (.pending _)) => true
  | _ => false

def requestCtx (externals : Externals) : Request Proof Evidence → Option ContextId
  | .authorize _ mandate cart requestKey => some (attempt externals mandate cart requestKey)
  | .recordPayment _ auth _ => some auth.ctx
  | .recordSettlement _ paid _ => some paid.ctx
  | .compensate failed _ => some failed.ctx
  | .expire auth => some auth.ctx
  | .recordDelivery settled _ => some settled.ctx
  | .resume ctx | .reached ctx | .evidence ctx => some ctx
  | .revoke _ => none

/-- Everything but the log and its index. -/
structure Untouched (before after : Inner) : Prop where
  records : after.records = before.records
  reserved : after.reserved = before.reserved
  authTimes : after.authTimes = before.authTimes
  velocityWindows : after.velocityWindows = before.velocityWindows
  nonces : after.nonces = before.nonces
  revoked : after.revoked = before.revoked

/-- The refusal is the one new event of the log, or the chain was full of refusals. -/
def WrittenDown (denied : Denied) (before after : Inner) : Prop :=
  (denied.recorded = true ∧ ∃ event, after.events = before.events ++ [event] ∧
    event.ctx = denied.ctx ∧ event.body = .denied denied.stage denied.reason denied.detail) ∨
  (denied.recorded = false ∧ after = before ∧ before.denials denied.ctx = denialCap)

/-- What a call may have done to the store, by how it ended. -/
structure Accounted (own : Option ContextId) (error : Option LedgerError) (pending : Bool)
    (before after : Inner) : Prop where
  denied : ∀ denied, error = some (.denied denied) →
    Untouched before after ∧ WrittenDown denied before after
  failed : ∀ other, error = some other → (∀ denied, other ≠ .denied denied) → after = before
  pending : pending = true → after = before
  returned : error = none → after.events = before.events ∨
    ∃ event, after.events = before.events ++ [event] ∧ some event.ctx = own ∧
      event.body.resultingState.isSome = true

section Outcomes

variable {externals : Externals} {ctx : ContextId} {now : Timestamp} {before after : Traced}
  {plan : Plan α} {result : Except LedgerError α}

theorem Refused.accounted {refusal : Refusal} {error : LedgerError}
    (refused : Refused ctx before refusal error after)
    (capped : before.inner.denials ctx ≤ denialCap) :
    Accounted (some ctx) (some error) false before.inner after.inner := by
  cases refused with
  | @recorded event uncapped own body =>
      refine ⟨?_, ?_, by simp, by simp⟩
      · intro denied same
        cases same
        exact ⟨⟨rfl, rfl, rfl, rfl, rfl, rfl⟩, .inl ⟨rfl, event, rfl, own, body⟩⟩
      · intro other same different
        cases same
        exact absurd rfl (different _)
  | capped full =>
      refine ⟨?_, fun _ _ _ => rfl, by simp, by simp⟩
      intro denied same
      cases same
      exact ⟨⟨rfl, rfl, rfl, rfl, rfl, rfl⟩, .inr ⟨rfl, rfl, Nat.le_antisymm capped full⟩⟩
  | failed cause => exact ⟨by simp, fun _ _ _ => rfl, by simp, by simp⟩

theorem Accounted.unchanged {own : Option ContextId} {error : Option LedgerError} {pending : Bool}
    {inner : Inner} (undenied : ∀ denied, error ≠ some (.denied denied)) :
    Accounted own error pending inner inner :=
  ⟨fun denied same => absurd same (undenied denied), fun _ _ _ => rfl, fun _ => rfl,
    fun _ => .inl rfl⟩

/-- The ways a call can end are all accounted for.  What waits for the rail
submits nothing. -/
theorem Outcome.accounted (outcome : Outcome externals ctx now before plan result after)
    (capped : before.inner.denials ctx ≤ denialCap) {pending : Bool}
    (waits : pending = true → ∃ value, result = .ok value ∧
      ∀ submission, plan = .submit submission → submission.value ≠ value) :
    Accounted (some ctx) (failure result) pending before.inner after.inner := by
  have refusal : ∀ {refusal error}, result = .error error → Refused ctx before refusal error after →
      Accounted (some ctx) (failure result) pending before.inner after.inner := by
    intro refusal error returned refused
    cases pending with
    | false =>
        rw [returned]
        exact refused.accounted capped
    | true =>
        obtain ⟨value, answered, -⟩ := waits rfl
        rw [returned] at answered
        cases answered
  cases outcome with
  | answered value => exact .unchanged (by simp [failure])
  | corrupt message => exact .unchanged (by simp [failure, LedgerError.corrupt])
  | unavailable detail => exact .unchanged (by simp [failure])
  | refused refused => exact refusal rfl refused
  | declined refuses answered refused => exact refusal rfl refused
  | failed failed => exact .unchanged (by simp [failure])
  | @submitted submission event tables writes built =>
      obtain ⟨-, own, -, -, body, -⟩ := Event.new_eq_ok built
      refine ⟨by simp [failure], by simp [failure], ?_, ?_⟩
      · intro waiting
        obtain ⟨value, answered, unsubmitted⟩ := waits waiting
        cases answered
        exact absurd rfl (unsubmitted submission rfl)
      · intro _
        refine .inr ⟨event, ?_, congrArg some own, body ▸ submission.changes⟩
        rw [← writes.frame.1]
        rfl

theorem Outcome.accounted_at_once (outcome : Outcome externals ctx now before plan result after)
    (capped : before.inner.denials ctx ≤ denialCap) :
    Accounted (some ctx) (failure result) false before.inner after.inner :=
  outcome.accounted capped (by simp)

end Outcomes

section Calls

variable {externals : Externals} {world : World Proof Evidence}
  {around : Surroundings Proof Evidence}

theorem World.complete_respond (call : Call Proof Evidence α)
    (respond : Except LedgerError α → Response) :
    world.complete externals around
        (do return respond (← call.run) : Program (Op Proof Evidence) Op.Answer Response) =
      (respond (world.complete externals around call.run).1,
        (world.complete externals around call.run).2) := by
  unfold World.complete
  rw [Program.run_bind]
  rfl

theorem accounted_respond {own : Option ContextId} {pending : Bool} {call : Call Proof Evidence α}
    {result : Except LedgerError α} {after : World Proof Evidence}
    (respond : Except LedgerError α → Response)
    (reports : ∀ result, responseError (respond result) = failure result)
    (completed : world.complete externals around call.run = (result, after))
    (waits : isPending (respond result) = pending)
    (accounted : Accounted own (failure result) pending world.inner after.inner) :
    Accounted own
      (responseError (world.complete externals around
        (do return respond (← call.run) : Program (Op Proof Evidence) Op.Answer Response)).1)
      (isPending (world.complete externals around
        (do return respond (← call.run) : Program (Op Proof Evidence) Op.Answer Response)).1)
      world.inner (world.complete externals around
        (do return respond (← call.run) : Program (Op Proof Evidence) Op.Answer Response)).2.inner := by
  rw [World.complete_respond, completed, reports, waits]
  exact accounted

/-- Whatever a call is given and whatever the rail answers, it leaves the store
as its ending says, and no chain holds more refusals than the cap. -/
theorem complete_accounted (reached : Traced.Reachable externals world.traced)
    (around : Surroundings Proof Evidence) (request : Request Proof Evidence) :
    Accounted (requestCtx externals request)
        (responseError (world.complete externals around (request.program externals)).1)
        (isPending (world.complete externals around (request.program externals)).1)
        world.inner (world.complete externals around (request.program externals)).2.inner ∧
      ∀ ctx, world.inner.denials ctx ≤ denialCap := by
  have capped := denials_le reached
  refine ⟨?_, capped⟩
  cases request with
  | authorize ledger mandate cart requestKey =>
      have outcome := world.complete_authorize externals around ledger mandate cart requestKey
      exact accounted_respond .authorize (fun _ => rfl) rfl rfl (outcome.accounted_at_once (capped _))
  | recordPayment ledger auth proof =>
      have outcome := world.complete_decision externals around (payment externals ledger auth proof)
      rw [← recordPayment_eq] at outcome
      exact accounted_respond .recordPayment (fun _ => rfl) rfl rfl
        (outcome.accounted_at_once (capped _))
  | recordSettlement ledger paid evidence =>
      have outcome := world.complete_decision externals around
        (settlement externals ledger paid evidence)
      rw [← recordSettlement_eq] at outcome
      refine accounted_respond .recordSettlement (fun _ => rfl) rfl rfl
        (outcome.accounted (capped _) ?_)
      intro waiting
      unfold isPending at waiting
      split at waiting
      · next reason returned =>
          refine ⟨_, Response.recordSettlement.inj returned, ?_⟩
          intro submission submits
          obtain ⟨-, ⟨rail, reference, -, value⟩ | ⟨rail, cause, -, value⟩⟩ :=
            settlement_submits submits <;> simp [value]
      · cases waiting
  | compensate failed reference =>
      have outcome := world.complete_decision externals around (compensation failed reference)
      rw [← compensate_eq] at outcome
      exact accounted_respond .compensate (fun _ => rfl) rfl rfl (outcome.accounted_at_once (capped _))
  | expire auth =>
      have outcome := world.complete_decision externals around (expiry auth)
      rw [← expire_eq] at outcome
      exact accounted_respond .expire (fun _ => rfl) rfl rfl (outcome.accounted_at_once (capped _))
  | recordDelivery settled receipt =>
      have outcome := world.complete_decision externals around (delivery settled receipt)
      rw [← recordDelivery_eq] at outcome
      exact accounted_respond .recordDelivery (fun _ => rfl) rfl rfl
        (outcome.accounted_at_once (capped _))
  | resume ctx =>
      obtain ⟨-, ⟨resumed, looks⟩, -⟩ := world.complete_queries externals around reached ctx
      exact accounted_respond .resume (fun _ => rfl) looks rfl (.unchanged (by simp [failure]))
  | reached ctx =>
      obtain ⟨⟨answer, looks⟩, -⟩ := world.complete_queries externals around reached ctx
      exact accounted_respond .reached (fun _ => rfl) looks rfl (.unchanged (by simp [failure]))
  | evidence ctx =>
      obtain ⟨-, -, ⟨bundle, looks⟩⟩ := world.complete_queries externals around reached ctx
      exact accounted_respond .evidence (fun _ => rfl) looks rfl (.unchanged (by simp [failure]))
  | revoke mandate =>
      have completed : world.complete externals around (Ledger.revoke mandate).run =
        (.ok (), world.revoke mandate) := rfl
      refine accounted_respond .revoke (fun _ => rfl) completed rfl ?_
      exact ⟨by simp [failure], by simp [failure], Bool.false_ne_true.elim, fun _ => .inl rfl⟩

end Calls

def openedPurchase : World Adapters.MockProof Adapters.MockFinality :=
  Adapters.Sample.served
    [(10, .authorize Adapters.Sample.ledger (Sample.mandate Sample.alice) Sample.cart "k1")]

def overBudget : Request Adapters.MockProof Adapters.MockFinality :=
  .authorize Adapters.Sample.ledger (Sample.mandate Sample.alice) Sample.cart "k2"

theorem openedPurchase_reachable :
    Reachable Sample.externals {Adapters.Sample.ledger}
      (⟨openedPurchase, fun _ : Unit => none⟩ : Config ..) :=
  Adapters.Sample.served_reachable
    [(10, .authorize Adapters.Sample.ledger (Sample.mandate Sample.alice) Sample.cart "k1")]
    (by simp [Request.ledger?])

theorem overBudget_accounted :
    (responseError (openedPurchase.complete Sample.externals
        (Adapters.Sample.rail.surroundings ⟨11⟩) (overBudget.program Sample.externals)).1).isSome =
          true ∧
      Accounted (requestCtx Sample.externals overBudget)
        (responseError (openedPurchase.complete Sample.externals
          (Adapters.Sample.rail.surroundings ⟨11⟩) (overBudget.program Sample.externals)).1)
        (isPending (openedPurchase.complete Sample.externals
          (Adapters.Sample.rail.surroundings ⟨11⟩) (overBudget.program Sample.externals)).1)
        openedPurchase.inner
        (openedPurchase.complete Sample.externals
          (Adapters.Sample.rail.surroundings ⟨11⟩) (overBudget.program Sample.externals)).2.inner ∧
      ∀ ctx, openedPurchase.inner.denials ctx ≤ denialCap := by
  have run : Traced.Reachable Sample.externals openedPurchase.traced :=
    (reachable_kept openedPurchase_reachable).inv.1
  exact ⟨by decide +kernel, complete_accounted run (Adapters.Sample.rail.surroundings ⟨11⟩) overBudget⟩

end MandateLedger.Engine
