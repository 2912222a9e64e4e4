import MandateLedger.Engine.System

namespace MandateLedger.Engine

open MandateLedger.Core MandateLedger.Data MandateLedger.Memory MandateLedger.Process

/-! # What a call decides

Every step of the lifecycle reads the record of its context, asks the rail at
most once, and then does one of five things: it answers, fails, refuses, or
submits one event.  A `Plan` is that decision as a value, and `Decision` the
function that takes it.  The methods of the ledger are equal to the programs of
their decisions.
-/

variable {Proof Evidence α : Type}

structure Refusal where
  stage : Stage
  reason : DenyReason
  detail : String

/-- An event to be appended, the value to be returned then, and what becomes of
a refused append.  Every refusal the store has for the body is handled. -/
structure Submission (α : Type) where
  body : EventBody
  value : α
  refused : AppendOutcome → Except LedgerError Refusal
  changes : body.resultingState.isSome = true
  handled : ∀ outcome, outcome.refuses body = true → ∃ refusal, refused outcome = .ok refusal

inductive Plan (α : Type) where
  | answer (value : α)
  | corrupt (message : String)
  | unavailable (detail : String)
  | refuse (refusal : Refusal)
  | submit (submission : Submission α)

namespace Plan

def deny (ctx : ContextId) (now : Timestamp) (refusal : Refusal) : Call Proof Evidence α :=
  Ledger.deny ctx now refusal.stage refusal.reason refusal.detail

def conclude (ctx : ContextId) (now : Timestamp) (submission : Submission α) :
    AppendOutcome → Call Proof Evidence α
  | .appended _ => return submission.value
  | other =>
      match submission.refused other with
      | .ok refusal => deny ctx now refusal
      | .error error => throw error

def call (ctx : ContextId) (now : Timestamp) : Plan α → Call Proof Evidence α
  | .answer value => return value
  | .corrupt message => throw (.corrupt message)
  | .unavailable detail => throw (.railUnavailable detail)
  | .refuse refusal => deny ctx now refusal
  | .submit submission => do
      let outcome ← Ledger.append ctx now submission.body
      conclude ctx now submission outcome

/-- A step whose append the store never refuses. -/
def plain (body : EventBody) (value : α) {target : PaymentState}
    (moves : body.resultingState = some target) (later : target ≠ .authorized ∧ target ≠ .paid) :
    Plan α :=
  .submit
    { body := body
      value := value
      refused := fun outcome => .error (Ledger.unexpectedOutcome outcome)
      changes := by rw [moves]; rfl
      handled := by
        intro outcome refuses
        rw [outcome.not_refuses moves later.1 later.2] at refuses
        cases refuses }

/-- `ok_or_else(|| corrupt(message))`, as a plan. -/
def present (value : Option String) (message : String) (answer : String → α) : Plan α :=
  match value with
  | some value => .answer (answer value)
  | none => .corrupt message

variable {ctx : ContextId} {now : Timestamp}

theorem conclude_refused {submission : Submission α} {outcome : AppendOutcome} {refusal : Refusal}
    (refuses : outcome.refuses submission.body = true)
    (handled : submission.refused outcome = .ok refusal) :
    (conclude ctx now submission outcome : Call Proof Evidence α) = deny ctx now refusal := by
  unfold conclude
  cases outcome with
  | appended event => simp at refuses
  | _ => simp only [handled]

theorem call_plain {body : EventBody} {value : α} {target : PaymentState}
    (moves : body.resultingState = some target) (later : target ≠ .authorized ∧ target ≠ .paid) :
    (do Ledger.appendPlain ctx now body; return value : Call Proof Evidence α) =
      (plain body value moves later).call ctx now := by
  unfold Ledger.appendPlain
  rw [bind_assoc]
  refine bind_congr fun outcome => ?_
  cases outcome <;> rfl

theorem call_present {value : Option String} {message : String} {answer : String → α} :
    (do
        let value ← (Ledger.present value message : Except LedgerError String)
        return answer value : Call Proof Evidence α) =
      (present value message answer).call ctx now := by
  cases value <;> rfl

end Plan

/-- A plan, after at most one question to the rail. -/
inductive Consult (Proof Evidence α : Type) where
  | outright (plan : Plan α)
  | verify (rail : String) (proof : Proof) (expected : PaymentExpectation)
      (next : Except RailError VerifiedProof → Plan α)
  | judge (rail : String) (evidence : Evidence) (expected : SettlementExpectation)
      (next : Except RailError FinalityStatus → Plan α)

def Consult.call (ctx : ContextId) (now : Timestamp) :
    Consult Proof Evidence α → Call Proof Evidence α
  | .outright plan => plan.call ctx now
  | .verify rail proof expected next => do
      let answer ← Fallible.ask (Op.verifyProof rail proof expected : Op Proof Evidence)
      (next answer).call ctx now
  | .judge rail evidence expected next => do
      let answer ← Fallible.ask (Op.checkFinality rail evidence expected : Op Proof Evidence)
      (next answer).call ctx now

/-- A step of the lifecycle: the context it is about, and what it decides on
the context's record. -/
structure Decision (Proof Evidence α : Type) where
  ctx : ContextId
  decide : Option Record → Consult Proof Evidence α

def Decision.call (decision : Decision Proof Evidence α) : Call Proof Evidence α := do
  let now ← Ledger.now
  let record ← Ledger.record decision.ctx
  (decision.decide record).call decision.ctx now

theorem deny_bind {β : Type} {ctx : ContextId} {now : Timestamp} {stage : Stage}
    {reason : DenyReason} {detail : String} {rest : α → Call Proof Evidence β} :
    Ledger.deny ctx now stage reason detail >>= rest = Ledger.deny ctx now stage reason detail := by
  unfold Ledger.deny
  rw [bind_assoc]
  refine bind_congr fun outcome => ?_
  cases outcome <;> rfl

def notFound (ctx : ContextId) (stage : Stage) : Refusal :=
  ⟨stage, .contextNotFound, s!"no context {ctx.val}"⟩

def elsewhere (stage : Stage) (state : PaymentState) : Refusal :=
  ⟨stage, .invalidState, s!"context is {state.debug}"⟩

section Methods

variable (externals : Externals) (ledger : Ledger) (ctx : ContextId) (record : Record)

def paymentPlan : Except RailError VerifiedProof → Plan Paid
  | .error (.invalidProof detail) => .refuse ⟨.payment, .proofInvalid, detail⟩
  | .error (.unavailable detail) => .unavailable detail
  | .ok verified =>
      if record.state ≠ .authorized then
        if record.rail = some ledger.railId ∧ record.paymentReference = some verified.reference then
          match record.idempotencyKey with
          | none => .corrupt "paid record without idempotency key"
          | some key => .answer ⟨ctx, ledger.railId, verified.reference, key⟩
        else
          .refuse ⟨.payment, .invalidState,
            s!"context is {record.state.debug}; a different payment is already recorded"⟩
      else
        match Ledger.proofRefusal ctx record verified with
        | some (reason, detail) => .refuse ⟨.payment, reason, detail⟩
        | none =>
            let key := Ledger.idempotencyKey externals.sha256 ctx ledger.railId verified.nonce
            .submit
              { body := .paid ledger.railId verified.reference verified.nonce verified.amount key
                value := ⟨ctx, ledger.railId, verified.reference, key⟩
                refused := fun
                  | .nonceAlreadyUsed => .ok ⟨.payment, .nonceAlreadyUsed,
                      "nonce already consumed by another context"⟩
                  | _ => .error (.corrupt "another body's outcome returned for Paid")
                changes := rfl
                handled := by
                  intro outcome refuses
                  cases outcome <;> simp [AppendOutcome.refuses] at refuses ⊢ }

def payment (auth : Authorized) (proof : Proof) : Decision Proof Evidence Paid where
  ctx := auth.ctx
  decide
    | none => .outright (.refuse (notFound auth.ctx .payment))
    | some record =>
        .verify ledger.railId proof (Ledger.paymentExpectation auth.ctx record)
          (paymentPlan externals ledger auth.ctx record)

theorem state_bind {ctx : ContextId} {rest : Option PaymentState → Call Proof Evidence α} :
    Ledger.state ctx >>= rest = Ledger.record ctx >>= fun record => rest (record.map Record.state) := by
  unfold Ledger.state
  rw [bind_assoc]
  rfl

theorem recordPayment_eq (auth : Authorized) (proof : Proof) :
    (ledger.recordPayment externals auth proof : Call Proof Evidence Paid) =
      (payment externals ledger auth proof).call := by
  refine bind_congr fun now => bind_congr fun record => ?_
  cases record with
  | none => rfl
  | some record =>
      refine bind_congr fun answer => ?_
      cases answer with
      | error error => cases error <;> rfl
      | ok verified =>
          change (if record.state ≠ .authorized then _ else _) = Plan.call _ _ (if _ then _ else _)
          split
          · unfold Ledger.retryPayment
            split
            · cases record.idempotencyKey <;> rfl
            · rfl
          · unfold Ledger.submitPayment Ledger.checkProofBinding
            cases Ledger.proofRefusal auth.ctx record verified with
            | some refusal =>
                obtain ⟨reason, detail⟩ := refusal
                exact deny_bind
            | none =>
                change Ledger.append _ _ _ >>= _ = Ledger.append _ _ _ >>= _
                refine bind_congr fun outcome => ?_
                cases outcome <;> rfl

def settlementPlan : Except RailError FinalityStatus → Plan Settlement
  | .error (.invalidProof detail) => .refuse ⟨.settlement, .finalityInvalid, detail⟩
  | .error (.unavailable detail) => .unavailable detail
  | .ok (.final reference) =>
      .plain (.settled ledger.railId reference) (.settled ⟨ctx, reference⟩) rfl (by decide)
  | .ok (.pending reason) => .answer (.pending reason)
  | .ok (.failed reason) =>
      .plain (.settlementFailed ledger.railId reason) (.failed ⟨ctx, reason⟩) rfl (by decide)

def settlement (paid : Paid) (evidence : Evidence) : Decision Proof Evidence Settlement where
  ctx := paid.ctx
  decide
    | none => .outright (.refuse (notFound paid.ctx .settlement))
    | some record =>
        match record.state with
        | .paid =>
            if record.rail ≠ some ledger.railId then
              let rail := match record.rail with
                | none => "None"
                | some rail => "Some(" ++ externals.debugStr rail ++ ")"
              .outright (.refuse ⟨.settlement, .railMismatch,
                s!"paid via {rail}, evidence from {ledger.railId}"⟩)
            else
              match record.paymentReference with
              | none => .outright (.corrupt "paid without reference")
              | some reference =>
                  .judge ledger.railId evidence
                    (Ledger.settlementExpectation paid.ctx record reference)
                    (settlementPlan ledger paid.ctx)
        | .settled | .delivered =>
            .outright (.present record.settlementReference "settled without reference"
              fun reference => .settled ⟨record.ctx, reference⟩)
        | .settlementFailed | .compensated =>
            .outright (.present record.failureReason "failed without reason"
              fun reason => .failed ⟨record.ctx, reason⟩)
        | .authorized => .outright (.refuse (elsewhere .settlement .authorized))
        | .expired => .outright (.refuse (elsewhere .settlement .expired))

theorem recordSettlement_eq (paid : Paid) (evidence : Evidence) :
    (ledger.recordSettlement externals paid evidence : Call Proof Evidence Settlement) =
      (settlement externals ledger paid evidence).call := by
  refine bind_congr fun now => bind_congr fun record => ?_
  cases record with
  | none => rfl
  | some record =>
      dsimp only [settlement]
      unfold Ledger.settlementReplay Ledger.settledFrom Ledger.failedFrom
      cases record.state with
      | paid =>
          change ledger.settlePaid externals paid.ctx now record evidence = _
          unfold Ledger.settlePaid
          dsimp only
          split
          · rfl
          · cases record.paymentReference with
            | none => rfl
            | some reference =>
                refine bind_congr fun answer => ?_
                cases answer with
                | error error => cases error <;> rfl
                | ok status =>
                    cases status with
                    | pending reason => rfl
                    | final settled => exact Plan.call_plain rfl (by decide)
                    | failed reason => exact Plan.call_plain rfl (by decide)
      | settled | delivered => cases record.settlementReference <;> rfl
      | settlementFailed | compensated => cases record.failureReason <;> rfl
      | authorized | expired => exact deny_bind

def compensation (failed : SettlementFailed) (reference : Option String) :
    Decision Proof Evidence Compensated where
  ctx := failed.ctx
  decide
    | none => .outright (.refuse (notFound failed.ctx .compensation))
    | some record =>
        match record.state with
        | .settlementFailed =>
            .outright (.plain (.compensated reference) ⟨failed.ctx⟩ rfl (by decide))
        | .compensated => .outright (.answer ⟨failed.ctx⟩)
        | other => .outright (.refuse (elsewhere .compensation other))

theorem compensate_eq (failed : SettlementFailed) (reference : Option String) :
    (Ledger.compensate failed reference : Call Proof Evidence Compensated) =
      (compensation failed reference).call := by
  refine bind_congr fun now => state_bind.trans (bind_congr fun record => ?_)
  cases record with
  | none => rfl
  | some record =>
      dsimp only [compensation, Option.map_some]
      cases record.state with
      | settlementFailed => exact Plan.call_plain rfl (by decide)
      | _ => rfl

def expiry (auth : Authorized) : Decision Proof Evidence Unit where
  ctx := auth.ctx
  decide
    | none => .outright (.refuse (notFound auth.ctx .expiry))
    | some record =>
        match record.state with
        | .authorized => .outright (.plain .expired () rfl (by decide))
        | .expired => .outright (.answer ())
        | other => .outright (.refuse (elsewhere .expiry other))

theorem expire_eq (auth : Authorized) :
    (Ledger.expire auth : Call Proof Evidence Unit) = (expiry auth).call := by
  refine bind_congr fun now => state_bind.trans (bind_congr fun record => ?_)
  cases record with
  | none => rfl
  | some record =>
      dsimp only [expiry, Option.map_some]
      cases record.state with
      | authorized =>
          have planned : (do Ledger.appendPlain auth.ctx now .expired; return () :
              Call Proof Evidence Unit) = _ := Plan.call_plain rfl (by decide)
          exact (bind_pure _).symm.trans planned
      | _ => rfl

def delivery (settled : Settled) (receipt : DeliveryReceipt) :
    Decision Proof Evidence Delivered where
  ctx := settled.ctx
  decide
    | none => .outright (.refuse (notFound settled.ctx .delivery))
    | some record =>
        match record.state with
        | .settled =>
            .outright (.plain (.delivered receipt) ⟨settled.ctx, receipt.reference⟩ rfl (by decide))
        | .delivered =>
            .outright (.present record.receiptReference "delivered without receipt"
              fun reference => ⟨settled.ctx, reference⟩)
        | other => .outright (.refuse (elsewhere .delivery other))

theorem recordDelivery_eq (settled : Settled) (receipt : DeliveryReceipt) :
    (Ledger.recordDelivery settled receipt : Call Proof Evidence Delivered) =
      (delivery settled receipt).call := by
  refine bind_congr fun now => bind_congr fun record => ?_
  cases record with
  | none => rfl
  | some record =>
      dsimp only [delivery]
      cases record.state with
      | settled => exact Plan.call_plain rfl (by decide)
      | delivered => exact Plan.call_present
      | _ => rfl

end Methods

-- `authorize` reads more than the record, so its plan is a function of the store.
section Authorize

variable (externals : Externals)

def replayPlan (record : Record) (mandate : Mandate) (stored : Option Mandate) : Plan Authorized :=
  match mandate.verify externals.signatures with
  | .error error => .refuse ⟨.authorize, .mandateSignatureInvalid, error.toString⟩
  | .ok () =>
      match stored with
      | none =>
          if record.state.isTerminal then
            .refuse ⟨.authorize, .invalidState,
              s!"context is {record.state.debug} and its chain has been pruned; this purchase attempt is over"⟩
          else
            .corrupt "a record without an Authorized event"
      | some stored =>
          if !(stored.body == mandate.body) then
            .refuse ⟨.authorize, .contextMismatch, "a different mandate with the same id"⟩
          else if stored.signer ≠ mandate.signer then
            .refuse ⟨.authorize, .contextMismatch, "the same mandate signed by a different key"⟩
          else
            .answer (Ledger.authorizedFrom record)

def authorizedSubmission (ctx : ContextId) (mandate : Mandate) (cart : Cart)
    (requestKey : String) : Submission Authorized where
  body := .authorized mandate (cart.snapshot externals.sha256) requestKey
  value := ⟨ctx, mandate.id, cart.hash externals.sha256, cart.claims.merchant, cart.claims.total⟩
  refused
    | .budgetExceeded remaining => .ok ⟨.authorize, .scopeTotalExceeded,
        s!"cart total {cart.claims.total.toString} exceeds remaining budget {remaining.toString}"⟩
    | .velocityExceeded count => .ok ⟨.authorize, .velocityExceeded,
        s!"{count.toNat} authorizations already in the velocity window"⟩
    | .mandateRevoked => .ok ⟨.authorize, .mandateRevoked, s!"mandate {mandate.id.val} is revoked"⟩
    | _ => .error (.corrupt "refusal outcome returned for Authorized")
  changes := rfl
  handled := by
    intro outcome refuses
    cases outcome <;> simp [AppendOutcome.refuses] at refuses ⊢

def freshPlan (ledger : Ledger) (ctx : ContextId) (now : Timestamp) (mandate : Mandate)
    (cart : Cart) (requestKey : String) (revoked : Bool) : Plan Authorized :=
  match mandate.verify externals.signatures with
  | .error error => .refuse ⟨.authorize, .mandateSignatureInvalid, error.toString⟩
  | .ok () =>
      if ledger.signers mandate.body.principal mandate.signer = false then
        .refuse ⟨.authorize, .mandateSignerUntrusted,
          s!"key {hexEncode mandate.signer.bytes} is not trusted for {mandate.body.principal.val}"⟩
      else if revoked then
        .refuse ⟨.authorize, .mandateRevoked, s!"mandate {mandate.id.val} is revoked"⟩
      else
        match mandate.body.scope.admits cart.claims cart.attestation now with
        | .error (reason, detail) => .refuse ⟨.authorize, reason, detail⟩
        | .ok () => .submit (authorizedSubmission externals ctx mandate cart requestKey)

/-- The context a purchase attempt is about. -/
def attempt (mandate : Mandate) (cart : Cart) (requestKey : String) : ContextId :=
  ContextId.derive externals.sha256 mandate.id (cart.hash externals.sha256) requestKey

def authorizePlan (ledger : Ledger) (mandate : Mandate) (cart : Cart) (requestKey : String)
    (now : Timestamp) (inner : Inner) : Plan Authorized :=
  let ctx := attempt externals mandate cart requestKey
  match inner.records.lookup ctx with
  | some record => replayPlan externals record mandate (inner.authorizedMandate ctx)
  | none =>
      freshPlan externals ledger ctx now mandate cart requestKey (decide (mandate.id ∈ inner.revoked))

end Authorize

end MandateLedger.Engine
