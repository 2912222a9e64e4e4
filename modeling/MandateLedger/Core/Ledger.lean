import MandateLedger.Core.Store
import MandateLedger.Process.Program

namespace MandateLedger.Core

open MandateLedger.Process MandateLedger.Data

/-! # The engine

`rail.rs`, the tokens of `state.rs`, and `ledger.rs`.  A ledger call is a program
over the operations of its dependencies: the store, the rail and the clock.
Between two of those operations it computes on what they answered, so the
operations are exactly the points where concurrent calls can interleave.
-/

structure PaymentExpectation where
  ctx : ContextId
  cartHash : Hash32
  amount : Money
  merchant : MerchantId
  recordedReference : Option String
deriving DecidableEq

structure VerifiedProof where
  reference : String
  nonce : String
  amount : Money
  boundCtx : Option ContextId
  boundCart : Option Hash32
  boundMerchant : Option MerchantId
deriving DecidableEq

structure SettlementExpectation where
  ctx : ContextId
  paymentReference : String
  amount : Money
  merchant : MerchantId
deriving DecidableEq

inductive FinalityStatus where
  | final (reference : String)
  | pending (reason : String)
  | failed (reason : String)
deriving DecidableEq

inductive RailError where
  | invalidProof (detail : String)
  | unavailable (detail : String)
deriving DecidableEq

structure Authorized where
  ctx : ContextId
  mandateId : MandateId
  cartHash : Hash32
  merchant : MerchantId
  amount : Money
deriving DecidableEq

structure Paid where
  ctx : ContextId
  rail : String
  reference : String
  idempotencyKey : Hash32
deriving DecidableEq

structure Settled where
  ctx : ContextId
  reference : String
deriving DecidableEq

structure SettlementFailed where
  ctx : ContextId
  reason : String
deriving DecidableEq

structure Compensated where
  ctx : ContextId
deriving DecidableEq

structure Delivered where
  ctx : ContextId
  receiptReference : String
deriving DecidableEq

inductive Settlement where
  | settled (token : Settled)
  | pending (reason : String)
  | failed (token : SettlementFailed)
deriving DecidableEq

inductive Resumed where
  | authorized (token : Authorized)
  | paid (token : Paid)
  | settled (token : Settled)
  | settlementFailed (token : SettlementFailed)
  | compensated (token : Compensated)
  | delivered (token : Delivered)
  | expired (ctx : ContextId)
deriving DecidableEq

structure Reached where
  state : PaymentState
  authorized : Authorized
  paid : Option Paid
  settled : Option Settled
  settlementFailed : Option SettlementFailed
  compensated : Option Compensated
  delivered : Option Delivered
  expired : Bool
deriving DecidableEq

structure Denied where
  ctx : ContextId
  stage : Stage
  reason : DenyReason
  detail : String
  recorded : Bool
deriving DecidableEq

inductive LedgerError where
  | denied (denied : Denied)
  | store (error : StoreError)
  | railUnavailable (detail : String)
  | canonicalize (error : CanonicalizeError)
deriving DecidableEq

/-- `corrupt`. -/
def LedgerError.corrupt (message : String) : LedgerError := .store (.corrupt message)

/-- The operations of the store, the clock and a rail.  A rail is named by its
`id`; its proofs and its evidence are of arbitrary types. -/
inductive Op (Proof Evidence : Type) where
  | now
  | record (ctx : ContextId)
  | events (ctx : ContextId)
  | authorizedMandate (ctx : ContextId)
  | isRevoked (mandate : MandateId)
  | revoke (mandate : MandateId)
  | append (ctx : ContextId) (now : Timestamp) (body : EventBody)
  | verifyProof (rail : String) (proof : Proof) (expected : PaymentExpectation)
  | checkFinality (rail : String) (evidence : Evidence) (expected : SettlementExpectation)

variable {Proof Evidence : Type}

def Op.Answer : Op Proof Evidence → Type
  | .now => Timestamp
  | .record _ => Except StoreError (Option Record)
  | .events _ => Except StoreError (List Event)
  | .authorizedMandate _ => Except StoreError (Option Mandate)
  | .isRevoked _ => Except StoreError Bool
  | .revoke _ => Except StoreError Unit
  | .append .. => Except StoreError AppendOutcome
  | .verifyProof .. => Except RailError VerifiedProof
  | .checkFinality .. => Except RailError FinalityStatus

abbrev Call (Proof Evidence α : Type) :=
  Fallible (Op Proof Evidence) Op.Answer LedgerError α

/-- What a ledger is assembled from besides its store and clock: the rail it
gates and the keys it trusts. -/
structure Ledger where
  railId : String
  signers : SignerPolicy

namespace Ledger

def now : Call Proof Evidence Timestamp := Fallible.ask (Op.now : Op Proof Evidence)

def record (ctx : ContextId) : Call Proof Evidence (Option Record) :=
  .attempt (.record ctx) id .store

def events (ctx : ContextId) : Call Proof Evidence (List Event) :=
  .attempt (.events ctx) id .store

def authorizedMandate (ctx : ContextId) : Call Proof Evidence (Option Mandate) :=
  .attempt (.authorizedMandate ctx) id .store

def isRevoked (mandate : MandateId) : Call Proof Evidence Bool :=
  .attempt (.isRevoked mandate) id .store

/-- An append whose error the call looks at. -/
def tryAppend (ctx : ContextId) (now : Timestamp) (body : EventBody) :
    Call Proof Evidence (Except StoreError AppendOutcome) :=
  Fallible.ask (Op.append ctx now body : Op Proof Evidence)

def append (ctx : ContextId) (now : Timestamp) (body : EventBody) :
    Call Proof Evidence AppendOutcome :=
  .attempt (.append ctx now body) id .store

/-- `Corrupt` with the `Debug` text of an outcome.  Both callers have already
handled `Appended`. -/
def unexpectedOutcome (outcome : AppendOutcome) : LedgerError :=
  .corrupt ("unexpected append outcome " ++
    match outcome with
    | .appended _ => "Appended"
    | .budgetExceeded remaining => "BudgetExceeded \x7b remaining: " ++ remaining.toString ++ " \x7d"
    | .velocityExceeded count => "VelocityExceeded \x7b count: " ++ toString count.toNat ++ " \x7d"
    | .nonceAlreadyUsed => "NonceAlreadyUsed"
    | .mandateRevoked => "MandateRevoked"
    | .denialsCapped => "DenialsCapped")

/-- `Ledger::deny`: the refusal is written before it is returned, unless the
chain is full of them. -/
def deny {α : Type} (ctx : ContextId) (now : Timestamp) (stage : Stage) (reason : DenyReason)
    (detail : String) : Call Proof Evidence α := do
  match ← append ctx now (.denied stage reason detail) with
  | .appended _ => throw (.denied ⟨ctx, stage, reason, detail, true⟩)
  | .denialsCapped => throw (.denied ⟨ctx, stage, reason, detail, false⟩)
  | other => throw (unexpectedOutcome other)

/-- `Ledger::append_plain`. -/
def appendPlain (ctx : ContextId) (now : Timestamp) (body : EventBody) :
    Call Proof Evidence Unit := do
  match ← append ctx now body with
  | .appended _ => return ()
  | other => throw (unexpectedOutcome other)

def authorizedFrom (record : Record) : Authorized where
  ctx := record.ctx
  mandateId := record.mandateId
  cartHash := record.cartHash
  merchant := record.merchant
  amount := record.amount

/-- `ok_or_else(|| corrupt(message))`. -/
def present {α : Type} (value : Option α) (message : String) : Except LedgerError α :=
  match value with
  | some value => .ok value
  | none => .error (.corrupt message)

def paidFrom (record : Record) : Except LedgerError Paid := do
  let rail ← present record.rail "paid without rail"
  let reference ← present record.paymentReference "paid without reference"
  let key ← present record.idempotencyKey "paid without idempotency key"
  return ⟨record.ctx, rail, reference, key⟩

def settledFrom (record : Record) : Except LedgerError Settled := do
  let reference ← present record.settlementReference "settled without reference"
  return ⟨record.ctx, reference⟩

def failedFrom (record : Record) : Except LedgerError SettlementFailed := do
  let reason ← present record.failureReason "failed without reason"
  return ⟨record.ctx, reason⟩

def deliveredFrom (record : Record) : Except LedgerError Delivered := do
  let reference ← present record.receiptReference "delivered without receipt"
  return ⟨record.ctx, reference⟩

/-- `idempotency_key`. -/
def idempotencyKey (sha256 : Bytes → Hash32) (ctx : ContextId) (rail nonce : String) : Hash32 :=
  sha256 (utf8 ctx.val ++ [0x1f] ++ utf8 rail ++ [0x1f] ++ utf8 nonce)

/-- `Ledger::authorization`. -/
def authorization (ctx : ContextId) (now : Timestamp) (mandate : Mandate) (cartHash : Hash32)
    (claims : ScopeClaims) : AppendOutcome → Call Proof Evidence Authorized
  | .appended _ => return ⟨ctx, mandate.id, cartHash, claims.merchant, claims.total⟩
  | .budgetExceeded remaining =>
      deny ctx now .authorize .scopeTotalExceeded
        s!"cart total {claims.total.toString} exceeds remaining budget {remaining.toString}"
  | .velocityExceeded count =>
      deny ctx now .authorize .velocityExceeded
        s!"{count.toNat} authorizations already in the velocity window"
  | .mandateRevoked =>
      deny ctx now .authorize .mandateRevoked s!"mandate {mandate.id.val} is revoked"
  | .nonceAlreadyUsed | .denialsCapped =>
      throw (.corrupt "refusal outcome returned for Authorized")

/-- `Ledger::replay`. -/
def replay (externals : Externals) (ctx : ContextId) (now : Timestamp) (record : Record)
    (mandate : Mandate) : Call Proof Evidence Authorized := do
  match mandate.verify externals.signatures with
  | .error error => deny ctx now .authorize .mandateSignatureInvalid error.toString
  | .ok () =>
      match ← authorizedMandate ctx with
      | none =>
          if record.state.isTerminal then
            deny ctx now .authorize .invalidState
              s!"context is {record.state.debug} and its chain has been pruned; this purchase attempt is over"
          else
            throw (.corrupt "a record without an Authorized event")
      | some stored =>
          if !(stored.body == mandate.body) then
            deny ctx now .authorize .contextMismatch "a different mandate with the same id"
          else if stored.signer ≠ mandate.signer then
            deny ctx now .authorize .contextMismatch "the same mandate signed by a different key"
          else
            return authorizedFrom record

/-- The append at the end of `authorize`, and the race it can lose. -/
def submitAuthorized (externals : Externals) (ctx : ContextId) (now : Timestamp)
    (mandate : Mandate) (cart : Cart) (requestKey : String) : Call Proof Evidence Authorized := do
  match ← tryAppend ctx now
      (.authorized mandate (cart.snapshot externals.sha256) requestKey) with
  | .ok outcome =>
      authorization ctx now mandate (cart.hash externals.sha256) cart.claims outcome
  | .error (.illegalTransition _ (some _) .authorized) =>
      match ← record ctx with
      | none => throw (.corrupt "a context that refused Authorized has no record")
      | some record => replay externals ctx now record mandate
  | .error error => throw (.store error)

/-- The checks of `authorize` on a context that does not exist yet. -/
def authorizeFresh (externals : Externals) (ledger : Ledger) (ctx : ContextId) (now : Timestamp)
    (mandate : Mandate) (cart : Cart) (requestKey : String) : Call Proof Evidence Authorized := do
  match mandate.verify externals.signatures with
  | .error error => deny ctx now .authorize .mandateSignatureInvalid error.toString
  | .ok () =>
      if ledger.signers mandate.body.principal mandate.signer = false then
        deny ctx now .authorize .mandateSignerUntrusted
          s!"key {hexEncode mandate.signer.bytes} is not trusted for {mandate.body.principal.val}"
      else if ← isRevoked mandate.id then
        deny ctx now .authorize .mandateRevoked s!"mandate {mandate.id.val} is revoked"
      else
        match mandate.body.scope.admits cart.claims cart.attestation now with
        | .error (reason, detail) => deny ctx now .authorize reason detail
        | .ok () => submitAuthorized externals ctx now mandate cart requestKey

/-- `Ledger::authorize`. -/
def authorize (externals : Externals) (ledger : Ledger) (mandate : Mandate) (cart : Cart)
    (requestKey : String) : Call Proof Evidence Authorized := do
  let now ← now
  let ctx := ContextId.derive externals.sha256 mandate.id (cart.hash externals.sha256) requestKey
  match ← record ctx with
  | some record => replay externals ctx now record mandate
  | none => authorizeFresh externals ledger ctx now mandate cart requestKey

/-- The amount, binding and payee checks, in the source's order. -/
def proofRefusal (ctx : ContextId) (record : Record) (verified : VerifiedProof) :
    Option (DenyReason × String) :=
  if !(verified.amount == record.amount) then
    some (.amountMismatch,
      s!"proof is for {verified.amount.toString}, authorized {record.amount.toString}")
  else
    match verified.boundCtx.map (· == ctx), verified.boundCart.map (· == record.cartHash) with
    | none, none => some (.unboundProof, "proof binds to neither context nor cart")
    | some false, _ => some (.contextBindingMismatch, "proof binds to a different context")
    | _, some false => some (.cartBindingMismatch, "proof binds to a different cart")
    | _, _ =>
        match verified.boundMerchant with
        | some payee =>
            if payee ≠ record.merchant then
              some (.merchantBindingMismatch,
                s!"proof pays {payee.val}, authorized {record.merchant.val}")
            else none
        | none => none

/-- `Ledger::check_proof_binding`. -/
def checkProofBinding (ctx : ContextId) (now : Timestamp) (record : Record)
    (verified : VerifiedProof) : Call Proof Evidence Unit :=
  match proofRefusal ctx record verified with
  | some (reason, detail) => deny ctx now .payment reason detail
  | none => return ()

/-- `record_payment` on a context that is past `Authorized`: a retry. -/
def retryPayment (ledger : Ledger) (ctx : ContextId) (now : Timestamp) (record : Record)
    (verified : VerifiedProof) : Call Proof Evidence Paid :=
  if record.rail = some ledger.railId ∧ record.paymentReference = some verified.reference then
    match record.idempotencyKey with
    | none => throw (.corrupt "paid record without idempotency key")
    | some key => return ⟨ctx, ledger.railId, verified.reference, key⟩
  else
    deny ctx now .payment .invalidState
      s!"context is {record.state.debug}; a different payment is already recorded"

/-- `record_payment` on an authorized context: the checks and the append. -/
def submitPayment (externals : Externals) (ledger : Ledger) (ctx : ContextId) (now : Timestamp)
    (record : Record) (verified : VerifiedProof) : Call Proof Evidence Paid := do
  checkProofBinding ctx now record verified
  let key := idempotencyKey externals.sha256 ctx ledger.railId verified.nonce
  match ← append ctx now
      (.paid ledger.railId verified.reference verified.nonce verified.amount key) with
  | .appended _ => return ⟨ctx, ledger.railId, verified.reference, key⟩
  | .nonceAlreadyUsed =>
      deny ctx now .payment .nonceAlreadyUsed "nonce already consumed by another context"
  | .budgetExceeded _ | .velocityExceeded _ | .mandateRevoked | .denialsCapped =>
      throw (.corrupt "another body's outcome returned for Paid")

def verifyProof (ledger : Ledger) (proof : Proof) (expected : PaymentExpectation) :
    Call Proof Evidence (Except RailError VerifiedProof) :=
  Fallible.ask (Op.verifyProof ledger.railId proof expected : Op Proof Evidence)

/-- What the rail is told about the context being paid. -/
def paymentExpectation (ctx : ContextId) (record : Record) : PaymentExpectation where
  ctx := ctx
  cartHash := record.cartHash
  amount := record.amount
  merchant := record.merchant
  recordedReference := record.paymentReference

/-- `Ledger::record_payment`. -/
def recordPayment (externals : Externals) (ledger : Ledger) (auth : Authorized) (proof : Proof) :
    Call Proof Evidence Paid := do
  let now ← now
  let ctx := auth.ctx
  match ← record ctx with
  | none => deny ctx now .payment .contextNotFound s!"no context {ctx.val}"
  | some record =>
      match ← ledger.verifyProof proof (paymentExpectation ctx record) with
      | .error (.invalidProof detail) => deny ctx now .payment .proofInvalid detail
      | .error (.unavailable detail) => throw (.railUnavailable detail)
      | .ok verified =>
          if record.state ≠ .authorized then
            ledger.retryPayment ctx now record verified
          else
            ledger.submitPayment externals ctx now record verified

/-- `Ledger::settlement_replay`. -/
def settlementReplay (ctx : ContextId) (now : Timestamp) (record : Record) :
    Call Proof Evidence (Option Settlement) := do
  match record.state with
  | .paid => return none
  | .settled | .delivered =>
      let token ← (settledFrom record : Except LedgerError Settled)
      return some (.settled token)
  | .settlementFailed | .compensated =>
      let token ← (failedFrom record : Except LedgerError SettlementFailed)
      return some (.failed token)
  | .authorized | .expired =>
      deny ctx now .settlement .invalidState s!"context is {record.state.debug}"

def checkFinality (ledger : Ledger) (evidence : Evidence) (expected : SettlementExpectation) :
    Call Proof Evidence (Except RailError FinalityStatus) :=
  Fallible.ask (Op.checkFinality ledger.railId evidence expected : Op Proof Evidence)

/-- What the rail is told about the payment awaiting settlement. -/
def settlementExpectation (ctx : ContextId) (record : Record) (reference : String) :
    SettlementExpectation where
  ctx := ctx
  paymentReference := reference
  amount := record.amount
  merchant := record.merchant

/-- `record_settlement` once the rail has spoken. -/
def submitSettlement (ledger : Ledger) (ctx : ContextId) (now : Timestamp) :
    FinalityStatus → Call Proof Evidence Settlement
  | .final reference => do
      appendPlain ctx now (.settled ledger.railId reference)
      return .settled ⟨ctx, reference⟩
  | .pending reason => return .pending reason
  | .failed reason => do
      appendPlain ctx now (.settlementFailed ledger.railId reason)
      return .failed ⟨ctx, reason⟩

/-- `record_settlement` on a paid context. -/
def settlePaid (externals : Externals) (ledger : Ledger) (ctx : ContextId) (now : Timestamp)
    (record : Record) (evidence : Evidence) : Call Proof Evidence Settlement := do
  if record.rail ≠ some ledger.railId then
    let rail := match record.rail with
      | none => "None"
      | some rail => "Some(" ++ externals.debugStr rail ++ ")"
    deny ctx now .settlement .railMismatch s!"paid via {rail}, evidence from {ledger.railId}"
  else
    match record.paymentReference with
    | none => throw (.corrupt "paid without reference")
    | some reference =>
        match ← ledger.checkFinality evidence (settlementExpectation ctx record reference) with
        | .error (.invalidProof detail) => deny ctx now .settlement .finalityInvalid detail
        | .error (.unavailable detail) => throw (.railUnavailable detail)
        | .ok status => ledger.submitSettlement ctx now status

/-- `Ledger::record_settlement`. -/
def recordSettlement (externals : Externals) (ledger : Ledger) (paid : Paid)
    (evidence : Evidence) : Call Proof Evidence Settlement := do
  let now ← now
  let ctx := paid.ctx
  match ← record ctx with
  | none => deny ctx now .settlement .contextNotFound s!"no context {ctx.val}"
  | some record =>
      match ← settlementReplay ctx now record with
      | some replay => return replay
      | none => ledger.settlePaid externals ctx now record evidence

/-- `Ledger::state`. -/
def state (ctx : ContextId) : Call Proof Evidence (Option PaymentState) := do
  return (← record ctx).map Record.state

/-- The refusals a step shares: the context is elsewhere, or nowhere. -/
def refuseState {α : Type} (ctx : ContextId) (now : Timestamp) (stage : Stage) :
    Option PaymentState → Call Proof Evidence α
  | some state => deny ctx now stage .invalidState s!"context is {state.debug}"
  | none => deny ctx now stage .contextNotFound s!"no context {ctx.val}"

/-- `Ledger::compensate`. -/
def compensate (failed : SettlementFailed) (reference : Option String) :
    Call Proof Evidence Compensated := do
  let now ← now
  let ctx := failed.ctx
  match ← state ctx with
  | some .settlementFailed =>
      appendPlain ctx now (.compensated reference)
      return ⟨ctx⟩
  | some .compensated => return ⟨ctx⟩
  | other => refuseState ctx now .compensation other

/-- `Ledger::expire`. -/
def expire (auth : Authorized) : Call Proof Evidence Unit := do
  let now ← now
  let ctx := auth.ctx
  match ← state ctx with
  | some .authorized => appendPlain ctx now .expired
  | some .expired => return ()
  | other => refuseState ctx now .expiry other

/-- `Ledger::record_delivery`. -/
def recordDelivery (settled : Settled) (receipt : DeliveryReceipt) :
    Call Proof Evidence Delivered := do
  let now ← now
  let ctx := settled.ctx
  match ← record ctx with
  | none => refuseState ctx now .delivery none
  | some record =>
      match record.state with
      | .settled =>
          appendPlain ctx now (.delivered receipt)
          return ⟨ctx, receipt.reference⟩
      | .delivered =>
          let reference ←
            (present record.receiptReference "delivered without receipt" : Except LedgerError String)
          return ⟨ctx, reference⟩
      | other => refuseState ctx now .delivery (some other)

/-- The token `resume` reads off a record. -/
def resumedFrom (ctx : ContextId) (record : Record) : Except LedgerError Resumed :=
  match record.state with
  | .authorized => return .authorized (authorizedFrom record)
  | .paid => return .paid (← paidFrom record)
  | .settled => return .settled (← settledFrom record)
  | .settlementFailed => return .settlementFailed (← failedFrom record)
  | .compensated => return .compensated ⟨ctx⟩
  | .delivered => return .delivered (← deliveredFrom record)
  | .expired => return .expired ctx

/-- `Ledger::resume`. -/
def resume (ctx : ContextId) : Call Proof Evidence (Option Resumed) := do
  match ← record ctx with
  | none => return none
  | some record =>
      let resumed ← (resumedFrom ctx record : Except LedgerError Resumed)
      return some resumed

/-- `condition.then(token).transpose()`. -/
def earned {α : Type} (condition : Bool) (token : Except LedgerError α) :
    Except LedgerError (Option α) :=
  if condition then return some (← token) else return none

/-- Every token `reached` reads off a record. -/
def reachedFrom (ctx : ContextId) (record : Record) : Except LedgerError Reached := do
  let state := record.state
  let paid ← earned (state ∈ [.paid, .settled, .settlementFailed, .compensated, .delivered])
    (paidFrom record)
  let settled ← earned (state ∈ [.settled, .delivered]) (settledFrom record)
  let settlementFailed ← earned (state ∈ [.settlementFailed, .compensated]) (failedFrom record)
  let delivered ← earned (state = .delivered) (deliveredFrom record)
  return {
    state := state
    authorized := authorizedFrom record
    paid := paid
    settled := settled
    settlementFailed := settlementFailed
    compensated := if state = .compensated then some ⟨ctx⟩ else none
    delivered := delivered
    expired := state = .expired }

/-- `Ledger::reached`. -/
def reached (ctx : ContextId) : Call Proof Evidence (Option Reached) := do
  match ← record ctx with
  | none => return none
  | some record =>
      let reached ← (reachedFrom ctx record : Except LedgerError Reached)
      return some reached

/-- `Ledger::evidence`. -/
def evidence (ctx : ContextId) : Call Proof Evidence (Option EvidenceBundle) := do
  let events ← events ctx
  if events = [] then return none
  else
    let now ← now
    return some (EvidenceBundle.new ctx now events)

/-- `Ledger::revoke`. -/
def revoke (mandate : MandateId) : Call Proof Evidence Unit :=
  .attempt (.revoke mandate) id .store

end Ledger

inductive Request (Proof Evidence : Type) where
  | authorize (ledger : Ledger) (mandate : Mandate) (cart : Cart) (requestKey : String)
  | recordPayment (ledger : Ledger) (auth : Authorized) (proof : Proof)
  | recordSettlement (ledger : Ledger) (paid : Paid) (evidence : Evidence)
  | compensate (failed : SettlementFailed) (reference : Option String)
  | expire (auth : Authorized)
  | recordDelivery (settled : Settled) (receipt : DeliveryReceipt)
  | resume (ctx : ContextId)
  | reached (ctx : ContextId)
  | evidence (ctx : ContextId)
  | revoke (mandate : MandateId)

inductive Response where
  | authorize (result : Except LedgerError Authorized)
  | recordPayment (result : Except LedgerError Paid)
  | recordSettlement (result : Except LedgerError Settlement)
  | compensate (result : Except LedgerError Compensated)
  | expire (result : Except LedgerError Unit)
  | recordDelivery (result : Except LedgerError Delivered)
  | resume (result : Except LedgerError (Option Resumed))
  | reached (result : Except LedgerError (Option Reached))
  | evidence (result : Except LedgerError (Option EvidenceBundle))
  | revoke (result : Except LedgerError Unit)

def Request.program (externals : Externals) :
    Request Proof Evidence → Program (Op Proof Evidence) Op.Answer Response
  | .authorize ledger mandate cart requestKey =>
      return .authorize (← (ledger.authorize externals mandate cart requestKey).run)
  | .recordPayment ledger auth proof =>
      return .recordPayment (← (ledger.recordPayment externals auth proof).run)
  | .recordSettlement ledger paid finality =>
      return .recordSettlement (← (ledger.recordSettlement externals paid finality).run)
  | .compensate failed reference => return .compensate (← (Ledger.compensate failed reference).run)
  | .expire auth => return .expire (← (Ledger.expire auth).run)
  | .recordDelivery settled receipt =>
      return .recordDelivery (← (Ledger.recordDelivery settled receipt).run)
  | .resume ctx => return .resume (← (Ledger.resume ctx).run)
  | .reached ctx => return .reached (← (Ledger.reached ctx).run)
  | .evidence ctx => return .evidence (← (Ledger.evidence ctx).run)
  | .revoke mandate => return .revoke (← (Ledger.revoke mandate).run)

/-- The ledger a call is made on, where the call depends on it. -/
def Request.ledger? : Request Proof Evidence → Option Ledger
  | .authorize ledger _ _ _ | .recordPayment ledger _ _ | .recordSettlement ledger _ _ => some ledger
  | _ => none

end MandateLedger.Core
