import MandateLedger.Adapters.Carts
import MandateLedger.Core.Ledger
import MandateLedger.Core.Signing
import MandateLedger.Serve.Keys
import MandateLedger.Serve.Wire

namespace MandateLedger.Serve

open MandateLedger.Core MandateLedger.Data MandateLedger.Process MandateLedger.Adapters

/-! # The handlers

`handlers.rs`: one handler for each route.  A handler first checks what it can without
the ledger, and that part either rejects the request or ends in the work that `decide`
runs on a blocking thread.  The work is a program over the operations of the store and
the rail: it reads which tokens the context has earned and presents one of them.

The two listing routes page through the log and the records; what a page holds is in
`Memory.Paging`.
-/

/-- `App`, with the libraries it stands on. -/
structure App where
  externals : Externals
  libraries : WireLibraries
  native : NativeLibraries
  signing : Signing
  rail : SandboxRail
  signers : SignerPolicy
  adapter : NativeCartAdapter
  keys : ApiKeys
  evidenceKey : Option SigningKey
  permits : Nat

def App.ledger (app : App) : Ledger := ⟨app.rail.id, app.signers⟩

/-- The body of a `200`. -/
inductive Body where
  | authorized (response : AuthorizedResponse)
  | paid (response : PaidResponse)
  | settlement (response : SettlementResponse)
  | compensated (ctx : String) (state : StepState)
  | delivered (response : DeliveredResponse)
  | expired (ctx : String) (state : StepState)
  | revoked (mandate : String) (revoked : Bool)
  | context (response : ContextResponse)
  | evidence (bundle : EvidenceBundle)
  | signedEvidence (signed : SignedEvidence)
deriving DecidableEq

abbrev Outcome := Except ApiError Body

/-- The work of a handler. -/
abbrev Handler (α : Type) := Fallible (Op MockProof Finality) Op.Answer ApiError α

/-- A call of the ledger, with `?`. -/
def ask {α : Type} (call : Call MockProof Finality α) : Handler α :=
  ExceptT.mk ((fun result => result.mapError ApiError.ofLedger) <$> call.run)

def context (ctx : String) : Except ApiError ContextId :=
  (StringId.new .context ctx).mapError fun error => .badRequest ("ctx: " ++ error.toString)

def mandateId (id : String) : Except ApiError MandateId :=
  (StringId.new .mandate id).mapError fun error => .badRequest ("mandate: " ++ error.toString)

/-- `unreachable`: a step the engine cannot even be asked about. -/
def unreachable (ctx : ContextId) (stage : Stage) (reason : DenyReason) (detail : String) :
    ApiError :=
  .refused ⟨ctx, stage, reason, detail, false⟩

def noSuchContext (ctx : ContextId) (stage : Stage) : ApiError :=
  unreachable ctx stage .contextNotFound "no such context"

/-- The tokens a context has earned. -/
def reachedAt (ctx : ContextId) (stage : Stage) : Handler Reached := do
  match ← ask (Ledger.reached ctx) with
  | some reached => return reached
  | none => throw (noSuchContext ctx stage)

/-- A token the step needs, or the refusal that says why there is none. -/
def earned {α : Type} (ctx : ContextId) (stage : Stage) (state : PaymentState) (needs : String)
    (token : Option α) : Handler α :=
  match token with
  | some token => return token
  | none => throw (unreachable ctx stage .invalidState s!"the context is {stateName state}; {needs}")

section Work

variable (app : App)

def authorizeWork (mandate : Mandate) (cart : Cart) (requestKey : String) : Handler Body := do
  let auth ← ask (app.ledger.authorize app.externals mandate cart requestKey)
  return .authorized (.ofToken auth)

def paymentWork (ctx : ContextId) (proof : MockProof) : Handler Body := do
  let reached ← reachedAt ctx .payment
  let paid ← ask (app.ledger.recordPayment app.externals reached.authorized proof)
  return .paid (.ofToken paid)

/-- What a settlement is answered with. -/
def SettlementResponse.ofSettlement (ctx : ContextId) : Settlement → SettlementResponse
  | .settled settled => ⟨ctx.val, .settled, some settled.reference, none⟩
  | .pending reason => ⟨ctx.val, .pending, none, some reason⟩
  | .failed failed => ⟨ctx.val, .settlementFailed, none, some failed.reason⟩

def settlementWork (ctx : ContextId) (reference : Option String) (reported : Option Reported) :
    Handler Body := do
  let reached ← reachedAt ctx .settlement
  let paid ← earned ctx .settlement reached.state "it was never paid" reached.paid
  let settlement ← ask (app.ledger.recordSettlement app.externals paid
    ⟨reference.getD paid.reference, reported⟩)
  return .settlement (.ofSettlement ctx settlement)

def compensationWork (ctx : ContextId) (reference : Option String) : Handler Body := do
  let reached ← reachedAt ctx .compensation
  let failed ← earned ctx .compensation reached.state "compensation needs settlement_failed"
    reached.settlementFailed
  let compensated ← ask (Ledger.compensate failed reference)
  return .compensated compensated.ctx.val .compensated

def deliveryWork (ctx : ContextId) (receipt : DeliveryReceipt) : Handler Body := do
  let reached ← reachedAt ctx .delivery
  let settled ← earned ctx .delivery reached.state "delivery needs settled" reached.settled
  let delivered ← ask (Ledger.recordDelivery settled receipt)
  return .delivered (.ofToken delivered)

def expiryWork (ctx : ContextId) : Handler Body := do
  let reached ← reachedAt ctx .expiry
  ask (Ledger.expire reached.authorized)
  return .expired ctx.val .expired

def revocationWork (mandate : MandateId) : Handler Body := do
  ask (Ledger.revoke mandate)
  return .revoked mandate.val true

/-- `context_status` asks the store, not the ledger; the error is the same. -/
def statusWork (ctx : ContextId) : Handler Body := do
  match ← ask (Ledger.record ctx) with
  | some record => return .context (.ofRecord record)
  | none => throw (.notFound "no such context")

def evidenceWork (ctx : ContextId) : Handler Body := do
  match ← ask (Ledger.evidence ctx) with
  | none => throw (.notFound "no such context")
  | some bundle =>
      match app.evidenceKey with
      | none => return .evidence bundle
      | some key =>
          match bundle.sign app.signing key with
          | .ok signed => return .signedEvidence signed
          | .error error => throw (.internal ("cannot sign evidence: " ++ error.toString))

/-- A request on one of the routes, its body read as far as the extractors read it. -/
inductive Route where
  | authorize (request : AuthorizeRequest)
  | payment (ctx : String) (proof : ProofBody)
  | settlement (ctx : String) (finality : FinalityBody)
  | compensation (ctx : String) (request : CompensationRequest)
  | delivery (ctx : String) (receipt : ReceiptBody)
  | expiry (ctx : String)
  | revocation (mandate : String)
  | contextStatus (ctx : String)
  | evidence (ctx : String)

def authorize (request : AuthorizeRequest) : Except ApiError (Handler Body) := do
  request.validate
  let mandate ← (app.libraries.readMandate request.mandate).mapError fun error =>
    .badRequest ("mandate: " ++ error)
  let native ← request.cart.intoNative app.libraries
  let cart ← (app.adapter.normalizeCart app.native native).mapError fun error =>
    .badRequest ("cart: " ++ error.toString)
  return authorizeWork app mandate cart request.requestKey

def payment (ctx : String) (proof : ProofBody) : Except ApiError (Handler Body) := do
  let ctx ← context ctx
  let proof ← proof.intoProof app.libraries ctx
  return paymentWork app ctx proof

def settlement (ctx : String) (finality : FinalityBody) : Except ApiError (Handler Body) := do
  let ctx ← context ctx
  let (reference, reported) ← finality.validate
  return settlementWork app ctx reference reported

def compensation (ctx : String) (request : CompensationRequest) :
    Except ApiError (Handler Body) := do
  let ctx ← context ctx
  request.validate
  return compensationWork ctx request.reference

def delivery (ctx : String) (receipt : ReceiptBody) : Except ApiError (Handler Body) := do
  let ctx ← context ctx
  let receipt ← receipt.intoReceipt
  return deliveryWork ctx receipt

def expiry (ctx : String) : Except ApiError (Handler Body) := do
  let ctx ← context ctx
  return expiryWork ctx

def revocation (mandate : String) : Except ApiError (Handler Body) := do
  let mandate ← mandateId mandate
  return revocationWork mandate

def contextStatus (ctx : String) : Except ApiError (Handler Body) := do
  let ctx ← context ctx
  return statusWork ctx

def evidence (ctx : String) : Except ApiError (Handler Body) := do
  let ctx ← context ctx
  return evidenceWork app ctx

/-- The work a request asks for, or why it is rejected before any. -/
def Route.handle : Route → Except ApiError (Handler Body)
  | .authorize request => Serve.authorize app request
  | .payment ctx proof => Serve.payment app ctx proof
  | .settlement ctx finality => Serve.settlement app ctx finality
  | .compensation ctx request => Serve.compensation ctx request
  | .delivery ctx receipt => Serve.delivery ctx receipt
  | .expiry ctx => Serve.expiry ctx
  | .revocation mandate => Serve.revocation mandate
  | .contextStatus ctx => Serve.contextStatus ctx
  | .evidence ctx => Serve.evidence app ctx

end Work

/-- A request as it arrives: its `Authorization` header, and what the extractors made of
its path and body, which is a route or the rejection they chose. -/
structure Http where
  header : Option Bytes
  route : Except (Nat × String) Route

/-- `require_key`, the extractors, and the handler up to `decide`. -/
def App.admit (app : App) (http : Http) : Except ApiError (Handler Body) := do
  ensure ((requireKey app.externals.sha256 app.keys http.header).isSome = true) .unauthorized
  let route ← http.route.mapError fun rejection => .rejected rejection.1 rejection.2
  route.handle app

/-- A response: its status, whether it carries `Retry-After` and `WWW-Authenticate`, and
its body. -/
inductive Content where
  | body (body : Body)
  | refusal (refusal : Refusal)
  | problem (error : String)
deriving DecidableEq

structure Reply where
  status : Nat
  retryAfter : Bool
  authenticate : Bool
  content : Content
deriving DecidableEq

def problem (status : Nat) (error : String) : Reply := ⟨status, false, false, .problem error⟩

/-- `retry_later`. -/
def retryLater (error : String) : Reply := { problem 503 error with retryAfter := true }

/-- `IntoResponse for ApiError`. -/
def ApiError.intoResponse : ApiError → Reply
  | .refused denied => ⟨409, false, false, .refusal (.ofDenied denied)⟩
  | .unauthorized => { problem 401 "missing or invalid API key" with authenticate := true }
  | .notFound what => problem 404 what
  | .rejected status message => problem status message
  | .busy => retryLater "every permit is in use; retry shortly"
  | .timeout => retryLater "the ledger did not answer in time; read the context back, then retry"
  | .undecided _ => retryLater "the ledger could not decide; read the context back, then retry"
  | .railUnavailable cause => retryLater ("the rail could not be consulted: " ++ cause)
  | .internal _ => problem 500 "internal error"

def respond : Outcome → Reply
  | .ok body => ⟨200, false, false, .body body⟩
  | .error error => error.intoResponse

namespace Sample

def key : String := "0123456789abcdef0123456789abcdef"

def decimal (text : String) : Option Decimal :=
  if text = "60.00" then some ⟨false, 6000, 2⟩ else none

/-- One permit, one API key, and the mandates and carts of the sample ledger. -/
def app : App where
  externals := Core.Sample.externals
  libraries :=
    { fromStrExact := decimal
      readDecimal := fun text => match decimal text with
        | some amount => .ok amount
        | none => .error "invalid decimal"
      readMandate := fun _ => .ok (Core.Sample.mandate Core.Sample.alice)
      hexFault := fun _ => "invalid character" }
  native := ⟨fun _ => .error "expected value", Adapters.Sample.canonicalJson, fun _ _ _ => false⟩
  signing :=
    { canonicalBundle := fun bundle => .ok (utf8 bundle.ctx.val)
      verifyingKey := fun _ => Core.Sample.signer Core.Sample.alice
      sign := fun _ _ => Core.Sample.signature }
  rail := ⟨"mock", 2, by decide⟩
  signers := Adapters.Sample.ledger.signers
  adapter := .new
  keys := ⟨[Core.Sample.sha256 (utf8 key)], by simp⟩
  evidenceKey := some ⟨List.replicate 32 3, by simp⟩
  permits := 1

/-- A request with the key. -/
def keyed (route : Route) : Http := ⟨some (utf8 ("Bearer " ++ key)), .ok route⟩

end Sample

end MandateLedger.Serve
