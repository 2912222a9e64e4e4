import MandateLedger.Adapters.Native
import MandateLedger.Adapters.Sandbox
import MandateLedger.Core.Serial

namespace MandateLedger.Serve

open MandateLedger.Core MandateLedger.Data MandateLedger.Adapters MandateLedger.X402

/-- `ApiError`. -/
inductive ApiError where
  | refused (denied : Denied)
  | unauthorized
  | notFound (what : String)
  | rejected (status : Nat) (message : String)
  | busy
  | timeout
  | undecided (cause : String)
  | railUnavailable (cause : String)
  | internal (cause : String)
deriving DecidableEq

/-- `ApiError::bad_request`. -/
def ApiError.badRequest (message : String) : ApiError := .rejected 400 message

/-- `From<LedgerError>`.  `From<StoreError>` is the same on what the store reports. -/
def ApiError.ofLedger : LedgerError → ApiError
  | .denied denied => .refused denied
  | .store error => .undecided error.toString
  | .railUnavailable cause => .railUnavailable cause
  | .canonicalize error => .internal error.toString

/-- What the service's own parsing stands on: `Decimal::from_str_exact`, the `Deserialize` of
`Decimal` and of `Mandate`, and how `hex` describes a text it cannot decode. -/
structure WireLibraries where
  fromStrExact : String → Option Decimal
  readDecimal : String → Except String Decimal
  readMandate : JsonValue → Except String Mandate
  hexFault : String → String

def maxIdLen : Nat := 256

def maxTextLen : Nat := 1024

/-- A field that must be present and no longer than `max` bytes. -/
def bounded (field value : String) (max : Nat) : Except ApiError Unit := do
  ensure (value ≠ "") (.badRequest (field ++ ": must not be empty"))
  ensure (value.utf8ByteSize ≤ max) (.badRequest (field ++ ": longer than " ++ toString max ++ " bytes"))

/-- A field that may be missing. -/
def boundedOption (field : String) (value : Option String) (max : Nat) : Except ApiError Unit :=
  match value with
  | none => return ()
  | some value => bounded field value max

structure MoneyBody where
  amount : String
  currency : String
deriving DecidableEq

/-- `MoneyBody::parse` and `Money::parse`. -/
def MoneyBody.parse (libraries : WireLibraries) (body : MoneyBody) (field : String) :
    Except ApiError Money :=
  match libraries.fromStrExact body.amount with
  | none => .error (.badRequest (field ++ ": invalid amount `" ++ body.amount ++ "`"))
  | some amount => do
      let currency ← (Currency.new body.currency).mapError fun error =>
        .badRequest (field ++ ": " ++ error.toString)
      return ⟨amount, currency⟩

/-- `From<&Money>`. -/
def MoneyBody.ofMoney (money : Money) : MoneyBody := ⟨money.amount.toString, money.currency.code⟩

structure AttestationBody where
  keyId : String
  signature : String
deriving DecidableEq

structure CartBody where
  merchant : String
  total : MoneyBody
  category : Option String
  items : List JsonValue
  attestation : Option AttestationBody

/-- The `Deserialize` of `NativeAttestation`. -/
def AttestationBody.intoNative (libraries : WireLibraries) (body : AttestationBody) :
    Except String NativeAttestation :=
  match decodeToSlice 64 body.signature.toList with
  | some signature => .ok ⟨body.keyId, signature⟩
  | none => .error (libraries.hexFault body.signature)

/-- The `Deserialize` of `Money`. -/
def MoneyBody.read (libraries : WireLibraries) (body : MoneyBody) : Except String Money := do
  let amount ← libraries.readDecimal body.amount
  let currency ← (Currency.new body.currency).mapError MoneyError.toString
  return ⟨amount, currency⟩

/-- `CartBody::into_native`: written as JSON, whose fields are in alphabetical order, and read
back as the adapter's cart. -/
def CartBody.intoNative (libraries : WireLibraries) (body : CartBody) :
    Except ApiError NativeCart := do
  let attestation ← (body.attestation.mapM (AttestationBody.intoNative libraries)).mapError fun error =>
    .badRequest ("cart: " ++ error)
  let total ← (body.total.read libraries).mapError fun error => .badRequest ("cart: " ++ error)
  return ⟨body.merchant, total, body.category, body.items, attestation⟩

structure AuthorizeRequest where
  mandate : JsonValue
  cart : CartBody
  requestKey : String

/-- `AuthorizeRequest::validate`. -/
def AuthorizeRequest.validate (request : AuthorizeRequest) : Except ApiError Unit := do
  bounded "request_key" request.requestKey maxIdLen
  boundedOption "cart.attestation.key_id" (request.cart.attestation.map AttestationBody.keyId) maxIdLen

structure ProofBody where
  reference : String
  amount : MoneyBody
  nonce : Option String
  boundCart : Option String
  boundMerchant : Option String
  unbound : Bool
  valid : Bool
deriving DecidableEq

/-- `str::parse::<Hash32>`, with its error. -/
def parseHash (text : String) : Except String Hash32 :=
  match Hash32.parse text with
  | some hash => .ok hash
  | none => .error "invalid hash: expected `sha256:<64 hex chars>`"

/-- `ProofBody::into_proof`. -/
def ProofBody.intoProof (libraries : WireLibraries) (body : ProofBody) (ctx : ContextId) :
    Except ApiError MockProof := do
  bounded "proof.reference" body.reference maxIdLen
  boundedOption "proof.nonce" body.nonce maxIdLen
  let amount ← body.amount.parse libraries "proof.amount"
  let boundCart ← (body.boundCart.mapM parseHash).mapError fun error =>
    .badRequest ("proof.bound_cart: " ++ error)
  let boundMerchant ← (body.boundMerchant.mapM (StringId.new .merchant)).mapError fun error =>
    .badRequest ("proof.bound_merchant: " ++ error.toString)
  return {
    reference := body.reference
    nonce := body.nonce.getD body.reference
    amount := amount
    boundCtx := if body.unbound then none else some ctx
    boundCart := boundCart
    boundMerchant := boundMerchant
    valid := body.valid }

structure FinalityBody where
  reference : Option String
  confirmations : Option UInt32
  failed : Option String
deriving DecidableEq

/-- `FinalityBody::validate`. -/
def FinalityBody.validate (body : FinalityBody) :
    Except ApiError (Option String × Option Reported) := do
  boundedOption "finality.reference" body.reference maxIdLen
  match body.confirmations, body.failed with
  | some _, some _ => throw (.badRequest "finality: confirmations and failed are exclusive")
  | some count, none => return (body.reference, some (.confirmations count))
  | none, some reason =>
      bounded "finality.failed" reason maxTextLen
      return (body.reference, some (.failed reason))
  | none, none => return (body.reference, none)

structure CompensationRequest where
  reference : Option String
deriving DecidableEq

/-- `CompensationRequest::validate`. -/
def CompensationRequest.validate (request : CompensationRequest) : Except ApiError Unit :=
  boundedOption "reference" request.reference maxIdLen

structure ReceiptBody where
  reference : String
  signedBy : Option String
deriving DecidableEq

/-- `ReceiptBody::into_receipt`. -/
def ReceiptBody.intoReceipt (body : ReceiptBody) : Except ApiError DeliveryReceipt := do
  bounded "receipt.reference" body.reference maxIdLen
  match body.signedBy with
  | some keyId =>
      bounded "receipt.signed_by" keyId maxIdLen
      return ⟨body.reference, .merchantSigned keyId⟩
  | none => return ⟨body.reference, .agentReported⟩

/-- `StepState`. -/
inductive StepState where
  | authorized
  | paid
  | settled
  | pending
  | settlementFailed
  | compensated
  | delivered
  | expired
deriving DecidableEq

/-- `From<PaymentState>`. -/
def StepState.ofPayment : PaymentState → StepState
  | .authorized => .authorized
  | .paid => .paid
  | .settled => .settled
  | .settlementFailed => .settlementFailed
  | .compensated => .compensated
  | .delivered => .delivered
  | .expired => .expired

/-- `state_name`: the wire form of a state. -/
def stateName : PaymentState → String
  | .authorized => "authorized"
  | .paid => "paid"
  | .settled => "settled"
  | .settlementFailed => "settlement_failed"
  | .compensated => "compensated"
  | .delivered => "delivered"
  | .expired => "expired"

structure AuthorizedResponse where
  ctx : String
  state : StepState
  mandate : String
  merchant : String
  amount : MoneyBody
  cartHash : String
deriving DecidableEq

def AuthorizedResponse.ofToken (auth : Authorized) : AuthorizedResponse where
  ctx := auth.ctx.val
  state := .authorized
  mandate := auth.mandateId.val
  merchant := auth.merchant.val
  amount := .ofMoney auth.amount
  cartHash := Hash32.toString auth.cartHash

structure PaidResponse where
  ctx : String
  state : StepState
  rail : String
  reference : String
  idempotencyKey : String
deriving DecidableEq

def PaidResponse.ofToken (paid : Paid) : PaidResponse where
  ctx := paid.ctx.val
  state := .paid
  rail := paid.rail
  reference := paid.reference
  idempotencyKey := Hash32.toString paid.idempotencyKey

structure SettlementResponse where
  ctx : String
  state : StepState
  reference : Option String
  reason : Option String
deriving DecidableEq

structure DeliveredResponse where
  ctx : String
  state : StepState
  receipt : String
deriving DecidableEq

def DeliveredResponse.ofToken (delivered : Delivered) : DeliveredResponse where
  ctx := delivered.ctx.val
  state := .delivered
  receipt := delivered.receiptReference

structure ContextResponse where
  ctx : String
  state : StepState
  mandate : String
  cartHash : String
  merchant : String
  amount : MoneyBody
  rail : Option String
  paymentReference : Option String
  idempotencyKey : Option String
  settlementReference : Option String
  failureReason : Option String
  receiptReference : Option String
deriving DecidableEq

/-- `From<Record>`. -/
def ContextResponse.ofRecord (record : Record) : ContextResponse where
  ctx := record.ctx.val
  state := .ofPayment record.state
  mandate := record.mandateId.val
  cartHash := Hash32.toString record.cartHash
  merchant := record.merchant.val
  amount := .ofMoney record.amount
  rail := record.rail
  paymentReference := record.paymentReference
  idempotencyKey := record.idempotencyKey.map Hash32.toString
  settlementReference := record.settlementReference
  failureReason := record.failureReason
  receiptReference := record.receiptReference

/-- `Display for Stage`. -/
def stageName : Stage → String
  | .authorize => "authorize"
  | .payment => "payment"
  | .settlement => "settlement"
  | .compensation => "compensation"
  | .delivery => "delivery"
  | .expiry => "expiry"

structure Refusal where
  code : String
  stage : String
  detail : String
  ctx : String
  recorded : Bool
deriving DecidableEq

/-- `From<Denied>`. -/
def Refusal.ofDenied (denied : Denied) : Refusal where
  code := denied.reason.code
  stage := stageName denied.stage
  detail := denied.detail
  ctx := denied.ctx.val
  recorded := denied.recorded

end MandateLedger.Serve
