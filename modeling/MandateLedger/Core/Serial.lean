import MandateLedger.Core.Texts
import MandateLedger.Data.Json
import MandateLedger.X402.Codec

namespace MandateLedger.Core

open MandateLedger.Data MandateLedger.X402

/-! # Events as JSON

The `Serialize` and `Deserialize` implementations of the types an event carries.  Every
value is read back as it was written, except that a merchant pattern has to be one that
`parse` can return.  Decimals and byte strings are written as text by their libraries;
here a leaf is the value such a text stands for.
-/

inductive Leaf where
  | decimal (value : Decimal)
  | bytes (value : Bytes)

abbrev Tree := Json Leaf

namespace Hash32

/-- `Display for Hash32`. -/
def toString (hash : Hash32) : String := "sha256:" ++ hexEncode hash.bytes

/-- `FromStr for Hash32`: the label may be missing. -/
def parse (text : String) : Option Hash32 :=
  match text.toList with
  | 's' :: 'h' :: 'a' :: '2' :: '5' :: '6' :: ':' :: hex => decodeToSlice 32 hex
  | hex => decodeToSlice 32 hex

@[simp] theorem parse_toString (hash : Hash32) : parse (toString hash) = some hash := by
  have written : (toString hash).toList =
      's' :: 'h' :: 'a' :: '2' :: '5' :: '6' :: ':' :: (hexEncode hash.bytes).toList := by
    rw [toString, String.toList_append]
    rfl
  unfold parse
  rw [written]
  exact decodeToSlice_hexEncode hash

end Hash32

def Hash32.toJson (hash : Hash32) : Tree := .text (Hash32.toString hash)

def Hash32.ofJson : Tree → Option Hash32 := Json.readText Hash32.parse

def StringId.toJson {kind : IdKind} (id : StringId kind) : Tree := .text id.val

def StringId.ofJson (kind : IdKind) : Tree → Option (StringId kind) :=
  Json.readText fun text => (StringId.new kind text).toOption

def Currency.toJson (currency : Currency) : Tree := .text currency.code

def Currency.ofJson : Tree → Option Currency :=
  Json.readText fun text => (Currency.new text).toOption

def MerchantPattern.toJson (pattern : MerchantPattern) : Tree := .text pattern.toString

def MerchantPattern.ofJson : Tree → Option MerchantPattern :=
  Json.readText fun text => (MerchantPattern.parse text).toOption

def Timestamp.toJson (time : Timestamp) : Tree := .number time.secs.toInt

def readInt64 : Tree → Option Int64 := Json.readNumber fun value =>
  if Int64.minValue.toInt ≤ value ∧ value ≤ Int64.maxValue.toInt then some (Int64.ofInt value)
  else none

def readUInt32 : Tree → Option UInt32 := Json.readNumber fun value =>
  if 0 ≤ value ∧ value < UInt32.size then some (UInt32.ofNat value.toNat) else none

def Timestamp.ofJson (json : Tree) : Option Timestamp := (readInt64 json).map Timestamp.mk

def readString : Tree → Option String := Json.readText some

def readDecimal : Tree → Option Decimal := Json.readLeaf fun
  | .decimal value => some value
  | .bytes _ => none

def readBytes : Tree → Option Bytes := Json.readLeaf fun
  | .decimal _ => none
  | .bytes value => some value

/-- `hex` reads arrays of one length only. -/
def readFixed (size : Nat) : Tree → Option (FixedBytes size) := Json.readLeaf fun
  | .decimal _ => none
  | .bytes value => if exact : value.length = size then some ⟨value, exact⟩ else none

section Scalars

@[simp] theorem Hash32.ofJson_toJson (hash : Hash32) :
    Hash32.ofJson (Hash32.toJson hash) = some hash := by simp [ofJson, toJson]

@[simp] theorem StringId.ofJson_toJson {kind : IdKind} (id : StringId kind) :
    StringId.ofJson kind id.toJson = some id := by simp [ofJson, toJson, Except.toOption]

@[simp] theorem Currency.ofJson_toJson (currency : Currency) :
    Currency.ofJson currency.toJson = some currency := by simp [ofJson, toJson, Except.toOption]

theorem MerchantPattern.ofJson_toJson {pattern : MerchantPattern} (parsed : pattern.Parsed) :
    MerchantPattern.ofJson pattern.toJson = some pattern := by
  simp [ofJson, toJson, parsed.parse_toString, Except.toOption]

@[simp] theorem readInt64_number (value : Int64) : readInt64 (.number value.toInt) = some value := by
  have low : Int64.minValue.toInt ≤ value.toInt := value.minValue_le_toInt
  have high : value.toInt ≤ Int64.maxValue.toInt := value.toInt_le
  rw [readInt64, Json.readNumber_number, if_pos ⟨low, high⟩, Int64.ofInt_toInt]

@[simp] theorem readUInt32_number (value : UInt32) :
    readUInt32 (.number value.toNat) = some value := by
  have small : (value.toNat : Int) < UInt32.size := Int.ofNat_lt.mpr value.toNat_lt_size
  rw [readUInt32, Json.readNumber_number, if_pos ⟨Int.natCast_nonneg _, small⟩,
    Int.toNat_natCast, UInt32.ofNat_toNat]

@[simp] theorem Timestamp.ofJson_toJson (time : Timestamp) :
    Timestamp.ofJson time.toJson = some time := by simp [ofJson, toJson]

@[simp] theorem readString_text (text : String) : readString (.text text) = some text := rfl

@[simp] theorem readDecimal_leaf (value : Decimal) :
    readDecimal (.leaf (.decimal value)) = some value := rfl

@[simp] theorem readBytes_leaf (value : Bytes) : readBytes (.leaf (.bytes value)) = some value := rfl

@[simp] theorem readFixed_leaf {size : Nat} (value : FixedBytes size) :
    readFixed size (.leaf (.bytes value.bytes)) = some value := dif_pos value.length_eq

end Scalars

def AttestationLevel.toJson : AttestationLevel → Tree
  | .agentReported => .text "agent_reported"
  | .merchantSigned => .text "merchant_signed"

def AttestationLevel.ofJson : Tree → Option AttestationLevel := Json.readText fun
  | "agent_reported" => some .agentReported
  | "merchant_signed" => some .merchantSigned
  | _ => none

@[simp] theorem AttestationLevel.ofJson_toJson (level : AttestationLevel) :
    AttestationLevel.ofJson level.toJson = some level := by cases level <;> rfl

def Stage.toJson : Stage → Tree
  | .authorize => .text "authorize"
  | .payment => .text "payment"
  | .settlement => .text "settlement"
  | .compensation => .text "compensation"
  | .delivery => .text "delivery"
  | .expiry => .text "expiry"

def Stage.ofJson : Tree → Option Stage := Json.readText fun
  | "authorize" => some .authorize
  | "payment" => some .payment
  | "settlement" => some .settlement
  | "compensation" => some .compensation
  | "delivery" => some .delivery
  | "expiry" => some .expiry
  | _ => none

@[simp] theorem Stage.ofJson_toJson (stage : Stage) : Stage.ofJson stage.toJson = some stage := by
  cases stage <;> rfl

namespace DenyReason

/-- `DenyReason::code`. -/
def code : DenyReason → String
  | .mandateSignatureInvalid => "MANDATE_SIGNATURE_INVALID"
  | .mandateSignerUntrusted => "MANDATE_SIGNER_UNTRUSTED"
  | .mandateNotYetValid => "MANDATE_NOT_YET_VALID"
  | .mandateExpired => "MANDATE_EXPIRED"
  | .mandateRevoked => "MANDATE_REVOKED"
  | .attestationInsufficient => "ATTESTATION_INSUFFICIENT"
  | .scopeMerchantMismatch => "SCOPE_MERCHANT_MISMATCH"
  | .scopeCategoryMismatch => "SCOPE_CATEGORY_MISMATCH"
  | .unverifiableScope => "UNVERIFIABLE_SCOPE"
  | .currencyMismatch => "CURRENCY_MISMATCH"
  | .amountInvalid => "AMOUNT_INVALID"
  | .scopePerTxnExceeded => "SCOPE_PER_TXN_EXCEEDED"
  | .scopeTotalExceeded => "SCOPE_TOTAL_EXCEEDED"
  | .velocityExceeded => "VELOCITY_EXCEEDED"
  | .invalidState => "INVALID_STATE"
  | .contextNotFound => "CONTEXT_NOT_FOUND"
  | .contextMismatch => "CONTEXT_MISMATCH"
  | .proofInvalid => "PROOF_INVALID"
  | .amountMismatch => "AMOUNT_MISMATCH"
  | .unboundProof => "UNBOUND_PROOF"
  | .cartBindingMismatch => "CART_BINDING_MISMATCH"
  | .contextBindingMismatch => "CONTEXT_BINDING_MISMATCH"
  | .merchantBindingMismatch => "MERCHANT_BINDING_MISMATCH"
  | .nonceAlreadyUsed => "NONCE_ALREADY_USED"
  | .finalityInvalid => "FINALITY_INVALID"
  | .railMismatch => "RAIL_MISMATCH"

/-- `DenyReason::from_code`. -/
def fromCode : String → Option DenyReason
  | "MANDATE_SIGNATURE_INVALID" => some .mandateSignatureInvalid
  | "MANDATE_SIGNER_UNTRUSTED" => some .mandateSignerUntrusted
  | "MANDATE_NOT_YET_VALID" => some .mandateNotYetValid
  | "MANDATE_EXPIRED" => some .mandateExpired
  | "MANDATE_REVOKED" => some .mandateRevoked
  | "ATTESTATION_INSUFFICIENT" => some .attestationInsufficient
  | "SCOPE_MERCHANT_MISMATCH" => some .scopeMerchantMismatch
  | "SCOPE_CATEGORY_MISMATCH" => some .scopeCategoryMismatch
  | "UNVERIFIABLE_SCOPE" => some .unverifiableScope
  | "CURRENCY_MISMATCH" => some .currencyMismatch
  | "AMOUNT_INVALID" => some .amountInvalid
  | "SCOPE_PER_TXN_EXCEEDED" => some .scopePerTxnExceeded
  | "SCOPE_TOTAL_EXCEEDED" => some .scopeTotalExceeded
  | "VELOCITY_EXCEEDED" => some .velocityExceeded
  | "INVALID_STATE" => some .invalidState
  | "CONTEXT_NOT_FOUND" => some .contextNotFound
  | "CONTEXT_MISMATCH" => some .contextMismatch
  | "PROOF_INVALID" => some .proofInvalid
  | "AMOUNT_MISMATCH" => some .amountMismatch
  | "UNBOUND_PROOF" => some .unboundProof
  | "CART_BINDING_MISMATCH" => some .cartBindingMismatch
  | "CONTEXT_BINDING_MISMATCH" => some .contextBindingMismatch
  | "MERCHANT_BINDING_MISMATCH" => some .merchantBindingMismatch
  | "NONCE_ALREADY_USED" => some .nonceAlreadyUsed
  | "FINALITY_INVALID" => some .finalityInvalid
  | "RAIL_MISMATCH" => some .railMismatch
  | _ => none

@[simp] theorem fromCode_code (reason : DenyReason) : fromCode reason.code = some reason := by
  cases reason <;> rfl

def toJson (reason : DenyReason) : Tree := .text reason.code

def ofJson : Tree → Option DenyReason := Json.readText fromCode

@[simp] theorem ofJson_toJson (reason : DenyReason) : ofJson reason.toJson = some reason := by
  simp [ofJson, toJson]

end DenyReason

def Money.toJson (money : Money) : Tree := .object
  [("amount", .leaf (.decimal money.amount)), ("currency", money.currency.toJson)]

def Money.ofJson (json : Tree) : Option Money := do
  let amount ← json.get "amount" readDecimal
  let currency ← json.get "currency" Currency.ofJson
  return ⟨amount, currency⟩

@[simp] theorem Money.ofJson_toJson (money : Money) : Money.ofJson money.toJson = some money := by
  simp [ofJson, toJson, List.lookup_cons]

def ScopeClaims.toJson (claims : ScopeClaims) : Tree := .object
  [("merchant", claims.merchant.toJson), ("total", claims.total.toJson),
    ("category", Json.ofOption StringId.toJson claims.category),
    ("line_count", Json.ofOption (fun count => .number count.toNat) claims.lineCount)]

def ScopeClaims.ofJson (json : Tree) : Option ScopeClaims := do
  let merchant ← json.get "merchant" (StringId.ofJson .merchant)
  let total ← json.get "total" Money.ofJson
  let category ← json.get "category" (Json.readOption (StringId.ofJson .category))
  let lineCount ← json.get "line_count" (Json.readOption readUInt32)
  return ⟨merchant, total, category, lineCount⟩

@[simp] theorem ScopeClaims.ofJson_toJson (claims : ScopeClaims) :
    ScopeClaims.ofJson claims.toJson = some claims := by
  have category := Json.readOption_ofOption claims.category
    (fun item _ => StringId.ofJson_toJson item) (fun item _ => by simp [StringId.toJson])
  have lineCount := Json.readOption_ofOption claims.lineCount
    (fun item _ => readUInt32_number item) (fun item _ => by simp)
  simp [ofJson, toJson, List.lookup_cons, category, lineCount]

def Attestation.toJson : Attestation → Tree
  | .merchantSigned keyId => .object [("kind", .text "merchant_signed"), ("key_id", .text keyId)]
  | .agentReported => .object [("kind", .text "agent_reported")]

def Attestation.ofJson (json : Tree) : Option Attestation := do
  match ← json.get "kind" readString with
  | "merchant_signed" => return .merchantSigned (← json.get "key_id" readString)
  | "agent_reported" => return .agentReported
  | _ => none

@[simp] theorem Attestation.ofJson_toJson (attestation : Attestation) :
    Attestation.ofJson attestation.toJson = some attestation := by
  cases attestation <;> simp [ofJson, toJson, List.lookup_cons]

def Velocity.toJson (velocity : Velocity) : Tree := .object
  [("max_count", .number velocity.maxCount.toNat), ("window_secs", .number velocity.windowSecs.toInt)]

def Velocity.ofJson (json : Tree) : Option Velocity := do
  let maxCount ← json.get "max_count" readUInt32
  let windowSecs ← json.get "window_secs" readInt64
  return ⟨maxCount, windowSecs⟩

@[simp] theorem Velocity.ofJson_toJson (velocity : Velocity) :
    Velocity.ofJson velocity.toJson = some velocity := by
  simp [ofJson, toJson, List.lookup_cons]

def Scope.toJson (scope : Scope) : Tree := .object
  [("merchants", Json.ofList MerchantPattern.toJson scope.merchants),
    ("categories", Json.ofOption (Json.ofList StringId.toJson) scope.categories),
    ("currency", scope.currency.toJson),
    ("max_per_txn", Json.ofOption Money.toJson scope.maxPerTxn),
    ("max_total", Json.ofOption Money.toJson scope.maxTotal),
    ("valid_from", scope.validFrom.toJson), ("valid_until", scope.validUntil.toJson),
    ("velocity", Json.ofOption Velocity.toJson scope.velocity),
    ("min_attestation", scope.minAttestation.toJson)]

def Scope.ofJson (json : Tree) : Option Scope := do
  let merchants ← json.get "merchants" (Json.readList MerchantPattern.ofJson)
  let categories ← json.get "categories"
    (Json.readOption (Json.readList (StringId.ofJson .category)))
  let currency ← json.get "currency" Currency.ofJson
  let maxPerTxn ← json.get "max_per_txn" (Json.readOption Money.ofJson)
  let maxTotal ← json.get "max_total" (Json.readOption Money.ofJson)
  let validFrom ← json.get "valid_from" Timestamp.ofJson
  let validUntil ← json.get "valid_until" Timestamp.ofJson
  let velocity ← json.get "velocity" (Json.readOption Velocity.ofJson)
  let minAttestation ← json.get "min_attestation" AttestationLevel.ofJson
  return ⟨merchants, categories, currency, maxPerTxn, maxTotal, validFrom, validUntil, velocity,
    minAttestation⟩

/-- Every merchant pattern came from `parse`. -/
def Scope.Parsed (scope : Scope) : Prop := ∀ pattern ∈ scope.merchants, pattern.Parsed

theorem Scope.ofJson_toJson {scope : Scope} (parsed : scope.Parsed) :
    Scope.ofJson scope.toJson = some scope := by
  have merchants := Json.readList_ofList scope.merchants
    fun pattern listed => MerchantPattern.ofJson_toJson (parsed pattern listed)
  have categories := Json.readOption_ofOption scope.categories
    (fun items _ => Json.readList_ofList items fun item _ => StringId.ofJson_toJson item)
    (fun items _ => by simp [Json.ofList])
  have caps : ∀ cap : Option Money,
      Json.readOption Money.ofJson (Json.ofOption Money.toJson cap) = some cap := fun cap =>
    Json.readOption_ofOption cap (fun item _ => Money.ofJson_toJson item)
      (fun item _ => by simp [Money.toJson])
  have velocity := Json.readOption_ofOption scope.velocity
    (fun item _ => Velocity.ofJson_toJson item) (fun item _ => by simp [Velocity.toJson])
  simp [ofJson, toJson, List.lookup_cons, merchants, categories, caps, velocity]

def MandateBody.toJson (body : MandateBody) : Tree := .object
  [("id", body.id.toJson), ("principal", body.principal.toJson), ("agent", body.agent.toJson),
    ("scope", body.scope.toJson), ("issued_at", body.issuedAt.toJson),
    ("parent", Json.ofOption StringId.toJson body.parent)]

def MandateBody.ofJson (json : Tree) : Option MandateBody := do
  let id ← json.get "id" (StringId.ofJson .mandate)
  let principal ← json.get "principal" (StringId.ofJson .principal)
  let agent ← json.get "agent" (StringId.ofJson .agent)
  let scope ← json.get "scope" Scope.ofJson
  let issuedAt ← json.get "issued_at" Timestamp.ofJson
  let parent ← json.get "parent" (Json.readOption (StringId.ofJson .mandate))
  return ⟨id, principal, agent, scope, issuedAt, parent⟩

def Mandate.toJson (mandate : Mandate) : Tree := .object
  [("body", mandate.body.toJson), ("signer", .leaf (.bytes mandate.signer.bytes)),
    ("signature", .leaf (.bytes mandate.signature.bytes))]

def Mandate.ofJson (json : Tree) : Option Mandate := do
  let body ← json.get "body" MandateBody.ofJson
  let signer ← json.get "signer" (readFixed 32)
  let signature ← json.get "signature" (readFixed 64)
  return ⟨body, signer, signature⟩

theorem Mandate.ofJson_toJson {mandate : Mandate} (parsed : mandate.body.scope.Parsed) :
    Mandate.ofJson mandate.toJson = some mandate := by
  have scope := Scope.ofJson_toJson parsed
  have parent := Json.readOption_ofOption mandate.body.parent
    (fun item _ => StringId.ofJson_toJson item) (fun item _ => by simp [StringId.toJson])
  have body : MandateBody.ofJson mandate.body.toJson = some mandate.body := by
    simp [MandateBody.ofJson, MandateBody.toJson, List.lookup_cons, scope, parent]
  simp [ofJson, toJson, List.lookup_cons, body]

def CartSnapshot.toJson (cart : CartSnapshot) : Tree := .object
  [("hash", Hash32.toJson cart.hash), ("claims", cart.claims.toJson),
    ("attestation", cart.attestation.toJson), ("raw", .leaf (.bytes cart.raw))]

def CartSnapshot.ofJson (json : Tree) : Option CartSnapshot := do
  let hash ← json.get "hash" Hash32.ofJson
  let claims ← json.get "claims" ScopeClaims.ofJson
  let attestation ← json.get "attestation" Attestation.ofJson
  let raw ← json.get "raw" readBytes
  return ⟨hash, claims, attestation, raw⟩

@[simp] theorem CartSnapshot.ofJson_toJson (cart : CartSnapshot) :
    CartSnapshot.ofJson cart.toJson = some cart := by
  simp [ofJson, toJson, List.lookup_cons]

def DeliveryReceipt.toJson (receipt : DeliveryReceipt) : Tree := .object
  [("reference", .text receipt.reference), ("attestation", receipt.attestation.toJson)]

def DeliveryReceipt.ofJson (json : Tree) : Option DeliveryReceipt := do
  let reference ← json.get "reference" readString
  let attestation ← json.get "attestation" Attestation.ofJson
  return ⟨reference, attestation⟩

@[simp] theorem DeliveryReceipt.ofJson_toJson (receipt : DeliveryReceipt) :
    DeliveryReceipt.ofJson receipt.toJson = some receipt := by
  simp [ofJson, toJson, List.lookup_cons]

namespace EventBody

def tag : EventBody → String
  | .authorized .. => "authorized"
  | .denied .. => "denied"
  | .paid .. => "paid"
  | .settled .. => "settled"
  | .settlementFailed .. => "settlement_failed"
  | .compensated .. => "compensated"
  | .delivered .. => "delivered"
  | .expired => "expired"

def fields : EventBody → List (String × Tree)
  | .authorized mandate cart requestKey =>
      [("mandate", mandate.toJson), ("cart", cart.toJson), ("request_key", .text requestKey)]
  | .denied stage reason detail =>
      [("stage", stage.toJson), ("reason", reason.toJson), ("detail", .text detail)]
  | .paid rail reference nonce amount idempotencyKey =>
      [("rail", .text rail), ("reference", .text reference), ("nonce", .text nonce),
        ("amount", amount.toJson), ("idempotency_key", Hash32.toJson idempotencyKey)]
  | .settled rail reference => [("rail", .text rail), ("reference", .text reference)]
  | .settlementFailed rail reason => [("rail", .text rail), ("reason", .text reason)]
  | .compensated reference => [("reference", Json.ofOption .text reference)]
  | .delivered receipt => [("receipt", receipt.toJson)]
  | .expired => []

def toJson (body : EventBody) : Tree := .object (("type", .text body.tag) :: body.fields)

def ofJson (json : Tree) : Option EventBody := do
  match ← json.get "type" readString with
  | "authorized" =>
      let mandate ← json.get "mandate" Mandate.ofJson
      let cart ← json.get "cart" CartSnapshot.ofJson
      let requestKey ← json.get "request_key" readString
      return .authorized mandate cart requestKey
  | "denied" =>
      let stage ← json.get "stage" Stage.ofJson
      let reason ← json.get "reason" DenyReason.ofJson
      let detail ← json.get "detail" readString
      return .denied stage reason detail
  | "paid" =>
      let rail ← json.get "rail" readString
      let reference ← json.get "reference" readString
      let nonce ← json.get "nonce" readString
      let amount ← json.get "amount" Money.ofJson
      let idempotencyKey ← json.get "idempotency_key" Hash32.ofJson
      return .paid rail reference nonce amount idempotencyKey
  | "settled" =>
      let rail ← json.get "rail" readString
      let reference ← json.get "reference" readString
      return .settled rail reference
  | "settlement_failed" =>
      let rail ← json.get "rail" readString
      let reason ← json.get "reason" readString
      return .settlementFailed rail reason
  | "compensated" => return .compensated (← json.get "reference" (Json.readOption readString))
  | "delivered" => return .delivered (← json.get "receipt" DeliveryReceipt.ofJson)
  | "expired" => return .expired
  | _ => none

/-- Every merchant pattern of the body's mandate came from `parse`. -/
def Parsed (body : EventBody) : Prop :=
  ∀ mandate, body.mandate? = some mandate → mandate.body.scope.Parsed

theorem ofJson_toJson {body : EventBody} (parsed : body.Parsed) :
    EventBody.ofJson body.toJson = some body := by
  cases body with
  | authorized mandate cart requestKey =>
      have signed := Mandate.ofJson_toJson (parsed mandate rfl)
      simp [ofJson, toJson, tag, fields, List.lookup_cons, signed]
  | compensated reference =>
      have kept := Json.readOption_ofOption reference
        (fun item _ => readString_text item) (fun item _ => by simp)
      simp [ofJson, toJson, tag, fields, List.lookup_cons, kept]
  | _ => simp [ofJson, toJson, tag, fields, List.lookup_cons]

end EventBody

end MandateLedger.Core
