import MandateLedger.Core.Event
import MandateLedger.Data.JsonValue
import MandateLedger.Data.Table

namespace MandateLedger.Adapters

open MandateLedger.Core MandateLedger.Data

/-! # The native cart

`native.rs`: a plain JSON cart with an optional merchant signature.  The document is
parsed into `NativeCart`, and what is hashed is the canonical form of that structure, not
of the bytes that were sent.
-/

structure NativeAttestation where
  keyId : String
  signature : FixedBytes 64

structure NativeCart where
  merchant : String
  total : Money
  category : Option String
  items : List JsonValue
  attestation : Option NativeAttestation

structure NativeLibraries where
  fromSlice : Bytes → Except String NativeCart
  canonicalJson : JsonValue → Except CanonicalizeError Bytes
  verifyStrict : SignerKey → Bytes → FixedBytes 64 → Bool

/-- `AdapterError`, as far as this adapter can fail. -/
inductive NativeError where
  | malformed (what : String)
  | signatureInvalid (what : String)
  | id (error : IdError)
  | canonicalize (error : CanonicalizeError)
deriving DecidableEq

/-- `Display for AdapterError`. -/
def NativeError.toString : NativeError → String
  | .malformed what => "malformed payload: " ++ what
  | .signatureInvalid what => "signature invalid: " ++ what
  | .id error => error.toString
  | .canonicalize error => error.toString

def moneyJson (money : Money) : JsonValue :=
  .object [("amount", .string money.amount.toString), ("currency", .string money.currency.code)]

def NativeAttestation.toJson (attestation : NativeAttestation) : JsonValue :=
  .object [("key_id", .string attestation.keyId),
    ("signature", .string (hexEncode attestation.signature.bytes))]

namespace NativeCart

/-- A category or an attestation that is missing is not written. -/
def fields (cart : NativeCart) : List (String × JsonValue) :=
  [("merchant", .string cart.merchant), ("total", moneyJson cart.total)] ++
    (cart.category.map fun category => ("category", .string category)).toList ++
    [("items", .array cart.items)] ++
    (cart.attestation.map fun attestation => ("attestation", attestation.toJson)).toList

def toJson (cart : NativeCart) : JsonValue := .object cart.fields

variable (libraries : NativeLibraries)

/-- What the merchant signs: everything but the attestation. -/
def signingBytes (cart : NativeCart) : Except NativeError Bytes :=
  (libraries.canonicalJson { cart with attestation := none }.toJson).mapError .canonicalize

/-- What the engine hashes. -/
def canonicalBytes (cart : NativeCart) : Except NativeError Bytes :=
  (libraries.canonicalJson cart.toJson).mapError .canonicalize

end NativeCart

structure NativeCartAdapter where
  merchantKeys : Table String SignerKey

namespace NativeCartAdapter

def new : NativeCartAdapter := ⟨∅⟩

variable (libraries : NativeLibraries) (adapter : NativeCartAdapter)

/-- Who vouched for the cart.  A signature that does not verify is refused, not ignored. -/
def attest (cart : NativeCart) : Except NativeError Attestation :=
  match cart.attestation with
  | none => return .agentReported
  | some attestation =>
      match adapter.merchantKeys.lookup attestation.keyId with
      | none => .error (.signatureInvalid ("unknown merchant key `" ++ attestation.keyId ++ "`"))
      | some key => do
          let bytes ← cart.signingBytes libraries
          ensure (libraries.verifyStrict key bytes attestation.signature = true)
            (.signatureInvalid ("bad signature for key `" ++ attestation.keyId ++ "`"))
          return .merchantSigned attestation.keyId

/-- `u32::try_from(cart.items.len()).ok()`. -/
def lineCount (cart : NativeCart) : Option UInt32 :=
  if cart.items.length < UInt32.size then some (UInt32.ofNat cart.items.length) else none

/-- `NativeCartAdapter::normalize_cart`. -/
def normalizeCart (cart : NativeCart) : Except NativeError Cart := do
  let merchant ← (StringId.new .merchant cart.merchant).mapError .id
  let attestation ← adapter.attest libraries cart
  let category ← cart.category.mapM fun text => (StringId.new .category text).mapError .id
  let raw ← cart.canonicalBytes libraries
  return ⟨⟨merchant, cart.total, category, lineCount cart⟩, attestation, raw⟩

/-- `NativeCartAdapter::normalize`. -/
def normalize (raw : Bytes) : Except NativeError Cart := do
  let cart ← (libraries.fromSlice raw).mapError .malformed
  adapter.normalizeCart libraries cart

end NativeCartAdapter

namespace NativeCart

variable {Double : Type} {double : String → Double} {cart : NativeCart}

theorem lookup_total : cart.fields.lookup "total" = some (moneyJson cart.total) := rfl

theorem lookup_category : cart.fields.lookup "category" = cart.category.map .string := by
  unfold fields
  cases cart.category <;> cases cart.attestation <;> rfl

theorem lookup_items : cart.fields.lookup "items" = some (.array cart.items) := by
  unfold fields
  cases cart.category <;> rfl

theorem lookup_attestation :
    cart.fields.lookup "attestation" = cart.attestation.map NativeAttestation.toJson := by
  unfold fields
  cases cart.category <;> cases cart.attestation <;> rfl

/-- The parts of two documents that decide what their carts claim. -/
structure ClaimsAlike (first second : NativeCart) : Prop where
  merchant : first.merchant = second.merchant
  total : first.total = second.total
  category : first.category = second.category
  items : first.items.length = second.items.length
  keyId : first.attestation.map NativeAttestation.keyId =
    second.attestation.map NativeAttestation.keyId

theorem money_eq_of_alike {first second : Money}
    (alike : JsonValue.Alike double (moneyJson first) (moneyJson second)) : first = second := by
  have amounts : first.amount.toString = second.amount.toString :=
    Option.some.inj (alike.object_text "amount")
  have currencies : first.currency.code = second.currency.code :=
    Option.some.inj (alike.object_text "currency")
  have amount := Decimal.toString_injective amounts
  obtain ⟨_, currency, _⟩ := first
  obtain ⟨_, other, _⟩ := second
  cases amount
  cases currencies
  rfl

theorem keyId_eq_of_alike {first second : Option NativeAttestation}
    (alike : Option.Rel (JsonValue.Alike double) (first.map NativeAttestation.toJson)
      (second.map NativeAttestation.toJson)) :
    first.map NativeAttestation.keyId = second.map NativeAttestation.keyId := by
  cases first with
  | none =>
      cases second with
      | none => rfl
      | some other => cases alike
  | some attestation =>
      cases second with
      | none => cases alike
      | some other =>
          rw [Option.map_some, Option.map_some, Option.rel_some_some] at alike
          exact alike.object_text "key_id"

theorem ClaimsAlike.of_alike {first second : NativeCart}
    (alike : JsonValue.Alike double first.toJson second.toJson) : ClaimsAlike first second where
  merchant := Option.some.inj (alike.object_text "merchant")
  total := by
    have totals := alike.object_lookup "total"
    rw [lookup_total, lookup_total, Option.rel_some_some] at totals
    exact money_eq_of_alike totals
  category := by
    have categories := alike.object_text "category"
    rw [lookup_category, lookup_category, Option.bind_map, Option.bind_map] at categories
    simpa [Function.comp_def, JsonValue.asStr] using categories
  items := by
    have items := alike.object_lookup "items"
    rw [lookup_items, lookup_items, Option.rel_some_some] at items
    exact items.array_length
  keyId := by
    have attestations := alike.object_lookup "attestation"
    rw [lookup_attestation, lookup_attestation] at attestations
    exact keyId_eq_of_alike attestations

end NativeCart

namespace NativeCartAdapter

variable {libraries : NativeLibraries} {adapter : NativeCartAdapter} {Double : Type}
  {double : String → Double}

/-- A cart is attested by the key it names, or by nobody. -/
theorem attest_eq_ok {cart : NativeCart} {attestation : Attestation}
    (attested : adapter.attest libraries cart = .ok attestation) :
    attestation = ((cart.attestation.map NativeAttestation.keyId).map
      Attestation.merchantSigned).getD .agentReported := by
  unfold attest at attested
  cases signed : cart.attestation with
  | none =>
      rw [signed] at attested
      cases attested
      rfl
  | some given =>
      simp only [signed] at attested
      cases known : adapter.merchantKeys.lookup given.keyId with
      | none =>
          rw [known] at attested
          cases attested
      | some key =>
          rw [known] at attested
          obtain ⟨bytes, -, attested⟩ := bind_eq_ok.mp attested
          obtain ⟨-, attested⟩ := check_bind_eq_ok.mp attested
          cases attested
          rfl

theorem normalizeCart_eq_ok {document : NativeCart} {cart : Cart}
    (normalized : adapter.normalizeCart libraries document = .ok cart) :
    ∃ merchant attestation category raw,
      StringId.new .merchant document.merchant = .ok merchant ∧
      adapter.attest libraries document = .ok attestation ∧
      (document.category.mapM fun text => (StringId.new .category text).mapError NativeError.id) =
        .ok category ∧
      libraries.canonicalJson document.toJson = .ok raw ∧
      cart = ⟨⟨merchant, document.total, category, lineCount document⟩, attestation, raw⟩ := by
  obtain ⟨merchant, named, rest⟩ := bind_eq_ok.mp normalized
  obtain ⟨attestation, attested, rest⟩ := bind_eq_ok.mp rest
  obtain ⟨category, classified, rest⟩ := bind_eq_ok.mp rest
  obtain ⟨raw, canonical, rest⟩ := bind_eq_ok.mp rest
  cases rest
  exact ⟨merchant, attestation, category, raw, mapError_eq_ok.mp named, attested, classified,
    mapError_eq_ok.mp canonical, rfl⟩

/-- Documents with one canonical form make the same claims. -/
theorem normalize_claims_eq
    (canonical : ∀ first second bytes, libraries.canonicalJson first = .ok bytes →
      libraries.canonicalJson second = .ok bytes → JsonValue.Alike double first second)
    {wire again : Bytes} {cart basket : Cart}
    (normalized : adapter.normalize libraries wire = .ok cart)
    (renormalized : adapter.normalize libraries again = .ok basket) (same : cart.raw = basket.raw) :
    cart.claims = basket.claims ∧ cart.attestation = basket.attestation := by
  obtain ⟨document, -, made⟩ := bind_eq_ok.mp normalized
  obtain ⟨other, -, remade⟩ := bind_eq_ok.mp renormalized
  obtain ⟨merchant, attestation, category, raw, named, attested, classified, written, rfl⟩ :=
    normalizeCart_eq_ok made
  obtain ⟨merchant', attestation', category', raw', named', attested', classified', written', rfl⟩ :=
    normalizeCart_eq_ok remade
  cases same
  have alike := NativeCart.ClaimsAlike.of_alike (canonical _ _ _ written written')
  have merchants : merchant = merchant' :=
    Except.ok.inj (named.symm.trans (alike.merchant ▸ named'))
  have categories : category = category' :=
    Except.ok.inj (classified.symm.trans (alike.category ▸ classified'))
  have lines : lineCount document = lineCount other := by
    rw [lineCount, lineCount, alike.items]
  have attestations : attestation = attestation' := by
    rw [attest_eq_ok attested, attest_eq_ok attested', alike.keyId]
  rw [merchants, categories, lines, attestations, alike.total]
  exact ⟨rfl, rfl⟩

end NativeCartAdapter

end MandateLedger.Adapters
