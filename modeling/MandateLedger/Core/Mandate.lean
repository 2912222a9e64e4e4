import MandateLedger.Core.Money
import MandateLedger.Data.Fallible
import Mathlib.Data.Finmap

namespace MandateLedger.Core

open MandateLedger.Data

structure ScopeClaims where
  merchant : MerchantId
  total : Money
  category : Option Category
  lineCount : Option UInt32
deriving DecidableEq, BEq

inductive AttestationLevel where
  | agentReported
  | merchantSigned
deriving DecidableEq

namespace AttestationLevel

/-- The discriminant, which derives `Ord`: weakest to strongest. -/
def rank : AttestationLevel → Nat
  | .agentReported => 0
  | .merchantSigned => 1

/-- `Debug`. -/
def debug : AttestationLevel → String
  | .agentReported => "AgentReported"
  | .merchantSigned => "MerchantSigned"

end AttestationLevel

inductive Attestation where
  | merchantSigned (keyId : String)
  | agentReported
deriving DecidableEq

def Attestation.level : Attestation → AttestationLevel
  | .merchantSigned _ => .merchantSigned
  | .agentReported => .agentReported

/-- A normalized cart.  Its `hash` field is private in the source and always
`Hash32::of` the raw bytes, so it is computed here. -/
structure Cart where
  claims : ScopeClaims
  attestation : Attestation
  raw : Bytes
deriving DecidableEq

def Cart.hash (sha256 : Bytes → Hash32) (cart : Cart) : Hash32 := sha256 cart.raw

inductive MerchantPattern where
  | any
  | exact (merchant : String)
  | suffix (ending : String)
deriving DecidableEq

inductive DenyReason where
  | mandateSignatureInvalid
  | mandateSignerUntrusted
  | mandateNotYetValid
  | mandateExpired
  | mandateRevoked
  | attestationInsufficient
  | scopeMerchantMismatch
  | scopeCategoryMismatch
  | unverifiableScope
  | currencyMismatch
  | amountInvalid
  | scopePerTxnExceeded
  | scopeTotalExceeded
  | velocityExceeded
  | invalidState
  | contextNotFound
  | contextMismatch
  | proofInvalid
  | amountMismatch
  | unboundProof
  | cartBindingMismatch
  | contextBindingMismatch
  | merchantBindingMismatch
  | nonceAlreadyUsed
  | finalityInvalid
  | railMismatch
deriving DecidableEq

/-- `CanonicalizeError`: what the JSON canonicalizer reported. -/
structure CanonicalizeError where
  message : String
deriving DecidableEq

def CanonicalizeError.toString (error : CanonicalizeError) : String :=
  "canonicalization failed: " ++ error.message

inductive MandateError where
  | invalidMerchantPattern (pattern : String)
  | invalidScope (message : String)
  | notSubset (id : MandateId)
  | badSignerKey
  | signatureInvalid
  | canonicalize (error : CanonicalizeError)
deriving DecidableEq

def MandateError.toString : MandateError → String
  | .invalidMerchantPattern pattern => "invalid merchant pattern `" ++ pattern ++ "`"
  | .invalidScope message => "invalid scope: " ++ message
  | .notSubset id => "scope of `" ++ id.val ++ "` is not a subset of its parent"
  | .badSignerKey => "signer is not a valid Ed25519 public key"
  | .signatureInvalid => "signature invalid"
  | .canonicalize error => error.toString

/-- Rust's `str::ends_with`. -/
def endsWith (text ending : String) : Bool := ending.toList.isSuffixOf text.toList

namespace MerchantPattern

/-- `MerchantPattern::parse`.  Trimming comes before lower-casing here and
after it in `lowercase_trimmed`. -/
def parse (pattern : String) : Except MandateError MerchantPattern :=
  let text := (trimStart (trimEnd pattern.toList)).map Char.toLower
  let invalid := .error (.invalidMerchantPattern pattern)
  if text = [] then invalid
  else if text = ['*'] then .ok .any
  else
    match text with
    | '*' :: '.' :: rest =>
        if rest = [] ∨ '*' ∈ rest then invalid
        else .ok (.suffix (String.ofList ('.' :: rest)))
    | _ => if '*' ∈ text then invalid else .ok (.exact (String.ofList text))

/-- `MerchantPattern::matches`. -/
def admitsMerchant (pattern : MerchantPattern) (merchant : MerchantId) : Bool :=
  match pattern with
  | .any => true
  | .exact name => name == merchant.val
  | .suffix ending =>
      ending.utf8ByteSize < merchant.val.utf8ByteSize && endsWith merchant.val ending

def isSubsetOf : MerchantPattern → MerchantPattern → Bool
  | _, .any => true
  | .any, _ | .suffix _, .exact _ => false
  | .exact left, .exact right => left == right
  | .exact name, .suffix ending =>
      ending.utf8ByteSize < name.utf8ByteSize && endsWith name ending
  | .suffix left, .suffix right => endsWith left right

end MerchantPattern

structure Velocity where
  maxCount : UInt32
  windowSecs : Int64
deriving DecidableEq

/-- What a mandate permits.  Equality of scopes, as the engine tests it, is
equality of the fields with amounts compared as numbers. -/
structure Scope where
  merchants : List MerchantPattern
  categories : Option (List Category)
  currency : Currency
  maxPerTxn : Option Money
  maxTotal : Option Money
  validFrom : Timestamp
  validUntil : Timestamp
  velocity : Option Velocity
  minAttestation : AttestationLevel
deriving DecidableEq, BEq

namespace Scope

/-- The checks `validate` makes on each of the two caps. -/
def validateCap (scope : Scope) (name : String) : Option Money → Except MandateError Unit
  | none => .ok ()
  | some cap => do
      ensure (cap.currency = scope.currency)
        (.invalidScope (name ++ " currency differs from scope currency"))
      ensure (cap.isNegative = false) (.invalidScope (name ++ " is negative"))

def validateVelocity : Option Velocity → Except MandateError Unit
  | none => .ok ()
  | some velocity =>
      ensure (¬ (velocity.maxCount = 0 ∨ velocity.windowSecs ≤ 0))
        (.invalidScope "velocity must have max_count > 0 and window_secs > 0")

/-- `Scope::validate`. -/
def validate (scope : Scope) : Except MandateError Unit := do
  ensure (¬ scope.validUntil < scope.validFrom) (.invalidScope "valid_from is after valid_until")
  scope.validateCap "max_per_txn" scope.maxPerTxn
  scope.validateCap "max_total" scope.maxTotal
  validateVelocity scope.velocity

abbrev Refusal := DenyReason × String

def admitsInstant (scope : Scope) (now : Timestamp) : Except Refusal Unit := do
  ensure (¬ now < scope.validFrom)
    (.mandateNotYetValid,
      s!"valid from {scope.validFrom.secs.toInt}, now {now.secs.toInt}")
  ensure (¬ scope.validUntil < now)
    (.mandateExpired, s!"valid until {scope.validUntil.secs.toInt}, now {now.secs.toInt}")

def admitsAttestation (scope : Scope) (attestation : Attestation) : Except Refusal Unit :=
  ensure (¬ attestation.level.rank < scope.minAttestation.rank)
    (.attestationInsufficient,
      s!"cart is {attestation.level.debug}, mandate requires {scope.minAttestation.debug}")

def admitsMerchant (scope : Scope) (claims : ScopeClaims) : Except Refusal Unit :=
  ensure (scope.merchants.any (·.admitsMerchant claims.merchant) = true)
    (.scopeMerchantMismatch, "merchant `" ++ claims.merchant.val ++ "` not in mandate scope")

def admitsCategory (scope : Scope) (claims : ScopeClaims) : Except Refusal Unit :=
  match scope.categories, claims.category with
  | none, _ => .ok ()
  | some _, none =>
      .error (.unverifiableScope, "mandate constrains category but cart carries none")
  | some allowed, some category =>
      ensure (category ∈ allowed)
        (.scopeCategoryMismatch, "category `" ++ category.val ++ "` not in mandate scope")

def admitsCap (claims : ScopeClaims) : Option Money → Except Refusal Unit
  | none => .ok ()
  | some cap => do
      let order ← (claims.total.cmpSameCurrency cap).mapError fun error =>
        (.currencyMismatch, error.toString)
      ensure (order ≠ .gt)
        (.scopePerTxnExceeded,
          s!"total {claims.total.toString} exceeds per-transaction cap {cap.toString}")

def admitsTotal (scope : Scope) (claims : ScopeClaims) : Except Refusal Unit := do
  ensure (claims.total.currency = scope.currency)
    (.currencyMismatch,
      s!"cart is {claims.total.currency.code}, mandate is {scope.currency.code}")
  ensure (claims.total.isNegative = false)
    (.amountInvalid, s!"total {claims.total.toString} is negative")
  admitsCap claims scope.maxPerTxn

/-- `Scope::admits`, its checks in the source's order. -/
def admits (scope : Scope) (claims : ScopeClaims) (attestation : Attestation)
    (now : Timestamp) : Except Refusal Unit := do
  scope.admitsInstant now
  scope.admitsAttestation attestation
  scope.admitsMerchant claims
  scope.admitsCategory claims
  scope.admitsTotal claims

/-- What a scope that admits a cart guarantees about it. -/
structure Admitted (scope : Scope) (claims : ScopeClaims) (attestation : Attestation)
    (now : Timestamp) : Prop where
  started : ¬ now < scope.validFrom
  notExpired : ¬ scope.validUntil < now
  attested : scope.minAttestation.rank ≤ attestation.level.rank
  merchant : ∃ pattern ∈ scope.merchants, pattern.admitsMerchant claims.merchant = true
  category : ∀ allowed, scope.categories = some allowed →
    ∃ category ∈ allowed, claims.category = some category
  currency : claims.total.currency = scope.currency
  nonnegative : 0 ≤ claims.total.value
  capped : ∀ cap, scope.maxPerTxn = some cap →
    claims.total.currency = cap.currency ∧ claims.total.value ≤ cap.value

section Admission

variable {scope : Scope} {claims : ScopeClaims} {attestation : Attestation} {now : Timestamp}

theorem admitsCategory_eq_ok :
    scope.admitsCategory claims = .ok () ↔
      ∀ allowed, scope.categories = some allowed →
        ∃ category ∈ allowed, claims.category = some category := by
  unfold admitsCategory
  cases scope.categories <;> cases claims.category <;> simp

theorem admitsCap_eq_ok {limit : Option Money} :
    admitsCap claims limit = .ok () ↔
      ∀ cap, limit = some cap →
        claims.total.currency = cap.currency ∧ claims.total.value ≤ cap.value := by
  cases limit with
  | none => simp [admitsCap]
  | some cap =>
      simp only [admitsCap, bind_eq_ok, mapError_eq_ok, ensure_eq_ok,
        Money.cmpSameCurrency_eq_ok, Option.some.injEq, forall_eq']
      constructor
      · rintro ⟨order, ⟨same, rfl⟩, notGreater⟩
        exact ⟨same, by rwa [Ne, Decimal.cmp_eq_gt_iff, not_lt] at notGreater⟩
      · rintro ⟨same, within⟩
        refine ⟨_, ⟨same, rfl⟩, ?_⟩
        rw [Ne, Decimal.cmp_eq_gt_iff, not_lt]
        exact within

/-- `admits` accepts exactly the carts its checks describe. -/
theorem admits_eq_ok :
    scope.admits claims attestation now = .ok () ↔ scope.Admitted claims attestation now := by
  simp only [admits, admitsInstant, admitsAttestation, admitsMerchant, admitsTotal,
    check_bind_eq_ok, ensure_eq_ok, admitsCategory_eq_ok, admitsCap_eq_ok, List.any_eq_true,
    Money.not_isNegative_iff, Nat.not_lt]
  constructor
  · rintro ⟨⟨started, notExpired⟩, attested, merchant, category, currency, nonnegative, capped⟩
    exact ⟨started, notExpired, attested, merchant, category, currency, nonnegative, capped⟩
  · rintro ⟨started, notExpired, attested, merchant, category, currency, nonnegative, capped⟩
    exact ⟨⟨started, notExpired⟩, attested, merchant, category, currency, nonnegative, capped⟩

end Admission

end Scope

structure MandateBody where
  id : MandateId
  principal : PrincipalId
  agent : AgentId
  scope : Scope
  issuedAt : Timestamp
  parent : Option MandateId
deriving DecidableEq, BEq

deriving instance ReflBEq for Scope, MandateBody

theorem MandateBody.id_eq {first second : MandateBody} (same : (first == second) = true) :
    first.id = second.id := by
  change instBEqMandateBody.beq first second = true at same
  cases first
  cases second
  simp only [instBEqMandateBody.beq, Bool.and_eq_true, beq_iff_eq] at same
  exact same.1

abbrev SignerKey := FixedBytes 32

structure Mandate where
  body : MandateBody
  signer : SignerKey
  signature : FixedBytes 64
deriving DecidableEq

def Mandate.id (mandate : Mandate) : MandateId := mandate.body.id

/-- Ed25519 and the canonical JSON of a mandate body, which come from
libraries. -/
structure Signatures where
  signingBytes : MandateBody → Except CanonicalizeError Bytes
  validKey : SignerKey → Bool
  verifyStrict : SignerKey → Bytes → FixedBytes 64 → Bool

/-- `Mandate::verify`. -/
def Mandate.verify (signatures : Signatures) (mandate : Mandate) : Except MandateError Unit := do
  mandate.body.scope.validate
  ensure (signatures.validKey mandate.signer = true) .badSignerKey
  let bytes ← (signatures.signingBytes mandate.body).mapError .canonicalize
  ensure (signatures.verifyStrict mandate.signer bytes mandate.signature = true) .signatureInvalid

/-- `SignerPolicy`: whether a key may sign for a principal. -/
abbrev SignerPolicy := PrincipalId → SignerKey → Bool

/-- A static allow-list of signing keys. -/
structure TrustedSigners where
  keys : Finmap fun _ : PrincipalId => List SignerKey

namespace TrustedSigners

def new : TrustedSigners := ⟨∅⟩

def allow (signers : TrustedSigners) (principal : PrincipalId) (key : SignerKey) :
    TrustedSigners :=
  ⟨signers.keys.insert principal ((signers.keys.lookup principal).getD [] ++ [key])⟩

def isTrusted (signers : TrustedSigners) : SignerPolicy := fun principal signer =>
  match signers.keys.lookup principal with
  | none => false
  | some keys => keys.contains signer

end TrustedSigners

end MandateLedger.Core
