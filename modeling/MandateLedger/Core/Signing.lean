import MandateLedger.Core.Evidence

namespace MandateLedger.Core

open MandateLedger.Data

abbrev SigningKey := FixedBytes 32

/-- Ed25519 signing and the canonical JSON of a bundle, which come from libraries. -/
structure Signing where
  canonicalBundle : EvidenceBundle → Except CanonicalizeError Bytes
  verifyingKey : SigningKey → SignerKey
  sign : SigningKey → Bytes → FixedBytes 64

structure SignedEvidence where
  bundle : EvidenceBundle
  signer : SignerKey
  signature : FixedBytes 64
deriving DecidableEq

/-- `EvidenceError`, with the way only a signed bundle can fail. -/
inductive SignedError where
  | evidence (error : EvidenceError)
  | signatureInvalid
deriving DecidableEq

/-- `EvidenceBundle::sign`. -/
def EvidenceBundle.sign (signing : Signing) (bundle : EvidenceBundle) (key : SigningKey) :
    Except CanonicalizeError SignedEvidence := do
  let bytes ← signing.canonicalBundle bundle
  return ⟨bundle, signing.verifyingKey key, signing.sign key bytes⟩

/-- `SignedEvidence::verify`. -/
def SignedEvidence.verify (externals : Externals) (signing : Signing) (signed : SignedEvidence) :
    Except SignedError Unit := do
  (signed.bundle.verify externals).mapError .evidence
  ensure (externals.signatures.validKey signed.signer = true) .signatureInvalid
  let bytes ← (signing.canonicalBundle signed.bundle).mapError fun error =>
    .evidence (.canonicalize error)
  ensure (externals.signatures.verifyStrict signed.signer bytes signed.signature = true)
    .signatureInvalid

/-- Ed25519 accepts what it has signed. -/
def Signing.Genuine (signing : Signing) (signatures : Signatures) : Prop :=
  ∀ key bytes, signatures.validKey (signing.verifyingKey key) = true ∧
    signatures.verifyStrict (signing.verifyingKey key) bytes (signing.sign key bytes) = true

/-- A bundle that verifies still does when it has been signed. -/
theorem EvidenceBundle.sign_verify {externals : Externals} {signing : Signing}
    {bundle : EvidenceBundle} {key : SigningKey} {signed : SignedEvidence}
    (genuine : signing.Genuine externals.signatures)
    (signs : bundle.sign signing key = .ok signed) (verified : bundle.verify externals = .ok ()) :
    signed.bundle = bundle ∧ signed.signer = signing.verifyingKey key ∧
      signed.verify externals signing = .ok () := by
  obtain ⟨bytes, encoded, returned⟩ := bind_eq_ok.mp signs
  cases pure_eq_ok.mp returned
  obtain ⟨valid, accepted⟩ := genuine key bytes
  refine ⟨rfl, rfl, ?_⟩
  simp only [SignedEvidence.verify, bind_eq_ok, mapError_eq_ok, ensure_eq_ok]
  exact ⟨(), verified, (), valid, bytes, encoded, accepted⟩

end MandateLedger.Core
