import MandateLedger.Engine.System

namespace MandateLedger.Adapters

open MandateLedger.Core MandateLedger.Engine

structure MockProof where
  reference : String
  nonce : String
  amount : Money
  boundCtx : Option ContextId
  boundCart : Option Hash32
  boundMerchant : Option MerchantId
  valid : Bool
deriving DecidableEq

/-- A valid proof bound to a context, with one text as reference and nonce. -/
def MockProof.boundTo (ctx : ContextId) (reference : String) (amount : Money) : MockProof where
  reference := reference
  nonce := reference
  amount := amount
  boundCtx := some ctx
  boundCart := none
  boundMerchant := none
  valid := true

structure MockFinality where
  reference : String
  confirmations : UInt32
  failure : Option String
deriving DecidableEq

def MockFinality.confirmed (reference : String) (confirmations : UInt32) : MockFinality :=
  ⟨reference, confirmations, none⟩

def MockFinality.failed (reference reason : String) : MockFinality :=
  ⟨reference, 0, some reason⟩

structure MockRail where
  id : String
  minConfirmations : UInt32
deriving DecidableEq

namespace MockRail

def verifyProof (proof : MockProof) : Except RailError VerifiedProof :=
  if proof.valid = false then
    .error (.invalidProof "mock signature check failed")
  else
    .ok
      { reference := proof.reference
        nonce := proof.nonce
        amount := proof.amount
        boundCtx := proof.boundCtx
        boundCart := proof.boundCart
        boundMerchant := proof.boundMerchant }

def checkFinality (rail : MockRail) (finality : MockFinality) (expected : SettlementExpectation) :
    Except RailError FinalityStatus :=
  if finality.reference ≠ expected.paymentReference then
    .error (.invalidProof
      ("evidence is for `" ++ finality.reference ++ "`, payment is `" ++
        expected.paymentReference ++ "`"))
  else
    match finality.failure with
    | some reason => .ok (.failed reason)
    | none =>
        if rail.minConfirmations ≤ finality.confirmations then
          .ok (.final s!"{finality.reference}@{finality.confirmations.toNat}")
        else
          .ok (.pending
            s!"need {rail.minConfirmations.toNat} confirmations, have {finality.confirmations.toNat}")

def surroundings (rail : MockRail) (now : Timestamp) : Surroundings MockProof MockFinality where
  now := now
  verify := fun _ proof _ => verifyProof proof
  judge := fun _ finality expected => rail.checkFinality finality expected

end MockRail

namespace Sample

def rail : MockRail := ⟨"mock", 2⟩

/-- A ledger over the mock rail that trusts each principal's own key. -/
def ledger : Ledger where
  railId := rail.id
  signers := ((TrustedSigners.new.allow Core.Sample.alice (Core.Sample.signer Core.Sample.alice)).allow
    Core.Sample.bob (Core.Sample.signer Core.Sample.bob)).isTrusted

abbrev Timed := Int64 × Request MockProof MockFinality

def served (calls : List Timed) : World MockProof MockFinality :=
  World.empty.serve Core.Sample.externals
    (calls.map fun call => (rail.surroundings ⟨call.1⟩, call.2))

theorem served_reachable (calls : List Timed)
    (own : ∀ call ∈ calls, ∀ other ∈ call.2.ledger?, other = ledger) :
    Engine.Reachable Core.Sample.externals {ledger}
      (⟨served calls, fun _ : Unit => none⟩ : Process.Config ..) := by
  refine Engine.Reachable.serve .initial () rfl _ ?_
  intro call listed other named
  obtain ⟨timed, member, rfl⟩ := List.mem_map.mp listed
  exact own timed member other named

end Sample

end MandateLedger.Adapters
