import MandateLedger.X402.Settlement

namespace MandateLedger.X402

open MandateLedger.Core MandateLedger.Data

/-- `judge_receipt`'s count: none when the head is older than the block, and
wrapped around in a release build where it overflows. -/
def confirmations (head block : UInt64) : Option UInt64 :=
  if block ≤ head then some (head - block + 1) else none

section Judging

variable {keccak256 : Bytes → Hash32} {rail : X402Rail} {payment : AuthorizationRef}
  {expected : SettlementExpectation} {receipt : TransactionReceipt} {head block : UInt64}

theorem toNat_confirmations {count : UInt64} (counted : confirmations head block = some count) :
    block.toNat ≤ head.toNat ∧ count.toNat = (head.toNat - block.toNat + 1) % 2 ^ 64 := by
  unfold confirmations at counted
  split at counted
  · next behind =>
      obtain rfl := Option.some.inj counted
      refine ⟨UInt64.le_iff_toNat_le.mp behind, ?_⟩
      rw [UInt64.toNat_add, UInt64.toNat_sub_of_le _ _ behind]
      rfl
  · cases counted

/-- The count is exact unless every `u64` block was mined on top of block zero. -/
theorem confirmations_exact_iff :
    (∀ count, confirmations head block = some count →
        count.toNat = head.toNat - block.toNat + 1) ↔
      ¬ (head.toNat = 2 ^ 64 - 1 ∧ block = 0) := by
  have bound := head.toNat_lt
  constructor
  · rintro exact ⟨last, rfl⟩
    have counted : confirmations head 0 = some (head - 0 + 1) := if_pos UInt64.zero_le
    have wrapped := (toNat_confirmations counted).2
    rw [exact _ counted, last] at wrapped
    exact absurd wrapped (by decide)
  · intro inside count counted
    obtain ⟨behind, wrapped⟩ := toNat_confirmations counted
    have small : head.toNat - block.toNat + 1 < 2 ^ 64 := by
      by_contra large
      apply inside
      refine ⟨by omega, UInt64.toNat_inj.mp ?_⟩
      change block.toNat = 0
      omega
    rw [wrapped, Nat.mod_eq_of_lt small]

/-- A receipt that is deep enough stays so as the chain grows. -/
theorem Confirmed.later {earlier : UInt64} (confirmed : Confirmed rail earlier receipt)
    (later : earlier ≤ head)
    (inside : ¬ (head.toNat = 2 ^ 64 - 1 ∧ quantity receipt.blockNumber = some 0)) :
    Confirmed rail head receipt := by
  obtain ⟨hash, ⟨block, numbered, behind, deep⟩, succeeded⟩ := confirmed
  have order := UInt64.le_iff_toNat_le.mp later
  have still : block ≤ head := UInt64.le_trans behind later
  have counted : confirmations earlier block = some (earlier - block + 1) := if_pos behind
  have recounted : confirmations head block = some (head - block + 1) := if_pos still
  have exact : (head - block + 1).toNat = head.toNat - block.toNat + 1 := by
    refine confirmations_exact_iff.mpr ?_ _ recounted
    rintro ⟨last, rfl⟩
    exact inside ⟨last, numbered⟩
  have wrapped := (toNat_confirmations counted).2
  refine ⟨hash, ⟨block, numbered, still, ?_⟩, succeeded⟩
  rw [UInt64.le_iff_toNat_le] at deep ⊢
  have := Nat.mod_le (earlier.toNat - block.toNat + 1) (2 ^ 64)
  omega

end Judging

namespace Sample

end Sample

end MandateLedger.X402
