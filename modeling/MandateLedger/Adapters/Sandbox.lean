import MandateLedger.Adapters.Mock

namespace MandateLedger.Adapters

open MandateLedger.Core MandateLedger.Data

/-! # The sandbox rail

`sandbox.rs`: a rail the operator drives.  It takes a proof's word for what the
proof says.  About finality it reports what it is told, or, when it is asked, what
the payment reference itself dictates.  The one thing it remembers is how often it
was asked about a reference that ends in `-reorg`.
-/

/-- `MemoryChecks`: a count for each rail and reference, and never more of them than
the capacity. -/
structure MemoryChecks where
  checks : Table (String × String) UInt32
  capacity : Nat
  bounded : checks.keys.card ≤ capacity

/-- `u32::saturating_add(1)`. -/
def saturatingSucc (count : UInt32) : UInt32 :=
  UInt32.ofNat (min (count.toNat + 1) (UInt32.size - 1))

theorem toNat_saturatingSucc (count : UInt32) :
    (saturatingSucc count).toNat = min (count.toNat + 1) (UInt32.size - 1) := by
  have small : min (count.toNat + 1) (UInt32.size - 1) < UInt32.size := by
    simp only [UInt32.size]
    omega
  rw [saturatingSucc, UInt32.toNat_ofNat_of_lt' small]

namespace MemoryChecks

def new (capacity : Nat) : MemoryChecks := ⟨∅, capacity, by simp⟩

/-- A new reference, and no room for it. -/
def Refuses (memory : MemoryChecks) (key : String × String) : Prop :=
  memory.checks.lookup key = none ∧ memory.capacity ≤ memory.checks.keys.card

instance (memory : MemoryChecks) (key : String × String) : Decidable (memory.Refuses key) :=
  inferInstanceAs (Decidable (_ ∧ _))

theorem card_keys_insert_le {memory : MemoryChecks} {key : String × String}
    (room : ¬ memory.Refuses key) (count : UInt32) :
    (memory.checks.insert key count).keys.card ≤ memory.capacity := by
  rw [Table.keys_insert]
  by_cases known : key ∈ memory.checks.keys
  · rw [Finset.insert_eq_of_mem known]
    exact memory.bounded
  · have absent : memory.checks.lookup key = none :=
      Finmap.lookup_eq_none.mpr fun there => known (Finmap.mem_keys.mpr there)
    have space : memory.checks.keys.card < memory.capacity := by
      by_contra full
      exact room ⟨absent, Nat.le_of_not_lt full⟩
    rw [Finset.card_insert_of_notMem known]
    exact space

/-- Why a reference is not counted. -/
def refusal (capacity : Nat) (reference : String) : String :=
  "the sandbox rail remembers " ++ toString capacity ++
    " references already and will not remember `" ++ reference ++ "`"

/-- `MemoryChecks::count`, under the lock. -/
def count (memory : MemoryChecks) (rail reference : String) :
    Except String UInt32 × MemoryChecks :=
  let key := (rail, reference)
  if room : memory.Refuses key then
    (.error (refusal memory.capacity reference), memory)
  else
    let count := saturatingSucc ((memory.checks.lookup key).getD 0)
    (.ok count, { memory with
      checks := memory.checks.insert key count
      bounded := card_keys_insert_le room count })

theorem count_cases (memory : MemoryChecks) (rail reference : String) :
    memory.Refuses (rail, reference) ∧
      memory.count rail reference = (.error (refusal memory.capacity reference), memory) ∨
    ∃ after : MemoryChecks, ¬ memory.Refuses (rail, reference) ∧
      after.capacity = memory.capacity ∧
      after.checks = memory.checks.insert (rail, reference)
        (saturatingSucc ((memory.checks.lookup (rail, reference)).getD 0)) ∧
      memory.count rail reference =
        (.ok (saturatingSucc ((memory.checks.lookup (rail, reference)).getD 0)), after) := by
  by_cases full : memory.Refuses (rail, reference)
  · exact .inl ⟨full, dif_pos full⟩
  · exact .inr ⟨⟨_, _, card_keys_insert_le full _⟩, full, rfl, rfl, dif_neg full⟩

end MemoryChecks

/-- `Reported`: what an operator can make the rail say. -/
inductive Reported where
  | confirmations (count : UInt32)
  | failed (reason : String)
deriving DecidableEq

/-- `Finality`: the payment the evidence is about, and what the rail is told to report. -/
structure Finality where
  reference : String
  reported : Option Reported
deriving DecidableEq

inductive Magic where
  | ok
  | fail
  | reorg
deriving DecidableEq

def magic (reference : String) : Option Magic :=
  if endsWith reference "-ok" then some .ok
  else if endsWith reference "-fail" then some .fail
  else if endsWith reference "-reorg" then some .reorg
  else none

inductive Observation where
  | confirmations (count : UInt32)
  | failed (reason : String)

/-- `SandboxRail`, without its memory.  The threshold is a `NonZeroU32`. -/
structure SandboxRail where
  id : String
  finality : UInt32
  positive : finality ≠ 0

namespace SandboxRail

/-- What a `-reorg` reference shows on its `checks`-th check. -/
def reorganized (rail : SandboxRail) (checks : UInt32) : Observation :=
  if rail.finality ≤ checks then
    .failed s!"reorganized: dropped after {checks.toNat - 1} confirmations"
  else .confirmations checks

/-- `SandboxRail::observe`. -/
def observe (rail : SandboxRail) (memory : MemoryChecks) (finality : Finality) :
    Except RailError Observation × MemoryChecks :=
  match finality.reported with
  | some (.confirmations count) => (.ok (.confirmations count), memory)
  | some (.failed reason) => (.ok (.failed reason), memory)
  | none =>
      match magic finality.reference with
      | some .ok => (.ok (.confirmations rail.finality), memory)
      | some .fail => (.ok (.failed "declined by the rail"), memory)
      | some .reorg =>
          let (counted, memory) := memory.count rail.id finality.reference
          match counted with
          | .error refusal => (.error (.unavailable refusal), memory)
          | .ok checks => (.ok (rail.reorganized checks), memory)
      | none =>
          (.error (.unavailable ("the sandbox rail has no report for `" ++ finality.reference ++
            "`: tell it what to report, or use a reference ending in -ok, -fail or -reorg")), memory)

/-- `Rail::verify_proof`. -/
def verifyProof (proof : MockProof) : Except RailError VerifiedProof :=
  if proof.valid = false then
    .error (.invalidProof "signature check failed")
  else
    .ok
      { reference := proof.reference
        nonce := proof.nonce
        amount := proof.amount
        boundCtx := proof.boundCtx
        boundCart := proof.boundCart
        boundMerchant := proof.boundMerchant }

/-- What `check_finality` makes of an observation. -/
def status (rail : SandboxRail) (reference : String) : Observation → FinalityStatus
  | .failed reason => .failed reason
  | .confirmations count =>
      if rail.finality ≤ count then .final s!"{reference}@{count.toNat}"
      else .pending s!"need {rail.finality.toNat} confirmations, have {count.toNat}"

/-- `Rail::check_finality`. -/
def checkFinality (rail : SandboxRail) (memory : MemoryChecks) (finality : Finality)
    (expected : SettlementExpectation) : Except RailError FinalityStatus × MemoryChecks :=
  if finality.reference ≠ expected.paymentReference then
    (.error (.invalidProof
      ("evidence is for `" ++ finality.reference ++ "`, payment is `" ++
        expected.paymentReference ++ "`")), memory)
  else
    let (observed, memory) := rail.observe memory finality
    (observed.map (rail.status finality.reference), memory)

end SandboxRail

/-- Why the rail reports a status for a payment. -/
inductive Grounds (rail : SandboxRail) (payment : String) :
    Option Reported → FinalityStatus → Prop where
  | told (count : UInt32) :
      Grounds rail payment (some (.confirmations count))
        (rail.status payment (.confirmations count))
  | toldFailed (reason : String) :
      Grounds rail payment (some (.failed reason)) (.failed reason)
  | ok (ending : magic payment = some .ok) :
      Grounds rail payment none (rail.status payment (.confirmations rail.finality))
  | fail (ending : magic payment = some .fail) :
      Grounds rail payment none (.failed "declined by the rail")
  | reorg (ending : magic payment = some .reorg) (checks : UInt32) :
      Grounds rail payment none (rail.status payment (rail.reorganized checks))

section Grounds

variable {rail : SandboxRail} {memory : MemoryChecks}

/-- Asked about a payment whose reference ends in `-reorg`, the rail counts. -/
theorem SandboxRail.checkFinality_reorg {reference : String} {expected : SettlementExpectation}
    (ending : magic reference = some .reorg) (same : expected.paymentReference = reference) :
    rail.checkFinality memory ⟨reference, none⟩ expected =
      ((memory.count rail.id reference).1.mapError RailError.unavailable |>.map
        fun checks => rail.status reference (rail.reorganized checks),
        (memory.count rail.id reference).2) := by
  simp only [checkFinality, same, ne_eq, not_true, if_false, observe, ending]
  cases (memory.count rail.id reference).1 <;> rfl

/-- Otherwise its memory stays as it is. -/
theorem SandboxRail.checkFinality_memory {finality : Finality} {expected : SettlementExpectation}
    (silent : ¬ (finality.reported = none ∧ magic finality.reference = some .reorg ∧
      finality.reference = expected.paymentReference)) :
    (rail.checkFinality memory finality expected).2 = memory := by
  unfold checkFinality
  split
  · rfl
  · next same =>
      obtain ⟨reference, reported⟩ := finality
      cases reported with
      | some told => cases told <;> rfl
      | none =>
          simp only [observe]
          cases ending : magic reference with
          | none => rfl
          | some ends =>
              cases ends with
              | ok | fail => rfl
              | reorg => exact absurd ⟨rfl, ending, not_not.mp same⟩ silent

theorem SandboxRail.checkFinality_grounds {finality : Finality}
    {expected : SettlementExpectation} {status : FinalityStatus}
    (answered : (rail.checkFinality memory finality expected).1 = .ok status) :
    finality.reference = expected.paymentReference ∧
      Grounds rail expected.paymentReference finality.reported status := by
  unfold SandboxRail.checkFinality at answered
  split at answered
  · cases answered
  · next same =>
      have same : finality.reference = expected.paymentReference := not_not.mp same
      refine ⟨same, ?_⟩
      rw [← same]
      obtain ⟨reference, reported⟩ := finality
      cases reported with
      | some told =>
          cases told with
          | confirmations count =>
              cases answered
              exact .told count
          | failed reason =>
              cases answered
              exact .toldFailed reason
      | none =>
          simp only [SandboxRail.observe] at answered
          cases ending : magic reference with
          | none => simp [ending, Except.map] at answered
          | some ends =>
              cases ends with
              | ok =>
                  simp only [ending, Except.map, Except.ok.injEq] at answered
                  cases answered
                  exact .ok ending
              | fail =>
                  simp only [ending, Except.map, Except.ok.injEq] at answered
                  cases answered
                  exact .fail ending
              | reorg =>
                  simp only [ending] at answered
                  cases counted : (memory.count rail.id reference).1 with
                  | error refusal => simp [counted, Except.map] at answered
                  | ok checks =>
                      simp only [counted, Except.map, Except.ok.injEq] at answered
                      cases answered
                      exact .reorg ending checks

theorem SandboxRail.status_eq_final {payment reference : String} {seen : Observation}
    (concluded : rail.status payment seen = .final reference) :
    ∃ count, seen = .confirmations count ∧ rail.finality ≤ count ∧
      reference = s!"{payment}@{count.toNat}" := by
  cases seen with
  | failed reason => cases concluded
  | confirmations count =>
      by_cases enough : rail.finality ≤ count
      · simp only [SandboxRail.status, enough, if_true] at concluded
        cases concluded
        exact ⟨count, rfl, enough, rfl⟩
      · simp [SandboxRail.status, enough] at concluded

theorem SandboxRail.status_eq_failed {payment reason : String} {seen : Observation}
    (concluded : rail.status payment seen = .failed reason) : seen = .failed reason := by
  cases seen with
  | failed given =>
      cases concluded
      rfl
  | confirmations count =>
      by_cases enough : rail.finality ≤ count <;> simp [SandboxRail.status, enough] at concluded

/-- A payment is final with enough confirmations, that the operator counted or that its
reference promises. -/
theorem Grounds.final {payment reference : String} {reported : Option Reported}
    (grounds : Grounds rail payment reported (.final reference)) :
    ∃ count : UInt32, rail.finality ≤ count ∧ reference = s!"{payment}@{count.toNat}" ∧
      (reported = some (.confirmations count) ∨
        reported = none ∧ magic payment = some .ok ∧ count = rail.finality) := by
  generalize concluded : FinalityStatus.final reference = status at grounds
  cases grounds with
  | told count =>
      obtain ⟨_, ⟨⟩, enough, named⟩ := SandboxRail.status_eq_final concluded.symm
      exact ⟨count, enough, named, .inl rfl⟩
  | ok ending =>
      obtain ⟨_, ⟨⟩, enough, named⟩ := SandboxRail.status_eq_final concluded.symm
      exact ⟨rail.finality, enough, named, .inr ⟨rfl, ending, rfl⟩⟩
  | reorg ending checks =>
      obtain ⟨count, seen, enough, -⟩ := SandboxRail.status_eq_final concluded.symm
      by_cases dropped : rail.finality ≤ checks
      · simp [SandboxRail.reorganized, dropped] at seen
      · simp only [SandboxRail.reorganized, dropped, if_false] at seen
        cases seen
        exact absurd enough dropped
  | toldFailed | fail => cases concluded

theorem Grounds.failed {payment reason : String} {reported : Option Reported}
    (grounds : Grounds rail payment reported (.failed reason)) :
    reported = some (.failed reason) ∨
      reported = none ∧ (magic payment = some .fail ∧ reason = "declined by the rail" ∨
        magic payment = some .reorg ∧ ∃ checks : UInt32, rail.finality ≤ checks ∧
          reason = s!"reorganized: dropped after {checks.toNat - 1} confirmations") := by
  generalize concluded : FinalityStatus.failed reason = status at grounds
  cases grounds with
  | toldFailed =>
      cases concluded
      exact .inl rfl
  | fail ending =>
      cases concluded
      exact .inr ⟨rfl, .inl ⟨ending, rfl⟩⟩
  | reorg ending checks =>
      have seen := SandboxRail.status_eq_failed concluded.symm
      by_cases dropped : rail.finality ≤ checks
      · simp only [SandboxRail.reorganized, dropped, if_true] at seen
        cases seen
        exact .inr ⟨rfl, .inr ⟨ending, checks, dropped, rfl⟩⟩
      · simp [SandboxRail.reorganized, dropped] at seen
  | told | ok => cases SandboxRail.status_eq_failed concluded.symm

end Grounds

end MandateLedger.Adapters
