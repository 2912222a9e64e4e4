import MandateLedger.Core.Store
import MandateLedger.Data.Rounding

namespace MandateLedger.Core

open MandateLedger.Data

/-! # The arithmetic of `rust_decimal`

A stored decimal has a sign, a 96-bit mantissa and a scale.  Sums and differences
are taken at the finer of the two scales.  A result with a longer mantissa loses
digits of its fraction until it fits, and is refused when it has none left.
-/

namespace Decimal

/-- One past the largest mantissa. -/
def mantissaLimit : Nat := 2 ^ 96

section Aligned

variable (left right : Decimal)

def commonScale : Nat := max left.scale right.scale

def alignedSum : Int :=
  left.rescaled (left.commonScale right) + right.rescaled (left.commonScale right)

def alignedDifference : Int :=
  left.rescaled (left.commonScale right) - right.rescaled (left.commonScale right)

theorem toRat_add : left.toRat + right.toRat =
    (left.alignedSum right : ℚ) / 10 ^ left.commonScale right := by
  rw [left.toRat_eq_rescaled (le_max_left _ right.scale),
    right.toRat_eq_rescaled (le_max_right left.scale _), ← add_div]
  unfold alignedSum
  push_cast
  rfl

theorem toRat_sub : left.toRat - right.toRat =
    (left.alignedDifference right : ℚ) / 10 ^ left.commonScale right := by
  rw [left.toRat_eq_rescaled (le_max_left _ right.scale),
    right.toRat_eq_rescaled (le_max_right left.scale _), ← sub_div]
  unfold alignedDifference
  push_cast
  rfl

end Aligned

def stored (rounding : Rounding) (mantissa : Int) (scale : Nat) : Option Decimal :=
  (lower rounding mantissaLimit mantissa.natAbs 0 scale).map fun fitted =>
    ⟨decide (mantissa < 0), fitted.1, fitted.2⟩

/-- A result that fits without losing a digit. -/
def Fits (mantissa : Int) (scale : Nat) : Prop :=
  Representable mantissaLimit mantissa.natAbs scale

/-- A result that does not fit even as a whole number. -/
def Overflows (rounding : Rounding) (mantissa : Int) (scale : Nat) : Prop :=
  mantissaLimit ≤ rounding.quotient mantissa.natAbs (10 ^ scale)

instance (mantissa : Int) (scale : Nat) : Decidable (Fits mantissa scale) :=
  inferInstanceAs (Decidable (∃ dropped ≤ scale, 10 ^ dropped ∣ mantissa.natAbs ∧
    mantissa.natAbs / 10 ^ dropped < mantissaLimit))

instance (rounding : Rounding) (mantissa : Int) (scale : Nat) :
    Decidable (Overflows rounding mantissa scale) :=
  inferInstanceAs (Decidable (mantissaLimit ≤ rounding.quotient mantissa.natAbs (10 ^ scale)))

section Stored

variable {rounding : Rounding} {mantissa : Int} {scale : Nat} {result : Decimal}

theorem stored_exact_iff (found : stored rounding mantissa scale = some result) :
    result.toRat = (mantissa : ℚ) / 10 ^ scale ↔ Fits mantissa scale := by
  obtain ⟨⟨quotient, left⟩, lowered, rfl⟩ := Option.map_eq_some_iff.mp found
  obtain ⟨more, rfl, -⟩ := lower_eq_some lowered
  unfold Fits
  rw [← lower_exact_iff lowered, Nat.add_sub_cancel_left]
  have signs : (⟨decide (mantissa < 0), quotient, left⟩ : Decimal).signed * 10 ^ more = mantissa ↔
      quotient * 10 ^ more = mantissa.natAbs := by
    unfold signed
    have scaled : ((quotient * 10 ^ more : Nat) : Int) = quotient * 10 ^ more := by push_cast; rfl
    by_cases below : mantissa < 0
    · rw [if_pos (by simpa using below), Int.neg_mul, ← scaled]
      omega
    · rw [if_neg (by simpa using below), ← scaled]
      omega
  rw [← signs]
  unfold toRat
  dsimp only
  rw [div_eq_div_iff (ten_pow_pos _).ne' (ten_pow_pos _).ne', pow_add]
  have positive := ten_pow_pos left
  constructor
  · intro same
    have cancelled : ((⟨decide (mantissa < 0), quotient, left⟩ : Decimal).signed * 10 ^ more : ℚ) =
        mantissa := by
      apply mul_right_cancel₀ positive.ne'
      linarith
    exact_mod_cast cancelled
  · intro same
    have cast : ((⟨decide (mantissa < 0), quotient, left⟩ : Decimal).signed * 10 ^ more : ℚ) =
        mantissa := by
      exact_mod_cast same
    rw [← cast]
    ring

theorem stored_eq_none_iff : stored rounding mantissa scale = none ↔
    Overflows rounding mantissa scale := by
  unfold stored Overflows
  rw [Option.map_eq_none_iff, lower_eq_none_iff_whole (by decide)]

theorem Fits.stored (fits : Fits mantissa scale) : ∃ result, stored rounding mantissa scale =
    some result ∧ result.toRat = (mantissa : ℚ) / 10 ^ scale := by
  obtain ⟨quotient, left, lowered⟩ : ∃ quotient left,
      lower rounding mantissaLimit mantissa.natAbs 0 scale = some (quotient, left) :=
    Representable.lowered fits
  have found : Decimal.stored rounding mantissa scale =
      some ⟨decide (mantissa < 0), quotient, left⟩ := by
    rw [Decimal.stored, lowered]
    rfl
  exact ⟨_, found, (stored_exact_iff found).mpr fits⟩

/-- What is returned is exact when the result fits, or is refused. -/
theorem stored_exact_or_none_iff :
    (∀ result, stored rounding mantissa scale = some result →
        result.toRat = (mantissa : ℚ) / 10 ^ scale) ↔
      Fits mantissa scale ∨ Overflows rounding mantissa scale := by
  rw [← stored_eq_none_iff]
  cases found : stored rounding mantissa scale with
  | none => simp
  | some result => simp [stored_exact_iff found]

end Stored

end Decimal

namespace DecimalOps

/-- `checked_add` and `checked_sub`.  Where one operand is zero, `rust_decimal` returns the
other as it is; here it comes back at the common scale, as the same amount. -/
def rustDecimal (rounding : Rounding) : DecimalOps where
  checkedAdd left right :=
    Decimal.stored rounding (left.alignedSum right) (left.commonScale right)
  checkedSub left right :=
    Decimal.stored rounding (left.alignedDifference right) (left.commonScale right)

/-- Arithmetic that returns what `ops` returns where that is exact. -/
def corrected (ops : DecimalOps) : DecimalOps where
  checkedAdd left right :=
    (ops.checkedAdd left right).filter fun sum => sum.toRat = left.toRat + right.toRat
  checkedSub left right :=
    ((ops.checkedSub left right).filter fun difference =>
      difference.toRat = left.toRat - right.toRat).or (aligned.checkedSub left right)

section Corrected

variable {ops : DecimalOps} {left right result : Decimal}

theorem corrected_exact (ops : DecimalOps) : ops.corrected.Exact where
  add := by
    intro left right result added
    obtain ⟨-, exact⟩ := Option.filter_eq_some_iff.mp added
    simpa using exact
  sub := by
    intro left right result subtracted
    rcases Option.or_eq_some_iff.mp subtracted with kept | ⟨-, aligned⟩
    · obtain ⟨-, exact⟩ := Option.filter_eq_some_iff.mp kept
      simpa using exact
    · exact aligned_exact.sub aligned
  sub_defined := by
    intro left right nonnegative covered
    obtain ⟨result, aligned⟩ := aligned_exact.sub_defined nonnegative covered
    cases kept : (ops.checkedSub left right).filter fun difference =>
        difference.toRat = left.toRat - right.toRat with
    | some difference => exact ⟨difference, by simp [corrected, kept]⟩
    | none => exact ⟨result, by simp only [corrected, kept, aligned, Option.none_or]⟩

theorem corrected_add (added : ops.checkedAdd left right = some result)
    (exact : result.toRat = left.toRat + right.toRat) :
    ops.corrected.checkedAdd left right = some result := by
  simp [corrected, added, exact]

theorem corrected_sub (subtracted : ops.checkedSub left right = some result)
    (exact : result.toRat = left.toRat - right.toRat) :
    ops.corrected.checkedSub left right = some result := by
  simp [corrected, subtracted, exact]

end Corrected

end DecimalOps

namespace Money

variable {rounding : Rounding} {left right result : Money}

/-- The condition under which money is added exactly, or not at all. -/
theorem checkedAdd_exact_iff (same : left.currency = right.currency) :
    (∀ result, left.checkedAdd (.rustDecimal rounding) right = .ok result →
        result.value = left.value + right.value) ↔
      Decimal.Fits (left.amount.alignedSum right.amount)
          (left.amount.commonScale right.amount) ∨
        Decimal.Overflows rounding (left.amount.alignedSum right.amount)
          (left.amount.commonScale right.amount) := by
  rw [← Decimal.stored_exact_or_none_iff, ← Decimal.toRat_add]
  constructor
  · intro exact amount found
    exact exact ⟨amount, left.currency⟩ (checked_eq_ok.mpr ⟨same, rfl, found⟩)
  · intro exact result added
    exact exact result.amount (checked_eq_ok.mp added).2.2

theorem checkedSub_exact_iff (same : left.currency = right.currency) :
    (∀ result, left.checkedSub (.rustDecimal rounding) right = .ok result →
        result.value = left.value - right.value) ↔
      Decimal.Fits (left.amount.alignedDifference right.amount)
          (left.amount.commonScale right.amount) ∨
        Decimal.Overflows rounding (left.amount.alignedDifference right.amount)
          (left.amount.commonScale right.amount) := by
  rw [← Decimal.stored_exact_or_none_iff, ← Decimal.toRat_sub]
  constructor
  · intro exact amount found
    exact exact ⟨amount, left.currency⟩ (checked_eq_ok.mpr ⟨same, rfl, found⟩)
  · intro exact result subtracted
    exact exact result.amount (checked_eq_ok.mp subtracted).2.2

theorem checkedAdd_corrected {ops : DecimalOps} (added : left.checkedAdd ops right = .ok result)
    (exact : result.value = left.value + right.value) :
    left.checkedAdd ops.corrected right = .ok result := by
  obtain ⟨same, currency, sum⟩ := checked_eq_ok.mp added
  exact checked_eq_ok.mpr ⟨same, currency, DecimalOps.corrected_add sum exact⟩

theorem checkedSub_corrected {ops : DecimalOps} (subtracted : left.checkedSub ops right = .ok result)
    (exact : result.value = left.value - right.value) :
    left.checkedSub ops.corrected right = .ok result := by
  obtain ⟨same, currency, difference⟩ := checked_eq_ok.mp subtracted
  exact checked_eq_ok.mpr ⟨same, currency, DecimalOps.corrected_sub difference exact⟩

end Money

/-- The libraries, with `rust_decimal`'s arithmetic. -/
def rustExternals (externals : Externals) (rounding : Rounding) : Externals :=
  { externals with decimals := .rustDecimal rounding }

/-- The new total of a mandate is not rounded. -/
def TotalFits (rounding : Rounding) (reserved : Option Money) (amount : Money) : Prop :=
  let current := reserved.getD (.zero amount.currency)
  let sum := current.amount.alignedSum amount.amount
  let scale := current.amount.commonScale amount.amount
  Decimal.Fits sum scale ∨ Decimal.Overflows rounding sum scale

/-- What a release leaves of a reservation is not rounded. -/
def RestFits (reserved : Option Money) (amount : Money) : Prop :=
  ∀ current ∈ reserved, Decimal.Fits (current.amount.alignedDifference amount.amount)
    (current.amount.commonScale amount.amount)

instance (rounding : Rounding) (reserved : Option Money) (amount : Money) :
    Decidable (TotalFits rounding reserved amount) := instDecidableOr

instance (reserved : Option Money) (amount : Money) : Decidable (RestFits reserved amount) :=
  inferInstanceAs (Decidable (∀ current ∈ reserved, Decimal.Fits
    (current.amount.alignedDifference amount.amount) (current.amount.commonScale amount.amount)))

section Corrected

variable {rounding : Rounding} {reserved : Option Money} {amount next : Money}

theorem checkBudget_corrected {scope : Scope} (fits : TotalFits rounding reserved amount)
    (granted : checkBudget (.rustDecimal rounding) scope amount reserved = .ok (.granted next)) :
    checkBudget (DecimalOps.rustDecimal rounding).corrected scope amount reserved =
      .ok (.granted next) := by
  obtain ⟨added, capped⟩ := checkBudget_eq_granted.mp granted
  have same := (Money.checked_eq_ok.mp added).1
  have exact := (Money.checkedAdd_exact_iff same).mpr fits _ added
  exact checkBudget_eq_granted.mpr ⟨Money.checkedAdd_corrected added exact, capped⟩

theorem releaseFrom_corrected {mandate : MandateId} (fits : RestFits reserved amount)
    (given : releaseFrom (.rustDecimal rounding) reserved mandate amount = .ok next) :
    releaseFrom (DecimalOps.rustDecimal rounding).corrected reserved mandate amount =
      .ok next := by
  obtain ⟨current, held, subtracted, nonnegative⟩ := releaseFrom_eq_ok_iff.mp given
  have same := (Money.checked_eq_ok.mp subtracted).1
  have exact := (Money.checkedSub_exact_iff same).mpr (.inl (fits current held)) _ subtracted
  exact releaseFrom_eq_ok_iff.mpr
    ⟨current, held, Money.checkedSub_corrected subtracted exact, nonnegative⟩

end Corrected

end MandateLedger.Core
