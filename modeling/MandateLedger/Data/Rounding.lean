import Mathlib.Algebra.Order.Ring.Nat
import Mathlib.Tactic.Linarith
import Mathlib.Tactic.Ring

namespace MandateLedger.Data

/-! # Decimals of bounded size

A magnitude `m` at scale `s` stands for `m / 10^s`.  One that is too large to be
stored loses digits from its end until it fits: the last digits are divided away
and the quotient is rounded.
-/

/-- A way to round quotients: to one of the two neighbours, and not at all where
the division is exact. -/
structure Rounding where
  quotient : Nat → Nat → Nat
  floor_le : ∀ dividend divisor, dividend / divisor ≤ quotient dividend divisor
  le_succ_floor : ∀ dividend divisor, quotient dividend divisor ≤ dividend / divisor + 1
  exact : ∀ {dividend divisor}, 0 < divisor → divisor ∣ dividend →
    quotient dividend divisor = dividend / divisor

def Rounding.halfEven : Rounding where
  quotient dividend divisor :=
    let floor := dividend / divisor
    let rest := dividend % divisor
    if 2 * rest < divisor ∨ (2 * rest = divisor ∧ floor % 2 = 0) then floor else floor + 1
  floor_le dividend divisor := by
    dsimp only
    split <;> omega
  le_succ_floor dividend divisor := by
    dsimp only
    split <;> omega
  exact := by
    intro dividend divisor positive divides
    have rest : dividend % divisor = 0 := Nat.mod_eq_zero_of_dvd divides
    dsimp only
    rw [if_pos (.inl (by omega))]

/-- The first magnitude below the limit, with the scale that is left, once
`dropped` digits are gone. -/
def lower (rounding : Rounding) (limit magnitude : Nat) : Nat → Nat → Option (Nat × Nat)
  | dropped, 0 =>
      let quotient := rounding.quotient magnitude (10 ^ dropped)
      if quotient < limit then some (quotient, 0) else none
  | dropped, scale + 1 =>
      let quotient := rounding.quotient magnitude (10 ^ dropped)
      if quotient < limit then some (quotient, scale + 1)
      else lower rounding limit magnitude (dropped + 1) scale

/-- A magnitude that fits once some of its trailing zeros are dropped. -/
def Representable (limit magnitude scale : Nat) : Prop :=
  ∃ dropped ≤ scale, 10 ^ dropped ∣ magnitude ∧ magnitude / 10 ^ dropped < limit

section Lower

variable {rounding : Rounding} {limit magnitude dropped scale quotient left : Nat}

/-- As few digits are dropped as possible. -/
theorem lower_eq_some (lowered : lower rounding limit magnitude dropped scale =
      some (quotient, left)) :
    ∃ more, left + more = scale ∧ quotient < limit ∧
      quotient = rounding.quotient magnitude (10 ^ (dropped + more)) ∧
      ∀ fewer < more, limit ≤ rounding.quotient magnitude (10 ^ (dropped + fewer)) := by
  induction scale generalizing dropped with
  | zero =>
      simp only [lower, Option.ite_none_right_eq_some, Option.some.injEq, Prod.mk.injEq] at lowered
      obtain ⟨fits, rfl, rfl⟩ := lowered
      exact ⟨0, rfl, fits, rfl, by simp⟩
  | succ scale ih =>
      simp only [lower] at lowered
      split at lowered
      · next fits =>
          cases lowered
          exact ⟨0, rfl, fits, rfl, by simp⟩
      · next large =>
          obtain ⟨more, same, fits, rounded, least⟩ := ih lowered
          have shift : ∀ more, dropped + 1 + more = dropped + (more + 1) := by omega
          simp only [shift] at rounded least
          refine ⟨more + 1, by omega, fits, rounded, ?_⟩
          intro fewer below
          cases fewer with
          | zero => exact Nat.not_lt.mp large
          | succ fewer => exact least fewer (by omega)

theorem lower_eq_none_iff :
    lower rounding limit magnitude dropped scale = none ↔
      ∀ more ≤ scale, limit ≤ rounding.quotient magnitude (10 ^ (dropped + more)) := by
  induction scale generalizing dropped with
  | zero => simp [lower]
  | succ scale ih =>
      have shift : ∀ more, dropped + 1 + more = dropped + (more + 1) := by omega
      simp only [lower]
      by_cases fits : rounding.quotient magnitude (10 ^ dropped) < limit
      · rw [if_pos fits]
        refine iff_of_false (by simp) ?_
        intro large
        have first := large 0 (by omega)
        rw [Nat.add_zero] at first
        omega
      · rw [if_neg fits, ih]
        simp only [shift]
        constructor
        · intro large more within
          cases more with
          | zero => exact Nat.not_lt.mp fits
          | succ more => exact large more (by omega)
        · intro large more within
          exact large (more + 1) (by omega)

/-- Dropping digits until a magnitude fits is exact when it is representable, and
only then. -/
theorem lower_exact_iff (lowered : lower rounding limit magnitude 0 scale = some (quotient, left)) :
    quotient * 10 ^ (scale - left) = magnitude ↔ Representable limit magnitude scale := by
  obtain ⟨more, rfl, fits, rounded, least⟩ := lower_eq_some lowered
  rw [Nat.zero_add] at rounded
  rw [Nat.add_sub_cancel_left]
  have positive : 0 < 10 ^ more := by positivity
  constructor
  · intro exact
    have divides : 10 ^ more ∣ magnitude := ⟨quotient, by rw [← exact, Nat.mul_comm]⟩
    refine ⟨more, by omega, divides, ?_⟩
    rw [← rounding.exact positive divides, ← rounded]
    exact fits
  · intro representable
    obtain ⟨enough, -, divides, small⟩ := representable
    have fewest : more ≤ enough := by
      by_contra later
      have large := least enough (by omega)
      rw [Nat.zero_add, rounding.exact (by positivity) divides] at large
      omega
    have divided : 10 ^ more ∣ magnitude := (Nat.pow_dvd_pow 10 fewest).trans divides
    rw [rounded, rounding.exact positive divided, Nat.div_mul_cancel divided]

theorem Representable.lowered (representable : Representable limit magnitude scale) :
    ∃ quotient left, lower rounding limit magnitude 0 scale = some (quotient, left) := by
  obtain ⟨enough, within, divides, small⟩ := representable
  cases none : lower rounding limit magnitude 0 scale with
  | some fitted => exact ⟨fitted.1, fitted.2, rfl⟩
  | none =>
      have large := lower_eq_none_iff.mp none enough within
      rw [Nat.zero_add, rounding.exact (by positivity) divides] at large
      omega

/-- A magnitude is refused when even without its fraction it does not fit. -/
theorem lower_eq_none_iff_whole (one_lt : 1 < limit) :
    lower rounding limit magnitude 0 scale = none ↔
      limit ≤ rounding.quotient magnitude (10 ^ scale) := by
  rw [lower_eq_none_iff]
  simp only [Nat.zero_add]
  constructor
  · intro large
    exact large scale le_rfl
  · intro whole more within
    rcases Nat.lt_or_eq_of_le within with fewer | rfl
    · -- the quotient by fewer digits is about ten times larger
      have ceiling := rounding.le_succ_floor magnitude (10 ^ scale)
      have floor := rounding.floor_le magnitude (10 ^ more)
      have split : 10 ^ scale = 10 ^ more * 10 * 10 ^ (scale - more - 1) := by
        rw [← Nat.pow_succ, ← Nat.pow_add]
        congr 1
        omega
      have tenth : magnitude / 10 ^ scale * 10 ≤ magnitude / 10 ^ more := by
        rw [Nat.le_div_iff_mul_le (by positivity)]
        calc magnitude / 10 ^ scale * 10 * 10 ^ more
            ≤ magnitude / 10 ^ scale * (10 ^ more * 10 * 10 ^ (scale - more - 1)) := by
              rw [Nat.mul_assoc]
              apply Nat.mul_le_mul_left
              calc 10 * 10 ^ more = 10 ^ more * 10 * 1 := by ring
                _ ≤ 10 ^ more * 10 * 10 ^ (scale - more - 1) :=
                  Nat.mul_le_mul_left _ (Nat.one_le_pow _ _ (by decide))
          _ = magnitude / 10 ^ scale * 10 ^ scale := by rw [← split]
          _ ≤ magnitude := Nat.div_mul_le_self _ _
      omega
    · exact whole

end Lower

end MandateLedger.Data
