import MandateLedger.Core.Primitives
import Mathlib.Algebra.Order.Field.Rat
import Mathlib.Tactic.FieldSimp
import Mathlib.Tactic.Positivity
import Mathlib.Tactic.Linarith
import Mathlib.Tactic.Ring

namespace MandateLedger.Core

/-! # Money

`money.rs`: a decimal amount tagged with a currency.  Amounts are
`rust_decimal::Decimal`, which is not part of the repository.  A `Decimal` here
is the number such a value denotes together with the way it is written, a sign,
a mantissa and a scale; its `checked_add` and `checked_sub` are a parameter.
-/

/-- `(-1)^negative * mantissa * 10^(-scale)`. -/
structure Decimal where
  negative : Bool
  mantissa : Nat
  scale : Nat
deriving DecidableEq

namespace Decimal

def zero : Decimal := ⟨false, 0, 0⟩

def signed (value : Decimal) : Int :=
  if value.negative then -(value.mantissa : Int) else value.mantissa

def toRat (value : Decimal) : ℚ := value.signed / 10 ^ value.scale

def isSignNegative (value : Decimal) : Bool := value.negative

def isZero (value : Decimal) : Bool := value.mantissa == 0

/-- `Ord for Decimal`: numeric, whatever the scales. -/
def cmp (left right : Decimal) : Ordering :=
  compare (left.signed * 10 ^ right.scale) (right.signed * 10 ^ left.scale)

/-- `PartialEq for Decimal` is numeric as well: `128.00 == 128`. -/
instance : BEq Decimal := ⟨fun left right => left.cmp right == .eq⟩

/-- `Display`: every digit of the scale is written. -/
def toString (value : Decimal) : String :=
  let digits := (Nat.toDigits 10 value.mantissa)
  let padded := List.replicate (value.scale + 1 - digits.length) '0' ++ digits
  let whole := padded.take (padded.length - value.scale)
  let fraction := padded.drop (padded.length - value.scale)
  String.ofList ((if value.negative then ['-'] else []) ++ whole ++
    (if value.scale = 0 then [] else '.' :: fraction))

theorem ten_pow_pos (scale : Nat) : (0 : ℚ) < 10 ^ scale := by positivity

theorem toRat_lt_iff (left right : Decimal) :
    left.toRat < right.toRat ↔
      left.signed * 10 ^ right.scale < right.signed * 10 ^ left.scale := by
  unfold toRat
  rw [div_lt_div_iff₀ (ten_pow_pos _) (ten_pow_pos _)]
  exact_mod_cast Iff.rfl

theorem cmp_eq_gt_iff (left right : Decimal) :
    left.cmp right = .gt ↔ right.toRat < left.toRat := by
  rw [toRat_lt_iff]
  exact compare_gt_iff_gt

theorem beq_iff (left right : Decimal) :
    (left == right) = true ↔ left.toRat = right.toRat := by
  change (left.cmp right == .eq) = true ↔ _
  rw [beq_iff_eq]
  unfold cmp toRat
  rw [compare_eq_iff_eq, div_eq_div_iff (ten_pow_pos _).ne' (ten_pow_pos _).ne']
  exact_mod_cast Iff.rfl

/-- The test `is_sign_negative() && !is_zero()` is numeric negativity: a
negative zero is not negative. -/
theorem negative_iff (value : Decimal) :
    (value.isSignNegative && !value.isZero) = true ↔ value.toRat < 0 := by
  unfold toRat
  rw [div_lt_iff₀ (ten_pow_pos _), zero_mul]
  cases negative : value.negative with
  | false =>
      simp [isSignNegative, signed, negative]
  | true => simp [isSignNegative, isZero, signed, negative, Nat.pos_iff_ne_zero]

/-- The digits of the mantissa, with zeros in front so that one stands before the point. -/
def padded (value : Decimal) : List Char :=
  List.replicate (value.scale + 1 - (Nat.toDigits 10 value.mantissa).length) '0' ++
    Nat.toDigits 10 value.mantissa

theorem lt_length_padded (value : Decimal) : value.scale < value.padded.length := by
  simp only [padded, List.length_append, List.length_replicate]
  omega

theorem isDigit_of_mem_padded {value : Decimal} {char : Char} (listed : char ∈ value.padded) :
    char.isDigit = true := by
  obtain zero | digit := List.mem_append.mp listed
  · rw [List.eq_of_mem_replicate zero]
    rfl
  · exact Nat.isDigit_of_mem_toDigits (by decide) (by decide) digit

theorem ofDigitChars_padded (value : Decimal) : Nat.ofDigitChars 10 value.padded 0 = value.mantissa := by
  rw [padded, Nat.ofDigitChars_append, Nat.ofDigitChars_replicate_zero, Nat.mul_zero]
  exact Nat.ofDigitChars_toDigits (by decide) (by decide)

/-- The whole part, and the fraction behind a point if there is a scale. -/
def unsigned (value : Decimal) : List Char :=
  value.padded.take (value.padded.length - value.scale) ++
    (if value.scale = 0 then [] else '.' :: value.padded.drop (value.padded.length - value.scale))

theorem toString_toList (value : Decimal) :
    value.toString.toList = (if value.negative then ['-'] else []) ++ value.unsigned := by
  simp [toString, unsigned, padded]

theorem unsigned_split (value : Decimal) :
    value.unsigned.takeWhile (· ≠ '.') = value.padded.take (value.padded.length - value.scale) ∧
      (value.unsigned.dropWhile (· ≠ '.')).tail =
        value.padded.drop (value.padded.length - value.scale) := by
  have digits : ∀ char ∈ value.padded.take (value.padded.length - value.scale),
      decide (char ≠ '.') = true := by
    intro char listed
    have digit := isDigit_of_mem_padded (List.mem_of_mem_take listed)
    rw [decide_eq_true_eq]
    intro point
    rw [point] at digit
    cases digit
  unfold unsigned
  rw [List.takeWhile_append_of_pos digits, List.dropWhile_append_of_pos digits]
  split
  · next whole => simp [whole]
  · simp

theorem unsigned_inj {left right : Decimal} (same : left.unsigned = right.unsigned) :
    left.mantissa = right.mantissa ∧ left.scale = right.scale := by
  have whole := left.unsigned_split.1
  have fraction := left.unsigned_split.2
  rw [same, right.unsigned_split.1] at whole
  rw [same, right.unsigned_split.2] at fraction
  have digits : right.padded = left.padded := by
    rw [← List.take_append_drop (right.padded.length - right.scale) right.padded, whole, fraction,
      List.take_append_drop]
  have scales := congrArg List.length fraction
  simp only [List.length_drop] at scales
  have := left.lt_length_padded
  have := right.lt_length_padded
  refine ⟨?_, by omega⟩
  rw [← left.ofDigitChars_padded, ← digits, right.ofDigitChars_padded]

theorem unsigned_head (value : Decimal) :
    ∃ digit rest, value.unsigned = digit :: rest ∧ digit.isDigit = true := by
  have within := value.lt_length_padded
  cases written : value.padded with
  | nil =>
      rw [written] at within
      cases within
  | cons digit rest =>
      obtain ⟨places, more⟩ : ∃ places, (digit :: rest).length - value.scale = places + 1 :=
        Nat.exists_eq_add_one_of_ne_zero (by rw [written] at within; omega)
      have leading : digit.isDigit = true := by
        have listed : digit ∈ value.padded := by simp [written]
        exact isDigit_of_mem_padded listed
      rw [unsigned, written, more, List.take_succ_cons]
      exact ⟨digit, _, rfl, leading⟩

theorem toString_injective : Function.Injective toString := by
  intro left right same
  have text := congrArg String.toList same
  rw [toString_toList, toString_toList] at text
  obtain ⟨digit, rest, written, leading⟩ := left.unsigned_head
  obtain ⟨other, others, rewritten, leading'⟩ := right.unsigned_head
  obtain ⟨signs, digits⟩ : left.negative = right.negative ∧ left.unsigned = right.unsigned := by
    -- a text starts with a minus exactly if the decimal is negative
    cases leftSign : left.negative <;> cases rightSign : right.negative <;>
      simp only [leftSign, rightSign, written, rewritten, Bool.false_eq_true, if_true, if_false,
        List.nil_append, List.cons_append, List.cons.injEq] at text ⊢
    · exact ⟨trivial, text⟩
    · rw [text.1] at leading
      cases leading
    · rw [← text.1] at leading'
      cases leading'
    · exact ⟨trivial, text.2⟩
  obtain ⟨mantissas, scales⟩ := unsigned_inj digits
  cases left
  cases right
  simp_all

end Decimal

structure DecimalOps where
  checkedAdd : Decimal → Decimal → Option Decimal
  checkedSub : Decimal → Decimal → Option Decimal

/-- What the ledger relies on: a result that is returned is exact, and a
difference is refused only when it overflows, which one between zero and the
minuend does not. -/
structure DecimalOps.Exact (ops : DecimalOps) : Prop where
  add : ∀ {left right result}, ops.checkedAdd left right = some result →
    result.toRat = left.toRat + right.toRat
  sub : ∀ {left right result}, ops.checkedSub left right = some result →
    result.toRat = left.toRat - right.toRat
  sub_defined : ∀ {left right : Decimal}, 0 ≤ right.toRat → right.toRat ≤ left.toRat →
    ∃ result, ops.checkedSub left right = some result

def Decimal.ofSigned (mantissa : Int) (scale : Nat) : Decimal :=
  ⟨decide (mantissa < 0), mantissa.natAbs, scale⟩

theorem Decimal.signed_ofSigned (mantissa : Int) (scale : Nat) :
    (Decimal.ofSigned mantissa scale).signed = mantissa := by
  unfold ofSigned signed
  dsimp only
  split
  · next negative =>
      have := of_decide_eq_true negative
      omega
  · next negative =>
      have : ¬ mantissa < 0 := fun below => negative (decide_eq_true below)
      omega

def Decimal.rescaled (value : Decimal) (scale : Nat) : Int :=
  value.signed * 10 ^ (scale - value.scale)

theorem Decimal.toRat_eq_rescaled (value : Decimal) {scale : Nat} (finer : value.scale ≤ scale) :
    value.toRat = (value.rescaled scale : ℚ) / 10 ^ scale := by
  unfold toRat rescaled
  obtain ⟨extra, rfl⟩ := Nat.exists_eq_add_of_le finer
  rw [Nat.add_sub_cancel_left, pow_add]
  push_cast
  field_simp

/-- Arithmetic at the finer of the two scales, as long as nothing overflows. -/
def DecimalOps.aligned : DecimalOps where
  checkedAdd left right :=
    let scale := max left.scale right.scale
    some (.ofSigned (left.rescaled scale + right.rescaled scale) scale)
  checkedSub left right :=
    let scale := max left.scale right.scale
    some (.ofSigned (left.rescaled scale - right.rescaled scale) scale)

theorem DecimalOps.aligned_exact : aligned.Exact where
  add := by
    rintro left right _ ⟨rfl⟩
    rw [left.toRat_eq_rescaled (le_max_left _ _), right.toRat_eq_rescaled (le_max_right _ _)]
    rw [Decimal.toRat, Decimal.signed_ofSigned, ← add_div]
    push_cast
    rfl
  sub := by
    rintro left right _ ⟨rfl⟩
    rw [left.toRat_eq_rescaled (le_max_left _ _), right.toRat_eq_rescaled (le_max_right _ _)]
    rw [Decimal.toRat, Decimal.signed_ofSigned, ← sub_div]
    push_cast
    rfl
  sub_defined := fun _ _ => ⟨_, rfl⟩

def Currency.validCode (code : String) : Bool :=
  2 ≤ code.utf8ByteSize && code.utf8ByteSize ≤ 10 &&
    code.toList.all fun char => char.isUpper || char.isDigit

/-- Upper-case ASCII letters and digits, 2 to 10 of them. -/
structure Currency where
  code : String
  valid : Currency.validCode code = true
deriving DecidableEq

inductive MoneyError where
  | invalidCurrency (code : String)
  | currencyMismatch (left right : Currency)
  | overflow
deriving DecidableEq

def MoneyError.toString : MoneyError → String
  | .invalidCurrency code => "invalid currency `" ++ code ++ "`"
  | .currencyMismatch left right => s!"currency mismatch: {left.code} vs {right.code}"
  | .overflow => "arithmetic overflow"

def Currency.new (code : String) : Except MoneyError Currency :=
  if valid : Currency.validCode code = true then .ok ⟨code, valid⟩
  else .error (.invalidCurrency code)

structure Money where
  amount : Decimal
  currency : Currency
deriving DecidableEq

namespace Money

/-- `PartialEq for Money`: the same currency and numerically the same amount. -/
instance : BEq Money :=
  ⟨fun left right => left.amount == right.amount && left.currency == right.currency⟩

def value (money : Money) : ℚ := money.amount.toRat

def zero (currency : Currency) : Money := ⟨.zero, currency⟩

def isNegative (money : Money) : Bool :=
  money.amount.isSignNegative && !money.amount.isZero

def toString (money : Money) : String :=
  s!"{money.amount.toString} {money.currency.code}"

def ensureSameCurrency (left right : Money) : Except MoneyError Unit :=
  if left.currency = right.currency then .ok ()
  else .error (.currencyMismatch left.currency right.currency)

/-- The body `checked_add` and `checked_sub` share. -/
def checked (op : Decimal → Decimal → Option Decimal) (left right : Money) :
    Except MoneyError Money := do
  left.ensureSameCurrency right
  match op left.amount right.amount with
  | none => .error .overflow
  | some amount => .ok ⟨amount, left.currency⟩

def checkedAdd (ops : DecimalOps) (left right : Money) : Except MoneyError Money :=
  left.checked ops.checkedAdd right

def checkedSub (ops : DecimalOps) (left right : Money) : Except MoneyError Money :=
  left.checked ops.checkedSub right

def cmpSameCurrency (left right : Money) : Except MoneyError Ordering := do
  left.ensureSameCurrency right
  return left.amount.cmp right.amount

@[simp] theorem zero_value (currency : Currency) : (zero currency).value = 0 := by
  simp [zero, value, Decimal.toRat, Decimal.zero, Decimal.signed]

theorem beq_iff (left right : Money) :
    (left == right) = true ↔ left.value = right.value ∧ left.currency = right.currency := by
  change (left.amount == right.amount && left.currency == right.currency) = true ↔ _
  rw [Bool.and_eq_true, Decimal.beq_iff, beq_iff_eq]
  rfl

instance : ReflBEq Money where
  rfl := by
    intro money
    rw [beq_iff]
    exact ⟨rfl, rfl⟩

theorem isNegative_iff (money : Money) : money.isNegative = true ↔ money.value < 0 :=
  Decimal.negative_iff money.amount

theorem not_isNegative_iff (money : Money) : money.isNegative = false ↔ 0 ≤ money.value := by
  rw [← not_lt, ← isNegative_iff, Bool.not_eq_true]

section Arithmetic

variable {ops : DecimalOps} {left right result : Money}

theorem checked_eq_ok {op : Decimal → Decimal → Option Decimal} :
    left.checked op right = .ok result ↔
      left.currency = right.currency ∧ result.currency = left.currency ∧
        op left.amount right.amount = some result.amount := by
  unfold checked ensureSameCurrency
  by_cases same : left.currency = right.currency
  · rw [if_pos same]
    cases op left.amount right.amount with
    | none => simp [bind, Except.bind]
    | some amount =>
        obtain ⟨resultAmount, resultCurrency⟩ := result
        simp only [bind, Except.bind, Except.ok.injEq, Money.mk.injEq, Option.some.injEq]
        constructor
        · rintro ⟨rfl, rfl⟩
          exact ⟨same, rfl, rfl⟩
        · rintro ⟨-, rfl, rfl⟩
          exact ⟨rfl, rfl⟩
  · simp [same, bind, Except.bind]

theorem checkedAdd_value (exact : ops.Exact) (added : left.checkedAdd ops right = .ok result) :
    result.value = left.value + right.value :=
  exact.add (checked_eq_ok.mp added).2.2

theorem checkedSub_value (exact : ops.Exact)
    (subtracted : left.checkedSub ops right = .ok result) :
    result.value = left.value - right.value :=
  exact.sub (checked_eq_ok.mp subtracted).2.2

theorem checkedSub_defined (exact : ops.Exact) (same : left.currency = right.currency)
    (nonnegative : 0 ≤ right.value) (covered : right.value ≤ left.value) :
    ∃ result, left.checkedSub ops right = .ok result ∧ result.isNegative = false := by
  obtain ⟨amount, difference⟩ := exact.sub_defined nonnegative covered
  refine ⟨⟨amount, left.currency⟩, checked_eq_ok.mpr ⟨same, rfl, difference⟩, ?_⟩
  have value := exact.sub difference
  rw [not_isNegative_iff]
  change 0 ≤ amount.toRat
  have : right.amount.toRat ≤ left.amount.toRat := covered
  linarith

theorem cmpSameCurrency_eq_ok {order : Ordering} :
    left.cmpSameCurrency right = .ok order ↔
      left.currency = right.currency ∧ left.amount.cmp right.amount = order := by
  unfold cmpSameCurrency ensureSameCurrency
  by_cases same : left.currency = right.currency <;>
    simp [same, bind, Except.bind, pure, Except.pure]

theorem value_le_of_cmp {order : Ordering} (compared : left.cmpSameCurrency right = .ok order)
    (notGreater : order ≠ .gt) : left.value ≤ right.value := by
  obtain ⟨-, rfl⟩ := cmpSameCurrency_eq_ok.mp compared
  rw [Ne, Decimal.cmp_eq_gt_iff, not_lt] at notGreater
  exact notGreater

end Arithmetic

end Money

end MandateLedger.Core
