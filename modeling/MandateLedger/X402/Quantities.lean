import MandateLedger.X402.Rail
import Mathlib.Data.Nat.Digits.Lemmas

namespace MandateLedger.X402

open MandateLedger.Core MandateLedger.Data

/-- The number that hex digits denote, the first digit the most significant. -/
def hexValue (digits : List Char) : Option Nat :=
  (digits.mapM digitValue).map fun values => Nat.ofDigits 16 values.reverse

/-- `text` is `0x` and 1 to 16 hex digits, whose value is `number`. -/
def IsQuantity (text : String) (number : UInt64) : Prop :=
  ∃ digits, text.toList = "0x".toList ++ digits ∧ 1 ≤ digits.length ∧ digits.length ≤ 16 ∧
    hexValue digits = some number.toNat

/-- `text` is `0x`, a plus sign and 1 to 15 hex digits, whose value is `number`. -/
def IsSignedQuantity (text : String) (number : UInt64) : Prop :=
  ∃ digits, text.toList = "0x+".toList ++ digits ∧ 1 ≤ digits.length ∧ digits.length ≤ 15 ∧
    hexValue digits = some number.toNat

theorem digitValue_eq_some {char : Char} {value : Nat} (digit : digitValue char = some value) :
    value < 16 ∧ char.utf8Size = 1 := by
  have bounds : value < 16 ∧ char.toNat ≤ 127 := by
    simp only [digitValue, Char.le_def, UInt32.le_iff_toNat_le] at digit
    change (if 48 ≤ char.toNat ∧ char.toNat ≤ 57 then some (char.toNat - 48)
      else if 97 ≤ char.toNat ∧ char.toNat ≤ 102 then some (char.toNat - 97 + 10)
      else if 65 ≤ char.toNat ∧ char.toNat ≤ 70 then some (char.toNat - 65 + 10)
      else none) = some value at digit
    split_ifs at digit with decimal lower upper
    all_goals
      simp only [Option.some.injEq] at digit
      omega
  refine ⟨bounds.1, ?_⟩
  rw [Char.utf8Size_eq_one_iff, UInt32.le_iff_toNat_le]
  exact bounds.2

theorem filter_digitValue (char : Char) :
    (digitValue char).filter (· < 16) = digitValue char := by
  cases digit : digitValue char with
  | none => rfl
  | some value =>
      have small := (digitValue_eq_some digit).1
      simp [small]

theorem positional_eq_ofDigits (radix : Nat) (digits : List Nat) :
    positional radix digits = Nat.ofDigits radix digits.reverse := by
  rw [positional, Nat.ofDigits_eq_foldr, List.foldr_reverse]
  congr 1
  funext value digit
  rw [Nat.cast_id, Nat.add_comm, Nat.mul_comm]

theorem mapM_digitValue_eq_some {digits : List Char} {values : List Nat}
    (read : digits.mapM digitValue = some values) :
    (String.ofList digits).utf8ByteSize = digits.length ∧ values.length = digits.length ∧
      ∀ value ∈ values, value < 16 := by
  induction digits generalizing values with
  | nil =>
      cases read
      simp
  | cons char rest ih =>
      rw [List.mapM_cons] at read
      obtain ⟨value, first, read⟩ := Option.bind_eq_some_iff.mp read
      obtain ⟨others, tail, read⟩ := Option.bind_eq_some_iff.mp read
      cases read
      obtain ⟨size, length, small⟩ := ih tail
      obtain ⟨digit, ascii⟩ := digitValue_eq_some first
      refine ⟨?_, by simp [length], by simpa using ⟨digit, small⟩⟩
      rw [utf8ByteSize_cons, size, ascii, List.length_cons, Nat.add_comm]

/-- Hex digits are one byte each, and denote a number below a power of sixteen. -/
theorem hexValue_eq_some {digits : List Char} {number : Nat}
    (denotes : hexValue digits = some number) :
    (String.ofList digits).utf8ByteSize = digits.length ∧ number < 16 ^ digits.length := by
  obtain ⟨values, read, rfl⟩ := Option.map_eq_some_iff.mp denotes
  obtain ⟨size, length, small⟩ := mapM_digitValue_eq_some read
  refine ⟨size, ?_⟩
  rw [← length, ← List.length_reverse]
  apply Nat.ofDigits_lt_base_pow_length (by decide)
  intro value listed
  exact small value (List.mem_reverse.mp listed)

/-- `from_str_radix` reads hex digits with a plus sign or without. -/
theorem fromStrRadix_hex {bound number : Nat} {text : List Char} :
    fromStrRadix bound 16 text = some number ↔
      stripPlus text ≠ [] ∧ hexValue (stripPlus text) = some number ∧ number < bound := by
  unfold fromStrRadix hexValue
  simp only [filter_digitValue]
  by_cases empty : stripPlus text = []
  · simp [empty]
  · rw [if_neg empty]
    cases read : (stripPlus text).mapM digitValue with
    | none => simp
    | some values =>
        simp only [Option.bind_eq_bind, Option.bind_some, Option.map_some, positional_eq_ofDigits,
          Option.some.injEq, Option.ite_none_right_eq_some]
        constructor
        · intro given
          obtain ⟨small, same⟩ := given
          exact ⟨empty, same, same ▸ small⟩
        · intro given
          obtain ⟨_, same, small⟩ := given
          exact ⟨same ▸ small, same⟩

theorem strip0x_eq_some {text : String} {hex : List Char} :
    strip0x text = some hex ↔ text.toList = "0x".toList ++ hex := by
  change _ ↔ text.toList = '0' :: 'x' :: hex
  unfold strip0x
  split
  · next rest start => simp [start]
  · next other =>
      simp only [reduceCtorEq, false_iff]
      intro start
      exact other hex start

theorem quantity_eq_some {text : String} {number : UInt64} :
    quantity text = some number ↔
      ∃ hex, text.toList = "0x".toList ++ hex ∧ hex ≠ [] ∧
        (String.ofList hex).utf8ByteSize ≤ 16 ∧ stripPlus hex ≠ [] ∧
        hexValue (stripPlus hex) = some number.toNat := by
  unfold quantity
  simp only [Option.bind_eq_bind, Option.bind_eq_some_iff, strip0x_eq_some]
  refine exists_congr fun hex => and_congr_right fun _ => ?_
  by_cases refused : hex = [] ∨ 16 < (String.ofList hex).utf8ByteSize
  · rw [if_pos refused]
    simp only [reduceCtorEq, false_iff]
    intro given
    obtain ⟨nonempty, short, _⟩ := given
    rcases refused with empty | long
    · exact nonempty empty
    · omega
  · rw [if_neg refused]
    obtain ⟨nonempty, short⟩ := not_or.mp refused
    simp only [Option.bind_eq_some_iff, fromStrRadix_hex]
    constructor
    · intro given
      obtain ⟨value, ⟨digits, denotes, small⟩, same⟩ := given
      cases same
      refine ⟨nonempty, by omega, digits, ?_⟩
      rw [denotes, UInt64.toNat_ofNat_of_lt' small]
    · intro given
      obtain ⟨_, _, digits, denotes⟩ := given
      refine ⟨number.toNat, ⟨digits, denotes, number.toNat_lt_size⟩, ?_⟩
      exact congrArg some UInt64.ofNat_toNat

theorem stripPlus_cases (hex : List Char) :
    (∃ rest, hex = '+' :: rest ∧ stripPlus hex = rest) ∨ stripPlus hex = hex := by
  unfold stripPlus
  split
  · next rest => exact .inl ⟨rest, rfl, rfl⟩
  · exact .inr rfl

theorem stripPlus_of_hexValue {digits : List Char} {number : Nat}
    (denotes : hexValue digits = some number) : stripPlus digits = digits := by
  rcases stripPlus_cases digits with ⟨rest, rfl, -⟩ | same
  · obtain ⟨values, read, -⟩ := Option.map_eq_some_iff.mp denotes
    rw [List.mapM_cons] at read
    obtain ⟨value, sign, -⟩ := Option.bind_eq_some_iff.mp read
    cases sign
  · exact same

/-- A text is a quantity to the code when it is one, or has a plus sign behind `0x`. -/
theorem quantity_cases {text : String} {number : UInt64} :
    quantity text = some number ↔ IsQuantity text number ∨ IsSignedQuantity text number := by
  rw [quantity_eq_some]
  constructor
  · intro given
    obtain ⟨hex, start, nonempty, short, digits, denotes⟩ := given
    have size := (hexValue_eq_some denotes).1
    have more := List.length_pos_iff.mpr digits
    rcases stripPlus_cases hex with ⟨rest, rfl, stripped⟩ | unsigned
    · -- the sign takes one of the sixteen bytes
      rw [stripped] at size more denotes
      rw [utf8ByteSize_cons, size] at short
      have sign : '+'.utf8Size = 1 := rfl
      exact .inr ⟨rest, start, more, by omega, denotes⟩
    · rw [unsigned] at size more denotes
      exact .inl ⟨hex, start, more, by omega, denotes⟩
  · intro read
    rcases read with ⟨digits, start, more, short, denotes⟩ | ⟨digits, start, more, short, denotes⟩
    · have size := (hexValue_eq_some denotes).1
      have nonempty := List.length_pos_iff.mp more
      have unsigned := stripPlus_of_hexValue denotes
      exact ⟨digits, start, nonempty, by omega, by rwa [unsigned], by rwa [unsigned]⟩
    · have size := (hexValue_eq_some denotes).1
      have sign : '+'.utf8Size = 1 := rfl
      refine ⟨'+' :: digits, start, by simp, ?_, List.length_pos_iff.mp more, denotes⟩
      rw [utf8ByteSize_cons, size]
      omega

theorem IsQuantity.not_signed {text : String} {number other : UInt64}
    (plain : IsQuantity text number) : ¬ IsSignedQuantity text other := by
  intro given
  obtain ⟨digits, signed, _⟩ := given
  obtain ⟨hex, start, -, -, denotes⟩ := plain
  have same : hex = '+' :: digits := List.append_cancel_left (start.symm.trans signed)
  have unsigned := stripPlus_of_hexValue denotes
  rw [same] at unsigned
  exact absurd (congrArg List.length unsigned) (by simp [stripPlus])

/-- Hex quantities are parsed exactly, unless there is a plus sign. -/
theorem quantity_exact_iff (text : String) :
    (∀ number, quantity text = some number ↔ IsQuantity text number) ↔
      ∀ number, ¬ IsSignedQuantity text number := by
  constructor
  · intro exact number signed
    have plain := (exact number).mp (quantity_cases.mpr (.inr signed))
    exact plain.not_signed signed
  · intro unsigned number
    rw [quantity_cases]
    exact or_iff_left (unsigned number)

/-- `0x+f` is read as fifteen, and is no quantity. -/
theorem quantity_reads_sign : quantity "0x+f" = some 15 ∧ ¬ IsQuantity "0x+f" 15 := by
  refine ⟨by decide +kernel, ?_⟩
  intro given
  obtain ⟨digits, start, _, _, denotes⟩ := given
  have split : "0x".toList ++ ['+', 'f'] = "0x".toList ++ digits := start
  rw [← List.append_cancel_left split] at denotes
  cases denotes

end MandateLedger.X402
