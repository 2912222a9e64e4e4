import MandateLedger.Core.Event

namespace MandateLedger.Core

open MandateLedger.Data

/-- Rust's `str::trim`, on the characters. -/
def trim (text : List Char) : List Char := trimStart (trimEnd text)

structure Trimmed (text : List Char) : Prop where
  first : ∀ char, text.head? = some char → isWhitespace char = false
  last : ∀ char, text.getLast? = some char → isWhitespace char = false

theorem trimmed_trim (text : List Char) : Trimmed (trim text) := by
  constructor
  · intro char found
    have nonempty : trimStart (trimEnd text) ≠ [] := by
      intro empty
      simp [trim, empty] at found
    rw [trim, List.head?_eq_some_head nonempty, Option.some.injEq] at found
    rw [← found]
    exact List.head_dropWhile_not _ nonempty
  · intro char found
    -- what is left after the start is dropped ends as before
    obtain ⟨dropped, split⟩ := List.dropWhile_suffix (l := trimEnd text) isWhitespace
    have nonempty : trimEnd text ≠ [] := by
      intro empty
      simp [trim, trimStart, empty] at found
    have ending : (trimEnd text).getLast? = some char := by
      have kept : (List.dropWhile isWhitespace (trimEnd text)).getLast? = some char := found
      rw [← split, List.getLast?_append, kept, Option.some_or]
    rw [List.getLast?_eq_some_getLast nonempty, Option.some.injEq] at ending
    rw [← ending, ← Bool.not_eq_true]
    exact List.rdropWhile_last_not isWhitespace text nonempty

theorem Trimmed.trim_eq {text : List Char} (trimmed : Trimmed text) : trim text = text := by
  have kept : trimEnd text = text := by
    rw [trimEnd, List.rdropWhile_eq_self_iff]
    intro nonempty
    simp [trimmed.last _ (List.getLast?_eq_some_getLast nonempty)]
  rw [trim, kept, trimStart, List.dropWhile_eq_self_iff]
  intro nonempty
  simp [trimmed.first _ (List.head?_eq_getElem? ▸ List.getElem?_eq_getElem nonempty)]

/-- Only the 26 capitals have another lower case. -/
theorem toLower_cases (char : Char) :
    char.toLower = char ∨ ∃ letter : Fin 26, char = Char.ofNat (65 + letter) := by
  by_cases upper : char.val ≥ 'A'.val ∧ char.val ≤ 'Z'.val
  · right
    have low : 65 ≤ char.toNat := upper.1
    have high : char.toNat ≤ 90 := upper.2
    refine ⟨⟨char.toNat - 65, by omega⟩, ?_⟩
    simp only [Nat.add_sub_cancel' low, Char.ofNat_toNat]
  · exact .inl (dif_neg upper)

@[simp] theorem toLower_toLower (char : Char) : char.toLower.toLower = char.toLower := by
  rcases toLower_cases char with same | ⟨letter, rfl⟩
  · rw [same, same]
  · revert letter
    decide

@[simp] theorem isWhitespace_toLower (char : Char) :
    isWhitespace char.toLower = isWhitespace char := by
  rcases toLower_cases char with same | ⟨letter, rfl⟩
  · rw [same]
  · revert letter
    decide

theorem Trimmed.map_toLower {text : List Char} (trimmed : Trimmed text) :
    Trimmed (text.map Char.toLower) := by
  constructor
  · intro char found
    rw [List.head?_map, Option.map_eq_some_iff] at found
    obtain ⟨original, first, rfl⟩ := found
    rw [isWhitespace_toLower]
    exact trimmed.first original first
  · intro char found
    rw [List.getLast?_map, Option.map_eq_some_iff] at found
    obtain ⟨original, last, rfl⟩ := found
    rw [isWhitespace_toLower]
    exact trimmed.last original last

/-- Text that `parse` and `lowercase_trimmed` leave as it is. -/
structure Plain (text : List Char) : Prop where
  trimmed : Trimmed text
  lower : text.map Char.toLower = text

theorem Plain.trim_toLower {text : List Char} (plain : Plain text) :
    (trim text).map Char.toLower = text := by
  rw [plain.trimmed.trim_eq, plain.lower]

theorem plain_toLower_trim (text : List Char) : Plain ((trim text).map Char.toLower) where
  trimmed := (trimmed_trim text).map_toLower
  lower := by simp [Function.comp_def]

theorem plain_trim_toLower (text : List Char) : Plain (trim (text.map Char.toLower)) where
  trimmed := trimmed_trim _
  lower := by
    rw [List.map_congr_left (g := id), List.map_id]
    intro char listed
    have kept : char ∈ text.map Char.toLower :=
      (List.rdropWhile_prefix _ _).subset ((List.dropWhile_suffix _).subset listed)
    obtain ⟨original, -, rfl⟩ := List.mem_map.mp kept
    exact toLower_toLower original

theorem plain_of_forall {text : List Char}
    (plain : ∀ char ∈ text, char.toLower = char ∧ isWhitespace char = false) : Plain text where
  trimmed :=
    ⟨fun char first => (plain char (List.mem_of_head? first)).2,
      fun char last => (plain char (List.mem_of_getLast? last)).2⟩
  lower := by rw [List.map_congr_left fun char member => (plain char member).1, List.map_id']

theorem Plain.lowercaseTrimmed_eq {text : String} (plain : Plain text.toList) :
    lowercaseTrimmed text = text := by
  change String.ofList (trim (text.toList.map Char.toLower)) = text
  rw [plain.lower, plain.trimmed.trim_eq, String.ofList_toList]

theorem lowercaseTrimmed_idempotent (text : String) :
    lowercaseTrimmed (lowercaseTrimmed text) = lowercaseTrimmed text := by
  apply Plain.lowercaseTrimmed_eq
  change Plain (String.ofList (trim (text.toList.map Char.toLower))).toList
  rw [String.toList_ofList]
  exact plain_trim_toLower text.toList

theorem IdKind.normalize_idempotent (kind : IdKind) (text : String) :
    kind.normalize (kind.normalize text) = kind.normalize text := by
  cases kind with
  | merchant | category => exact lowercaseTrimmed_idempotent text
  | mandate | principal | agent | context => rfl

/-- An identifier passes its own check. -/
@[simp] theorem StringId.new_val {kind : IdKind} (id : StringId kind) :
    StringId.new kind id.val = .ok id := by
  have normal : kind.normalize id.val = id.val := by
    obtain ⟨raw, made⟩ := id.normal
    rw [← made, kind.normalize_idempotent]
  unfold StringId.new
  simp only [normal]
  rw [dif_pos ⟨id.nonempty, id.bounded⟩]

@[simp] theorem Currency.new_code (currency : Currency) :
    Currency.new currency.code = .ok currency := dif_pos currency.valid

namespace MerchantPattern

/-- `Display`. -/
def toString : MerchantPattern → String
  | .any => "*"
  | .exact merchant => String.ofList ((trim merchant.toList).map Char.toLower)
  | .suffix ending => "*" ++ String.ofList ((trim ending.toList).map Char.toLower)

/-- A pattern that came from `parse`. -/
def Parsed (pattern : MerchantPattern) : Prop := ∃ text, parse text = .ok pattern

/-- What `parse` makes of a text without its case and surrounding space. -/
def read (text : List Char) : Option MerchantPattern :=
  if text = [] then none
  else if text = ['*'] then some .any
  else
    match text with
    | '*' :: '.' :: rest =>
        if rest = [] ∨ '*' ∈ rest then none else some (.suffix (String.ofList ('.' :: rest)))
    | _ => if '*' ∈ text then none else some (.exact (String.ofList text))

theorem parse_eq_ok {text : String} {pattern : MerchantPattern} :
    parse text = .ok pattern ↔ read ((trim text.toList).map Char.toLower) = some pattern := by
  have unfolded : parse text = ((read ((trim text.toList).map Char.toLower)).elim
      (.error (.invalidMerchantPattern text)) .ok) := by
    change _ = (read ((trimStart (trimEnd text.toList)).map Char.toLower)).elim _ _
    unfold parse read
    dsimp only
    split
    · rfl
    · split
      · rfl
      · split <;> split <;> simp_all
  rw [unfolded]
  cases read ((trim text.toList).map Char.toLower) <;> simp

/-- The three forms `parse` knows. -/
theorem read_cases {text : List Char} {pattern : MerchantPattern}
    (reads : read text = some pattern) :
    (text = ['*'] ∧ pattern = .any) ∨
    (∃ rest, text = '*' :: '.' :: rest ∧ '*' ∉ rest ∧
      pattern = .suffix (String.ofList ('.' :: rest))) ∨
    (text ≠ [] ∧ '*' ∉ text ∧ pattern = .exact (String.ofList text)) := by
  unfold read at reads
  split at reads
  · cases reads
  · next nonempty =>
      split at reads
      · next star =>
          cases reads
          exact .inl ⟨star, rfl⟩
      · split at reads
        · next rest _ =>
            split at reads
            · cases reads
            · next valid =>
                cases reads
                exact .inr (.inl ⟨rest, rfl, fun star => valid (.inr star), rfl⟩)
        · split at reads
          · cases reads
          · next plainly =>
              cases reads
              exact .inr (.inr ⟨nonempty, plainly, rfl⟩)

/-- The ending of a pattern starts with a dot and ends as the pattern does. -/
theorem plain_ending {rest : List Char} (plain : Plain ('*' :: '.' :: rest)) :
    Plain ('.' :: rest) := by
  have lower := plain.lower
  simp only [List.map_cons, List.cons.injEq] at lower
  refine ⟨⟨?_, ?_⟩, by simp [lower.2.2]⟩
  · intro char first
    cases first
    decide
  · intro char last
    apply plain.trimmed.last char
    rw [List.getLast?_cons_cons]
    exact last

theorem toString_of_read {text : List Char} {pattern : MerchantPattern} (plain : Plain text)
    (reads : read text = some pattern) : pattern.toString.toList = text := by
  obtain ⟨rfl, rfl⟩ | ⟨rest, rfl, -, rfl⟩ | ⟨-, -, rfl⟩ := read_cases reads
  · rfl
  · simp only [toString, String.toList_append, String.toList_ofList,
      (plain_ending plain).trim_toLower]
    rfl
  · simp only [toString, String.toList_ofList, plain.trim_toLower]

/-- A pattern that came from `parse` survives being written and read. -/
theorem Parsed.parse_toString {pattern : MerchantPattern} (parsed : pattern.Parsed) :
    parse pattern.toString = .ok pattern := by
  obtain ⟨text, made⟩ := parsed
  have plain := plain_toLower_trim text.toList
  have reads := parse_eq_ok.mp made
  rw [parse_eq_ok, toString_of_read plain reads, plain.trim_toLower]
  exact reads

end MerchantPattern

end MandateLedger.Core
