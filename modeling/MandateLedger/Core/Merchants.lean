import MandateLedger.Core.Delegation
import MandateLedger.Core.Texts

namespace MandateLedger.Core

open MandateLedger.Data

theorem trimStart_map_toLower (text : List Char) :
    trimStart (text.map Char.toLower) = (trimStart text).map Char.toLower := by
  have same : isWhitespace ∘ Char.toLower = isWhitespace := by
    funext char
    exact isWhitespace_toLower char
  rw [trimStart, List.dropWhile_map, same, trimStart]

theorem trimEnd_map_toLower (text : List Char) :
    trimEnd (text.map Char.toLower) = (trimEnd text).map Char.toLower := by
  have reversed := trimStart_map_toLower text.reverse
  simp only [trimStart] at reversed
  simp only [trimEnd, List.rdropWhile, ← List.map_reverse, reversed]

/-- The two normalizers agree: lower case keeps white space apart from text. -/
theorem trim_map_toLower (text : List Char) :
    trim (text.map Char.toLower) = (trim text).map Char.toLower := by
  rw [trim, trimEnd_map_toLower, trimStart_map_toLower, trim]

/-- Every plain text of the right size is a merchant id. -/
def MerchantId.ofPlain (text : List Char) (plain : Plain text)
    (nonempty : 0 < (String.ofList text).utf8ByteSize)
    (bounded : (String.ofList text).utf8ByteSize ≤ 256) : MerchantId where
  val := String.ofList text
  nonempty := nonempty
  bounded := bounded
  normal := ⟨String.ofList text, Plain.lowercaseTrimmed_eq (by rwa [String.toList_ofList])⟩

/-- A text that ends in another and is no longer is the other. -/
theorem eq_of_suffix_of_size_le {text ending : List Char} (suffix : ending <:+ text)
    (size : (String.ofList text).utf8ByteSize ≤ (String.ofList ending).utf8ByteSize) :
    ending = text := by
  obtain ⟨front, rfl⟩ := suffix
  cases front with
  | nil => rfl
  | cons char front =>
      have more := char.utf8Size_pos
      rw [String.ofList_append, String.utf8ByteSize_append, utf8ByteSize_cons] at size
      omega

namespace MerchantPattern

theorem admits_suffix_iff {ending : String} {merchant : MerchantId} :
    (suffix ending).admitsMerchant merchant = true ↔
      ending.toList <:+ merchant.val.toList ∧ ending ≠ merchant.val := by
  simp only [admitsMerchant, Bool.and_eq_true, decide_eq_true_eq, endsWith_iff]
  constructor
  · intro given
    obtain ⟨shorter, ends⟩ := given
    refine ⟨ends, fun same => ?_⟩
    rw [same] at shorter
    omega
  · intro given
    obtain ⟨ends, other⟩ := given
    refine ⟨?_, ends⟩
    by_contra longer
    apply other
    apply String.toList_injective
    apply eq_of_suffix_of_size_le ends
    simpa using longer

/-- A pattern from `parse` with what it was read from: a plain text. -/
theorem Parsed.cases {pattern : MerchantPattern} (parsed : pattern.Parsed) :
    pattern = .any ∨
    (∃ text, Plain text ∧ text ≠ [] ∧ pattern = .exact (String.ofList text)) ∨
    (∃ rest, Plain ('.' :: rest) ∧ rest ≠ [] ∧ pattern = .suffix (String.ofList ('.' :: rest))) := by
  obtain ⟨text, made⟩ := parsed
  have plain := plain_toLower_trim text.toList
  have reads := parse_eq_ok.mp made
  obtain ⟨-, rfl⟩ | ⟨rest, form, -, rfl⟩ | ⟨nonempty, -, rfl⟩ := read_cases reads
  · exact .inl rfl
  · rw [form] at plain reads
    refine .inr (.inr ⟨rest, plain_ending plain, fun empty => ?_, rfl⟩)
    subst empty
    cases reads
  · exact .inr (.inl ⟨_, plain, nonempty, rfl⟩)

theorem plain_cons {letter : Char} {text : List Char} (plain : Plain text)
    (visible : isWhitespace letter = false) (lower : letter.toLower = letter) :
    Plain (letter :: text) := by
  refine ⟨⟨?_, ?_⟩, by rw [List.map_cons, lower, plain.lower]⟩
  · intro char first
    cases first
    exact visible
  · intro char last
    cases text with
    | nil =>
        cases last
        exact visible
    | cons next rest =>
        rw [List.getLast?_cons_cons] at last
        exact plain.trimmed.last char last

theorem plain_nil : Plain [] := by
  refine ⟨⟨?_, ?_⟩, rfl⟩ <;>
  · intro char first
    cases first

/-- A letter in front of an ending that some merchant id has is a merchant id with that
ending. -/
theorem exists_admitted {ending : List Char} (plain : Plain ending)
    (inhabited : ∃ merchant, (suffix (String.ofList ending)).admitsMerchant merchant = true)
    (letter : Char) (visible : isWhitespace letter = false) (lower : letter.toLower = letter)
    (ascii : letter.utf8Size = 1) :
    ∃ merchant, (suffix (String.ofList ending)).admitsMerchant merchant = true ∧
      merchant.val = String.ofList (letter :: ending) := by
  obtain ⟨other, admitted⟩ := inhabited
  have bounded : (String.ofList (letter :: ending)).utf8ByteSize ≤ 256 := by
    simp only [admitsMerchant, Bool.and_eq_true, decide_eq_true_eq] at admitted
    have room := other.bounded
    rw [utf8ByteSize_cons]
    omega
  have nonempty : 0 < (String.ofList (letter :: ending)).utf8ByteSize := by
    rw [utf8ByteSize_cons]
    omega
  refine ⟨MerchantId.ofPlain _ (plain_cons plain visible lower) nonempty bounded, ?_, rfl⟩
  rw [admits_suffix_iff]
  refine ⟨by simp [MerchantId.ofPlain], fun same => ?_⟩
  have size := congrArg String.utf8ByteSize same
  simp only [MerchantId.ofPlain, utf8ByteSize_cons] at size
  omega

def letterA : MerchantId := MerchantId.ofPlain ['a'] (plain_cons plain_nil rfl rfl) (by decide) (by decide)

def letterB : MerchantId := MerchantId.ofPlain ['b'] (plain_cons plain_nil rfl rfl) (by decide) (by decide)

theorem not_all_suffix {rest : List Char} (nonempty : rest ≠ []) :
    (suffix (String.ofList ('.' :: rest))).admitsMerchant letterA = false := by
  rw [← Bool.not_eq_true, admits_suffix_iff]
  intro given
  obtain ⟨ends, _⟩ := given
  have size := ends.length_le
  have more := List.length_pos_iff.mpr nonempty
  simp [letterA, MerchantId.ofPlain] at size
  contradiction

theorem isSubsetOf_complete {pattern other : MerchantPattern} (parsed : pattern.Parsed)
    (otherParsed : other.Parsed) (inhabited : ∃ merchant, pattern.admitsMerchant merchant = true)
    (included : ∀ merchant, pattern.admitsMerchant merchant = true →
      other.admitsMerchant merchant = true) :
    pattern.isSubsetOf other = true := by
  obtain rfl | ⟨name, -, -, rfl⟩ | ⟨ending, -, proper, rfl⟩ := otherParsed.cases
  · cases pattern <;> rfl
  · obtain rfl | ⟨left, -, -, rfl⟩ | ⟨rest, plain, -, rfl⟩ := parsed.cases
    · -- no single name is both letters
      have first := included letterA rfl
      have second := included letterB rfl
      simp only [admitsMerchant, beq_iff_eq] at first second
      exact absurd (first.symm.trans second) (by decide)
    · obtain ⟨merchant, admitted⟩ := inhabited
      have same := included merchant admitted
      simp only [admitsMerchant, beq_iff_eq] at admitted same
      simp only [isSubsetOf, beq_iff_eq]
      exact admitted.trans same.symm
    · -- nor are two names with this ending that start differently
      obtain ⟨first, admitted, firstName⟩ :=
        exists_admitted plain inhabited 'a' rfl rfl rfl
      obtain ⟨second, admitted', secondName⟩ :=
        exists_admitted plain inhabited 'b' rfl rfl rfl
      have left := included first admitted
      have right := included second admitted'
      simp only [admitsMerchant, beq_iff_eq] at left right
      have same := firstName.symm.trans (left.symm.trans (right.trans secondName))
      have chars := String.ofList_injective same
      simp at chars
  · obtain rfl | ⟨left, -, -, rfl⟩ | ⟨rest, plain, -, rfl⟩ := parsed.cases
    · have all := included letterA rfl
      rw [not_all_suffix proper] at all
      cases all
    · obtain ⟨merchant, admitted⟩ := inhabited
      have ends := included merchant admitted
      simp only [admitsMerchant, beq_iff_eq] at admitted
      rw [isSubsetOf, admitted]
      exact ends
    · -- one letter in front of the ending leaves room for nothing else
      obtain ⟨merchant, admitted, name⟩ :=
        exists_admitted plain inhabited 'a' rfl rfl rfl
      obtain ⟨ends, shorter⟩ := admits_suffix_iff.mp (included merchant admitted)
      rw [name] at ends shorter
      rw [String.toList_ofList, String.toList_ofList, List.suffix_cons_iff] at ends
      simp only [isSubsetOf, endsWith_iff, String.toList_ofList]
      rcases ends with same | ends
      · exact absurd (congrArg String.ofList same) shorter
      · exact ends

/-- Inclusion of patterns is inclusion of the merchants they stand for. -/
theorem isSubsetOf_iff_inclusion {pattern other : MerchantPattern} (parsed : pattern.Parsed)
    (otherParsed : other.Parsed)
    (inhabited : ∃ merchant : MerchantId, pattern.admitsMerchant merchant = true) :
    pattern.isSubsetOf other = true ↔
      ∀ merchant : MerchantId, pattern.admitsMerchant merchant = true →
        other.admitsMerchant merchant = true := by
  constructor
  · intro subset merchant admitted
    exact admitsMerchant_mono subset admitted
  · exact isSubsetOf_complete parsed otherParsed inhabited

theorem subdomains_isSubsetOf :
    (suffix ".zepto.com").isSubsetOf (suffix ".com") = true ∧
      ((suffix ".zepto.com").isSubsetOf (suffix ".com") = true ↔
        ∀ merchant : MerchantId, (suffix ".zepto.com").admitsMerchant merchant = true →
          (suffix ".com").admitsMerchant merchant = true) := by
  refine ⟨by decide, isSubsetOf_iff_inclusion ⟨"*.zepto.com", by decide⟩ ⟨"*.com", by decide⟩
    ⟨⟨"in.zepto.com", by decide, by decide, "in.zepto.com", by decide⟩, by decide⟩⟩

/-- However a pattern was built, it is written in the form `parse` reads. -/
theorem plain_toString (pattern : MerchantPattern) : Plain pattern.toString.toList := by
  cases pattern with
  | any => exact plain_cons plain_nil rfl rfl
  | exact name =>
      rw [toString, String.toList_ofList]
      exact plain_toLower_trim name.toList
  | suffix ending =>
      have star : (suffix ending).toString.toList =
          '*' :: (trim ending.toList).map Char.toLower := by
        simp [toString]
      rw [star]
      exact plain_cons (plain_toLower_trim ending.toList) rfl rfl

theorem toString_of_parse_toString {pattern other : MerchantPattern}
    (parsed : parse pattern.toString = .ok other) : other.toString = pattern.toString := by
  have plain := plain_toString pattern
  have reads := parse_eq_ok.mp parsed
  rw [plain.trim_toLower] at reads
  exact String.toList_injective (toString_of_read plain reads)

theorem read_of_starless {text : List Char} (nonempty : text ≠ []) (starless : '*' ∉ text) :
    read text = some (.exact (String.ofList text)) := by
  have notStar : text ≠ ['*'] := by
    intro star
    simp [star] at starless
  unfold read
  rw [if_neg nonempty, if_neg notStar]
  split
  · simp at starless
  · exact if_neg starless

theorem toLower_ne_star : ∀ letter : Fin 26, (Char.ofNat (65 + letter)).toLower ≠ '*' := by
  decide

/-- A merchant's name, read as a pattern, is the merchant's id. -/
theorem parse_of_new {text : String} {merchant : MerchantId} (starless : '*' ∉ text.toList)
    (made : StringId.new .merchant text = .ok merchant) :
    parse text = .ok (.exact merchant.val) := by
  have name : merchant.val.toList = (trim text.toList).map Char.toLower := by
    unfold StringId.new at made
    dsimp only at made
    split at made
    · cases made
      change (String.ofList (trim (text.toList.map Char.toLower))).toList = _
      rw [String.toList_ofList, trim_map_toLower]
    · cases made
  have nonempty : merchant.val.toList ≠ [] := by
    intro empty
    have size := merchant.nonempty
    rw [String.toList_eq_nil_iff.mp empty] at size
    cases size
  have kept : '*' ∉ merchant.val.toList := by
    rw [name, List.mem_map]
    intro given
    obtain ⟨char, listed, star⟩ := given
    have inside : char ∈ text.toList :=
      (List.rdropWhile_prefix _ _).subset ((List.dropWhile_suffix _).subset listed)
    rcases toLower_cases char with same | ⟨letter, rfl⟩
    · rw [same] at star
      exact starless (star ▸ inside)
    · exact toLower_ne_star letter star
  rw [parse_eq_ok, ← name, read_of_starless nonempty kept, String.ofList_toList]

def zepto : MerchantId := ⟨"zepto.com", by decide, by decide, "zepto.com", by decide⟩

/-- Merchant names mean the same in a mandate, on the wire and in a cart. -/
theorem names_agree :
    (∀ text pattern, parse text = .ok pattern → parse pattern.toString = .ok pattern) ∧
    (∀ pattern other, parse (toString pattern) = .ok other →
      other.toString = pattern.toString) ∧
    (∀ (text : String) (merchant : MerchantId), '*' ∉ text.toList →
      StringId.new .merchant text = .ok merchant →
      (∃ pattern, parse text = .ok pattern ∧
        ∀ other : MerchantId, pattern.admitsMerchant other = true ↔ other = merchant) ∧
      StringId.new .merchant merchant.val = .ok merchant) := by
  refine ⟨?_, ?_, ?_⟩
  · intro text pattern parsed
    exact Parsed.parse_toString ⟨text, parsed⟩
  · intro pattern other parsed
    exact toString_of_parse_toString parsed
  · intro text merchant starless made
    refine ⟨⟨_, parse_of_new starless made, fun other => ?_⟩, StringId.new_val merchant⟩
    simp only [admitsMerchant, beq_iff_eq]
    constructor
    · intro same
      exact (StringId.val_inj.mp same).symm
    · intro same
      rw [same]

/-- A sub-domain pattern, one built by hand with stray case, and a shop's name. -/
theorem zepto_names_agree :
    parse (toString (.suffix ".zepto.com")) = .ok (.suffix ".zepto.com") ∧
    toString (.suffix ".zepto.com") = toString (.suffix " .Zepto.com ") ∧
    (∃ pattern, parse " Zepto.com" = .ok pattern ∧
      ∀ other : MerchantId, pattern.admitsMerchant other = true ↔ other = zepto) := by
  refine ⟨names_agree.1 " *.Zepto.com" _ (by decide), ?_, ?_⟩
  · exact names_agree.2.1 (.suffix " .Zepto.com ") _ (by decide)
  · exact (names_agree.2.2 " Zepto.com" zepto (by decide) (by decide)).1

end MerchantPattern

end MandateLedger.Core
