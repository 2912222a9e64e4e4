import MandateLedger.Core.Primitives

namespace MandateLedger.Core

theorem utf8_append (left right : String) : utf8 (left ++ right) = utf8 left ++ utf8 right := by
  simp [utf8]

theorem utf8_length (text : String) : (utf8 text).length = text.utf8ByteSize := by
  simp [utf8]

theorem utf8_ofList (chars : List Char) :
    utf8 (String.ofList chars) = chars.flatMap String.utf8EncodeChar := by
  simp [utf8, List.utf8Encode]

theorem separator_ne_ofNat {code : Nat} (least : 128 ≤ code) (most : code < 256) :
    (0x1f : UInt8) ≠ UInt8.ofNat code := by
  intro same
  have codes := congrArg UInt8.toNat same
  rw [UInt8.toNat_ofNat'] at codes
  change 31 = _ at codes
  omega

/-- No character but the separator itself has the separator among its bytes. -/
theorem separator_mem_utf8EncodeChar {char : Char} (member : 0x1f ∈ String.utf8EncodeChar char) :
    char = '\x1f' := by
  unfold String.utf8EncodeChar at member
  dsimp only at member
  by_cases ascii : char.val.toNat ≤ 127
  · rw [if_pos ascii, List.mem_singleton] at member
    have code := congrArg UInt8.toNat member
    rw [UInt8.toNat_ofNat'] at code
    change 31 = _ at code
    apply Char.ext
    apply UInt32.toNat_inj.mp
    change char.val.toNat = 31
    omega
  · -- every byte of a longer encoding is at least 128
    rw [if_neg ascii] at member
    exfalso
    split at member
    · simp only [List.mem_cons, List.not_mem_nil, or_false] at member
      rcases member with same | same <;> exact separator_ne_ofNat (by omega) (by omega) same
    · split at member
      · simp only [List.mem_cons, List.not_mem_nil, or_false] at member
        rcases member with same | same | same <;>
          exact separator_ne_ofNat (by omega) (by omega) same
      · simp only [List.mem_cons, List.not_mem_nil, or_false] at member
        rcases member with same | same | same | same <;>
          exact separator_ne_ofNat (by omega) (by omega) same

theorem flatMap_utf8EncodeChar_split {chars : List Char} {before after : Bytes}
    (split : chars.flatMap String.utf8EncodeChar = before ++ 0x1f :: after) :
    ∃ head tail, chars = head ++ '\x1f' :: tail ∧
      head.flatMap String.utf8EncodeChar = before ∧
      tail.flatMap String.utf8EncodeChar = after := by
  induction chars generalizing before with
  | nil => simp at split
  | cons char rest ih =>
      rw [List.flatMap_cons] at split
      rcases List.append_eq_append_iff.mp split with ⟨others, rfl, tail⟩ | ⟨others, encoded, tail⟩
      · obtain ⟨head, last, rfl, rfl, rfl⟩ := ih tail
        exact ⟨char :: head, last, rfl, rfl, rfl⟩
      · cases others with
        | nil =>
            rw [List.append_nil] at encoded
            obtain ⟨head, last, rfl, heads, rfl⟩ := @ih [] tail.symm
            exact ⟨char :: head, last, rfl, by simp [heads, encoded], rfl⟩
        | cons byte others =>
            obtain ⟨rfl, rfl⟩ := List.cons.inj tail
            have member : 0x1f ∈ String.utf8EncodeChar char := by simp [encoded]
            obtain rfl := separator_mem_utf8EncodeChar member
            have single : String.utf8EncodeChar '\x1f' = [0x1f] := by decide
            rw [single] at encoded
            cases before with
            | nil =>
                obtain ⟨-, rfl⟩ := List.cons.inj encoded
                exact ⟨[], rest, rfl, rfl, rfl⟩
            | cons first others => simp at encoded

/-- A separator among the bytes of a text is a separator in the text. -/
theorem utf8_split {text : String} {before after : Bytes}
    (split : utf8 text = before ++ 0x1f :: after) :
    ∃ head tail : String, text = head ++ "\x1f" ++ tail ∧ utf8 head = before ∧
      utf8 tail = after := by
  rw [← String.ofList_toList (s := text), utf8_ofList] at split
  obtain ⟨head, tail, chars, heads, tails⟩ := flatMap_utf8EncodeChar_split split
  refine ⟨String.ofList head, String.ofList tail, ?_, ?_, ?_⟩
  · apply String.toList_injective
    simp [chars]
  · rw [utf8_ofList, heads]
  · rw [utf8_ofList, tails]

namespace ContextId

/-- `longer` is `shorter`, a separator and a rest that a cart hash can end in, or
that has a separator of its own where a cart hash would end. -/
def Shadows (shorter longer : MandateId) : Prop :=
  ∃ rest : String, longer.val = shorter.val ++ "\x1f" ++ rest ∧
    (rest.utf8ByteSize ≤ 32 ∨ (utf8 rest)[32]? = some 0x1f)

variable {mandate other : MandateId} {cart basket : Hash32} {requestKey key : String}

theorem preimage_eq_iff_of_extends {rest : String}
    (extended : other.val = mandate.val ++ "\x1f" ++ rest) :
    preimage mandate cart requestKey = preimage other basket key ↔
      cart.bytes ++ 0x1f :: utf8 requestKey =
        utf8 rest ++ 0x1f :: (basket.bytes ++ 0x1f :: utf8 key) := by
  have separator : utf8 "\x1f" = [0x1f] := by decide
  unfold preimage
  rw [extended, utf8_append, utf8_append, separator]
  simp

/-- Attempts under two ids that are written alike have one id extend the other. -/
theorem shadows_of_append {more : Bytes} (extended : utf8 other.val = utf8 mandate.val ++ more)
    (nonempty : more ≠ [])
    (alike : 0x1f :: (cart.bytes ++ 0x1f :: utf8 requestKey) =
      more ++ 0x1f :: (basket.bytes ++ 0x1f :: utf8 key)) : Shadows mandate other := by
  cases more with
  | nil => exact absurd rfl nonempty
  | cons byte more =>
      rw [List.cons_append, List.cons.injEq] at alike
      obtain ⟨rfl, aligned⟩ := alike
      obtain ⟨head, rest, text, heads, rfl⟩ := utf8_split extended
      obtain rfl := utf8_injective heads
      refine ⟨rest, text, ?_⟩
      by_cases short : rest.utf8ByteSize ≤ 32
      · exact .inl short
      · -- the byte after the first cart hash falls inside the rest
        have place : (utf8 rest ++ 0x1f :: (basket.bytes ++ 0x1f :: utf8 key))[32]? =
            some 0x1f := by
          rw [← aligned, List.getElem?_append_right (by rw [cart.length_eq]), cart.length_eq]
          rfl
        rw [List.getElem?_append_left (by rw [utf8_length]; omega)] at place
        exact .inr place

theorem shadows_of_preimage_eq
    (alike : preimage mandate cart requestKey = preimage other basket key)
    (different : mandate ≠ other) : Shadows mandate other ∨ Shadows other mandate := by
  have texts : utf8 mandate.val ≠ utf8 other.val := by
    intro same
    apply different
    cases mandate
    cases other
    simpa using utf8_injective same
  simp only [preimage, List.append_assoc, List.singleton_append] at alike
  rcases List.append_eq_append_iff.mp alike with ⟨more, extended, rest⟩ | ⟨more, extended, rest⟩
  · refine .inl (shadows_of_append extended ?_ rest)
    rintro rfl
    exact texts (by simpa using extended.symm)
  · refine .inr (shadows_of_append extended ?_ rest)
    rintro rfl
    exact texts (by simpa using extended)

theorem utf8_zeros (count : Nat) :
    utf8 (String.ofList (List.replicate count '\x00')) = List.replicate count 0 := by
  have zero : String.utf8EncodeChar '\x00' = [0] := by decide
  rw [utf8_ofList]
  induction count with
  | zero => rfl
  | succ count ih => rw [List.replicate_succ, List.flatMap_cons, ih, zero, List.replicate_succ,
      List.singleton_append]

/-- A cart hash and a request key can be read across the other id's separators. -/
theorem exists_alike_of_shadows (shadows : Shadows mandate other) :
    ∃ cart basket requestKey key,
      preimage mandate cart requestKey = preimage other basket key := by
  have separator : utf8 "\x1f" = [0x1f] := by decide
  obtain ⟨rest, extended, room⟩ := shadows
  simp only [preimage_eq_iff_of_extends extended]
  by_cases short : rest.utf8ByteSize < 32
  · -- the first cart hash ends inside the second
    let filler := List.replicate (31 - rest.utf8ByteSize) (0 : UInt8)
    let zeros := List.replicate rest.utf8ByteSize (0 : UInt8)
    refine ⟨⟨utf8 rest ++ 0x1f :: filler, ?_⟩, ⟨filler ++ 0x1f :: zeros, ?_⟩,
      String.ofList (List.replicate rest.utf8ByteSize '\x00') ++ "\x1f", "", ?_⟩
    · simp only [filler, List.length_append, List.length_cons, List.length_replicate, utf8_length]
      omega
    · simp only [filler, zeros, List.length_append, List.length_cons, List.length_replicate]
      omega
    · have empty : utf8 "" = [] := rfl
      simp [utf8_append, utf8_zeros, separator, empty, zeros]
  · -- the first cart hash ends at the other id's last separator, or at an earlier one
    obtain ⟨front, back, bytes, width⟩ : ∃ front back : Bytes,
        utf8 rest ++ [0x1f] = front ++ 0x1f :: back ∧ front.length = 32 := by
      have place : (utf8 rest ++ [0x1f])[32]? = some 0x1f := by
        rcases room with room | room
        · have full : (utf8 rest).length = 32 := by
            rw [utf8_length]
            omega
          rw [List.getElem?_append_right full.le, full]
          rfl
        · obtain ⟨inside, -⟩ := List.getElem?_eq_some_iff.mp room
          rw [List.getElem?_append_left inside, room]
      obtain ⟨inside, byte⟩ := List.getElem?_eq_some_iff.mp place
      refine ⟨(utf8 rest ++ [0x1f]).take 32, (utf8 rest ++ [0x1f]).drop 33, ?_, ?_⟩
      · conv => lhs; rw [← List.take_append_drop 32 (utf8 rest ++ [0x1f])]
        rw [List.drop_eq_getElem_cons inside, byte]
      · rw [List.length_take]
        omega
    have joined : utf8 (rest ++ "\x1f") = front ++ 0x1f :: back := by
      rw [utf8_append, separator, bytes]
    obtain ⟨head, tail, -, rfl, rfl⟩ := utf8_split joined
    refine ⟨⟨utf8 head, width⟩, Hash32.zero,
      tail ++ String.ofList (List.replicate 32 '\x00') ++ "\x1f", "", ?_⟩
    have empty : utf8 "" = [] := rfl
    rw [utf8_append, utf8_append, utf8_zeros, separator, empty]
    calc utf8 head ++ 0x1f :: (utf8 tail ++ List.replicate 32 0 ++ [0x1f])
        = (utf8 head ++ 0x1f :: utf8 tail) ++ (List.replicate 32 0 ++ [0x1f]) := by simp
      _ = (utf8 rest ++ [0x1f]) ++ (List.replicate 32 0 ++ [0x1f]) := by rw [bytes]
      _ = utf8 rest ++ 0x1f :: (Hash32.zero.bytes ++ [0x1f]) := by simp [Hash32.zero]

/-- The bytes `derive` hashes name one attempt exactly when neither mandate id
shadows the other. -/
theorem preimage_names_attempt_iff (mandate other : MandateId) :
    (∀ cart basket requestKey key,
        preimage mandate cart requestKey = preimage other basket key →
          mandate = other ∧ cart = basket ∧ requestKey = key) ↔
      ¬ Shadows mandate other ∧ ¬ Shadows other mandate := by
  have distinct : ∀ {shorter longer : MandateId}, Shadows shorter longer → shorter ≠ longer := by
    rintro shorter longer ⟨rest, extended, -⟩ rfl
    have size := congrArg String.utf8ByteSize extended
    have one : ("\x1f" : String).utf8ByteSize = 1 := by decide
    rw [String.utf8ByteSize_append, String.utf8ByteSize_append] at size
    omega
  constructor
  · intro names
    constructor
    · intro shadows
      obtain ⟨cart, basket, requestKey, key, alike⟩ := exists_alike_of_shadows shadows
      exact distinct shadows (names cart basket requestKey key alike).1
    · intro shadows
      obtain ⟨cart, basket, requestKey, key, alike⟩ := exists_alike_of_shadows shadows
      exact distinct shadows (names basket cart key requestKey alike.symm).1.symm
  · intro apart cart basket requestKey key alike
    by_cases same : mandate = other
    · subst same
      exact ⟨rfl, preimage_inj alike⟩
    · rcases shadows_of_preimage_eq alike same with shadows | shadows
      · exact absurd shadows apart.1
      · exact absurd shadows apart.2

/-- A mandate id that ends in another id's cart hash, and a request key that starts
with the cart hash of the first. -/
theorem derive_shared :
    let mandate : MandateId := ⟨"a", by decide, by decide, "a", rfl⟩
    let other : MandateId :=
      ⟨"a\x1fxxxxxxxxxxxxxxxxxxxxxxxxxxxxxxxx", by decide, by decide, _, rfl⟩
    let cart : Hash32 := ⟨List.replicate 32 0x78, by decide⟩
    let basket : Hash32 := ⟨List.replicate 32 0x79, by decide⟩
    let requestKey := "yyyyyyyyyyyyyyyyyyyyyyyyyyyyyyyy\x1f"
    preimage mandate cart requestKey = preimage other basket "" ∧
      (∀ sha256, derive sha256 mandate cart requestKey = derive sha256 other basket "") ∧
      mandate ≠ other ∧ cart ≠ basket ∧ requestKey ≠ "" := by
  intro mandate other cart basket requestKey
  have alike : preimage mandate cart requestKey = preimage other basket "" := by decide
  refine ⟨alike, fun sha256 => ?_, by decide, by decide, by decide⟩
  unfold derive
  simp only [alike]

end ContextId

end MandateLedger.Core
