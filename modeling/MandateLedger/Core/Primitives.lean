import Mathlib.Data.List.DropRight

namespace MandateLedger.Core

abbrev Bytes := List UInt8

/-- A Rust `[u8; N]`. -/
structure FixedBytes (size : Nat) where
  bytes : Bytes
  length_eq : bytes.length = size
deriving DecidableEq

theorem FixedBytes.bytes_inj {size : Nat} {first second : FixedBytes size} :
    first.bytes = second.bytes ↔ first = second := by
  cases first
  cases second
  simp

abbrev Hash32 := FixedBytes 32

/-- The all-zero digest, the chain anchor before a context's first event. -/
def Hash32.zero : Hash32 := ⟨List.replicate 32 0, by simp⟩

/-- No two of the inputs have one digest. -/
def CollisionFree (hash : Bytes → Hash32) (inputs : List Bytes) : Prop :=
  ∀ first ∈ inputs, ∀ second ∈ inputs, hash first = hash second → first = second

/-- The UTF-8 bytes of a string: Rust's `str::as_bytes`. -/
def utf8 (text : String) : Bytes := text.toUTF8.data.toList

def hexDigit (nibble : Nat) : Char :=
  if nibble < 10 then Char.ofNat (48 + nibble) else Char.ofNat (87 + nibble)

/-- `hex::encode`: two lower-case digits for each byte. -/
def hexEncode (bytes : Bytes) : String :=
  String.ofList (bytes.flatMap fun byte =>
    [hexDigit (byte.toNat / 16), hexDigit (byte.toNat % 16)])

/-- Rust's `char::is_whitespace`: the Unicode `White_Space` property. -/
def isWhitespace (char : Char) : Bool :=
  let code := char.toNat
  (0x09 ≤ code && code ≤ 0x0d) || code == 0x20 || code == 0x85 || code == 0xa0 ||
    code == 0x1680 || (0x2000 ≤ code && code ≤ 0x200a) || code == 0x2028 ||
    code == 0x2029 || code == 0x202f || code == 0x205f || code == 0x3000

/-- Rust's `str::trim_end`, on the characters. -/
def trimEnd (text : List Char) : List Char := text.rdropWhile isWhitespace

/-- Rust's `str::trim_start`, on the characters. -/
def trimStart (text : List Char) : List Char := text.dropWhile isWhitespace

/-- `lowercase_trimmed`: ASCII letters to lower case, then the end trimmed,
then the start.  `Char.toLower` leaves everything but `A`..`Z` alone, as
`make_ascii_lowercase` does. -/
def lowercaseTrimmed (text : String) : String :=
  String.ofList (trimStart (trimEnd (text.toList.map Char.toLower)))

/-- `ids.rs` writes its six newtypes with one macro, `string_id!`, and one
parameter, the normalizer.  `IdKind` is that parameter and keeps the six types
apart. -/
inductive IdKind where
  | mandate
  | principal
  | agent
  | merchant
  | category
  | context
deriving DecidableEq

def IdKind.normalize : IdKind → String → String
  | .merchant, text | .category, text => lowercaseTrimmed text
  | _, text => text

/-- An identifier: what the normalizer made of some text, 1 to 256 bytes. -/
structure StringId (kind : IdKind) where
  val : String
  nonempty : 0 < val.utf8ByteSize
  bounded : val.utf8ByteSize ≤ 256
  normal : ∃ raw, kind.normalize raw = val

theorem StringId.val_inj {kind : IdKind} {first second : StringId kind} :
    first.val = second.val ↔ first = second := by
  cases first
  cases second
  simp

instance {kind : IdKind} : DecidableEq (StringId kind) := fun left right =>
  decidable_of_iff (left.val = right.val) StringId.val_inj

instance {kind : IdKind} : ToString (StringId kind) := ⟨StringId.val⟩

abbrev MandateId := StringId .mandate
abbrev PrincipalId := StringId .principal
abbrev AgentId := StringId .agent
abbrev MerchantId := StringId .merchant
abbrev Category := StringId .category
abbrev ContextId := StringId .context

structure IdError where
  length : Nat
deriving DecidableEq

def IdError.toString (error : IdError) : String :=
  s!"identifier must be 1..=256 bytes, got {error.length}"

/-- `string_id!`'s `new`. -/
def StringId.new (kind : IdKind) (value : String) : Except IdError (StringId kind) :=
  let text := kind.normalize value
  if sized : 0 < text.utf8ByteSize ∧ text.utf8ByteSize ≤ 256 then
    .ok ⟨text, sized.1, sized.2, value, rfl⟩
  else
    .error ⟨text.utf8ByteSize⟩

theorem utf8ByteSize_cons (char : Char) (rest : List Char) :
    (String.ofList (char :: rest)).utf8ByteSize =
      char.utf8Size + (String.ofList rest).utf8ByteSize := by
  have split : String.ofList (char :: rest) = String.singleton char ++ String.ofList rest := by
    apply String.toList_injective
    simp
  rw [split, String.utf8ByteSize_append, String.utf8ByteSize_singleton]

theorem utf8ByteSize_ofList_le (chars : List Char) :
    (String.ofList chars).utf8ByteSize ≤ 4 * chars.length := by
  induction chars with
  | nil => simp
  | cons char rest ih =>
      rw [utf8ByteSize_cons, List.length_cons]
      have := char.utf8Size_le_four
      omega

theorem hexEncode_utf8ByteSize_le (bytes : Bytes) :
    (hexEncode bytes).utf8ByteSize ≤ 8 * bytes.length := by
  have length : (bytes.flatMap fun byte =>
      [hexDigit (byte.toNat / 16), hexDigit (byte.toNat % 16)]).length = 2 * bytes.length := by
    simp [List.length_flatMap]
    omega
  have := utf8ByteSize_ofList_le (bytes.flatMap fun byte =>
    [hexDigit (byte.toNat / 16), hexDigit (byte.toNat % 16)])
  rw [length] at this
  unfold hexEncode
  omega

/-- The byte string whose digest names a purchase attempt. -/
def ContextId.preimage (mandate : MandateId) (cart : Hash32) (requestKey : String) : Bytes :=
  utf8 mandate.val ++ [0x1f] ++ cart.bytes ++ [0x1f] ++ utf8 requestKey

/-- `ContextId::derive`: half of the digest, in hex. -/
def ContextId.derive (sha256 : Bytes → Hash32) (mandate : MandateId) (cart : Hash32)
    (requestKey : String) : ContextId :=
  let digest := sha256 (ContextId.preimage mandate cart requestKey)
  { val := "ctx_" ++ hexEncode (digest.bytes.take 16)
    nonempty := by
      rw [String.utf8ByteSize_append]
      have : ("ctx_" : String).utf8ByteSize = 4 := by decide
      omega
    bounded := by
      rw [String.utf8ByteSize_append]
      have short : ("ctx_" : String).utf8ByteSize = 4 := by decide
      have hex := hexEncode_utf8ByteSize_le (digest.bytes.take 16)
      have taken : (digest.bytes.take 16).length ≤ 16 := List.length_take_le 16 _
      omega
    normal := ⟨_, rfl⟩ }

theorem utf8_injective : Function.Injective utf8 := by
  intro first second same
  have data : first.toUTF8.data = second.toUTF8.data := Array.toList_inj.mp same
  have bytes : first.toUTF8 = second.toUTF8 := ByteArray.ext data
  exact String.toByteArray_inj.mp bytes

theorem hexDigit_inj : ∀ first second : Fin 16, hexDigit first = hexDigit second → first = second := by
  decide

theorem hexEncode_injective : Function.Injective hexEncode := by
  intro first second same
  have chars := String.ofList_injective same
  clear same
  induction first generalizing second with
  | nil =>
      cases second with
      | nil => rfl
      | cons byte rest => cases chars
  | cons byte rest ih =>
      cases second with
      | nil => cases chars
      | cons other others =>
          simp only [List.flatMap_cons, List.cons_append, List.nil_append, List.cons.injEq] at chars
          obtain ⟨high, low, tail⟩ := chars
          have bound := byte.toNat_lt
          have bounded := other.toNat_lt
          have upper := hexDigit_inj ⟨byte.toNat / 16, by omega⟩ ⟨other.toNat / 16, by omega⟩ high
          have lower := hexDigit_inj ⟨byte.toNat % 16, by omega⟩ ⟨other.toNat % 16, by omega⟩ low
          simp only [Fin.mk.injEq] at upper lower
          have equal : byte = other := UInt8.toNat_inj.mp (by omega)
          rw [equal, ih tail]

/-- A context id is the first 128 bits of its digest. -/
theorem ContextId.digest_eq {sha256 : Bytes → Hash32} {mandate other : MandateId}
    {cart basket : Hash32} {requestKey key : String}
    (same : derive sha256 mandate cart requestKey = derive sha256 other basket key) :
    (sha256 (preimage mandate cart requestKey)).bytes.take 16 =
      (sha256 (preimage other basket key)).bytes.take 16 := by
  have text := congrArg (fun ctx : ContextId => ctx.val.toList) same
  simp only [derive, String.toList_append] at text
  exact hexEncode_injective (String.toList_injective (List.append_cancel_left text))

/-- Under one mandate id, the cart hash and the request key can be read off the
preimage. -/
theorem ContextId.preimage_inj {mandate : MandateId} {cart basket : Hash32}
    {requestKey key : String}
    (same : preimage mandate cart requestKey = preimage mandate basket key) :
    cart = basket ∧ requestKey = key := by
  simp only [preimage, List.append_assoc, List.append_cancel_left_eq] at same
  obtain ⟨hashes, rest⟩ := List.append_inj same (cart.length_eq.trans basket.length_eq.symm)
  exact ⟨FixedBytes.bytes_inj.mp hashes, utf8_injective (List.append_cancel_left rest)⟩

/-- Seconds since the Unix epoch, an `i64`. -/
structure Timestamp where
  secs : Int64
deriving DecidableEq

instance : LT Timestamp := ⟨fun left right => left.secs < right.secs⟩
instance : LE Timestamp := ⟨fun left right => left.secs ≤ right.secs⟩

instance (left right : Timestamp) : Decidable (left < right) :=
  inferInstanceAs (Decidable (left.secs < right.secs))

instance (left right : Timestamp) : Decidable (left ≤ right) :=
  inferInstanceAs (Decidable (left.secs ≤ right.secs))

/-- Rust's `i64::saturating_sub`. -/
def saturatingSub (left right : Int64) : Int64 :=
  let exact := left.toInt - right.toInt
  if exact < Int64.minValue.toInt then Int64.minValue
  else if Int64.maxValue.toInt < exact then Int64.maxValue
  else Int64.ofInt exact

/-- `Timestamp::saturating_sub_secs`. -/
def Timestamp.saturatingSubSecs (time : Timestamp) (secs : Int64) : Timestamp :=
  ⟨saturatingSub time.secs secs⟩

end MandateLedger.Core
