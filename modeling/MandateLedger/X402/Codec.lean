import MandateLedger.Core.Texts
import MandateLedger.X402.Rail

namespace MandateLedger.X402

open MandateLedger.Core MandateLedger.Data

theorem digitValue_hexDigit : ∀ nibble : Fin 16, digitValue (hexDigit nibble) = some nibble.val := by
  decide

@[simp] theorem hexEncode_toList (bytes : Bytes) : (hexEncode bytes).toList =
    bytes.flatMap fun byte => [hexDigit (byte.toNat / 16), hexDigit (byte.toNat % 16)] := by
  simp [hexEncode]

theorem hexEncode_length (bytes : Bytes) : (hexEncode bytes).toList.length = 2 * bytes.length := by
  simp [List.length_flatMap]
  omega

/-- What holds of the sixteen digits holds of every character written. -/
theorem forall_mem_hexEncode (property : Char → Prop)
    (digits : ∀ nibble : Fin 16, property (hexDigit nibble)) (bytes : Bytes) :
    ∀ char ∈ (hexEncode bytes).toList, property char := by
  intro char member
  rw [hexEncode_toList] at member
  obtain ⟨byte, -, written⟩ := List.mem_flatMap.mp member
  have bound := byte.toNat_lt
  rcases List.mem_pair.mp written with rfl | rfl
  · exact digits ⟨byte.toNat / 16, by omega⟩
  · exact digits ⟨byte.toNat % 16, by omega⟩

theorem decodeHex_hexEncode (bytes : Bytes) : decodeHex (hexEncode bytes).toList = some bytes := by
  induction bytes with
  | nil => simp [decodeHex]
  | cons byte rest ih =>
      have bound := byte.toNat_lt
      have high := digitValue_hexDigit ⟨byte.toNat / 16, by omega⟩
      have low := digitValue_hexDigit ⟨byte.toNat % 16, by omega⟩
      have joined : UInt8.ofNat (16 * (byte.toNat / 16) + byte.toNat % 16) = byte := by
        rw [Nat.div_add_mod, UInt8.ofNat_toNat]
      rw [hexEncode_toList] at ih ⊢
      simp only [List.flatMap_cons, List.cons_append, List.nil_append, decodeHex]
      rw [high, low, ih]
      exact congrArg (fun byte => some (byte :: rest)) joined

@[simp] theorem decodeToSlice_hexEncode {size : Nat} (value : FixedBytes size) :
    decodeToSlice size (hexEncode value.bytes).toList = some value := by
  unfold decodeToSlice
  rw [decodeHex_hexEncode]
  exact dif_pos value.length_eq

@[simp] theorem strip0x_append (text : String) : strip0x ("0x" ++ text) = some text.toList := by
  simp [strip0x]

@[simp] theorem word_hexEncode (value : FixedBytes 32) :
    word ("0x" ++ hexEncode value.bytes) = some value := by
  rw [word, strip0x_append, Option.bind_some, decodeToSlice_hexEncode]

@[simp] theorem bytes_hexEncode {size : Nat} (field : String) (value : FixedBytes size) :
    bytes size field ("0x" ++ hexEncode value.bytes) = .ok value := by
  have length : (hexEncode value.bytes).toList.length = 2 * size := by
    rw [hexEncode_length, value.length_eq]
  simp only [bytes, strip0x_append, Option.filter_some, length, decide_true, if_true,
    Option.bind_some, decodeToSlice_hexEncode]

@[simp] theorem Address.parse_toString (keccak256 : Bytes → Hash32) (address : Address) :
    Address.parse keccak256 address.toString = .ok address := by
  have length : (hexEncode address.bytes).toList.length = 40 := by
    rw [hexEncode_length, address.length_eq]
  have lower : (hexEncode address.bytes).toList.any Char.isUpper = false := by
    rw [List.any_eq_false]
    exact forall_mem_hexEncode (¬ Char.isUpper · = true) (by decide) address.bytes
  simp only [Address.parse, Address.toString, strip0x_append, Option.filter_some, length,
    decide_true, if_true, decodeToSlice_hexEncode, lower, Bool.and_false, Bool.false_and,
    Bool.false_eq_true, if_false]

theorem Address.toString_injective : Function.Injective Address.toString := by
  intro left right same
  have parsed := congrArg (Address.parse fun _ => Hash32.zero) same
  rw [parse_toString, parse_toString] at parsed
  exact Except.ok.inj parsed

theorem digitValue_of_isDigit {char : Char} (digit : char.isDigit = true) :
    digitValue char = some (char.toNat - '0'.toNat) ∧ char.toNat - '0'.toNat < 10 := by
  have range := Char.isDigit_iff_toNat.mp digit
  have low : '0' ≤ char := by
    rw [Char.le_def, UInt32.le_iff_toNat_le]
    exact range.1
  have high : char ≤ '9' := by
    rw [Char.le_def, UInt32.le_iff_toNat_le]
    exact range.2
  constructor
  · simp only [digitValue, low, high, and_self, if_true]
  · have zero : '0'.toNat = 48 := rfl
    have nine : '9'.toNat = 57 := rfl
    omega

theorem mapM_digitValue {digits : List Char} (decimal : ∀ char ∈ digits, char.isDigit = true) :
    digits.mapM (fun char => (digitValue char).filter (· < 10)) =
      some (digits.map fun char => char.toNat - '0'.toNat) := by
  induction digits with
  | nil => rfl
  | cons char rest ih =>
      obtain ⟨value, small⟩ := digitValue_of_isDigit (decimal char (by simp))
      have tail := ih fun char member => decimal char (by simp [member])
      simp only [List.mapM_cons, value, Option.filter_some, small, decide_true, if_true, tail]
      rfl

theorem positional_ofDigitChars (digits : List Char) :
    positional 10 (digits.map fun char => char.toNat - '0'.toNat) =
      Nat.ofDigitChars 10 digits 0 := by
  rw [positional, List.foldl_map, Nat.ofDigitChars_eq_foldl]
  simp only [Nat.mul_comm]

theorem fromStrRadix_toDigits {bound number : Nat} (small : number < bound) :
    fromStrRadix bound 10 (Nat.toDigits 10 number) = some number := by
  have decimal : ∀ char ∈ Nat.toDigits 10 number, char.isDigit = true :=
    fun char => Nat.isDigit_of_mem_toDigits (by decide) (by decide)
  have unsigned : stripPlus (Nat.toDigits 10 number) = Nat.toDigits 10 number := by
    unfold stripPlus
    split
    · next rest signed =>
        have := decimal '+' (by simp [signed])
        contradiction
    · rfl
  unfold fromStrRadix
  rw [unsigned, if_neg Nat.toDigits_ne_nil, mapM_digitValue decimal]
  simp only [Option.bind_eq_bind, Option.bind_some, positional_ofDigitChars,
    Nat.ofDigitChars_ten_toDigits, small, if_true]

/-- Only zero is written with a leading zero. -/
theorem toDigits_head_ne_zero {number : Nat} (positive : number ≠ 0) :
    (Nat.toDigits 10 number).head? ≠ some '0' := by
  induction number using Nat.strongRecOn with
  | ind number ih =>
      rw [Nat.toDigits_eq_if (by decide)]
      split
      · next small =>
          have nonzero : ∀ digit : Fin 10, digit.val ≠ 0 → [digit.val.digitChar].head? ≠ some '0' := by
            decide
          exact nonzero ⟨number, small⟩ positive
      · next large =>
          have shorter := ih (number / 10) (by omega) (by omega)
          rwa [List.head?_append_of_ne_nil _ Nat.toDigits_ne_nil]

theorem toDigits_injective : Function.Injective (Nat.toDigits 10) := by
  intro left right same
  have number := congrArg (Nat.ofDigitChars 10 · 0) same
  simpa only [Nat.ofDigitChars_ten_toDigits] using number

theorem ChainId.toString_injective : Function.Injective ChainId.toString := by
  intro left right same
  have digits : Nat.toDigits 10 left.id.toNat = Nat.toDigits 10 right.id.toNat := by
    have characters := congrArg String.toList same
    simpa [ChainId.toString, Nat.repr_eq_ofList_toDigits] using characters
  have id : left.id = right.id := UInt64.toNat_inj.mp (toDigits_injective digits)
  cases left
  cases right
  cases id
  rfl

theorem ChainId.parseId_repr {chain : ChainId} (positive : chain.id ≠ 0) :
    ChainId.parseId (Nat.repr chain.id.toNat).toList = .ok chain := by
  have number : chain.id.toNat ≠ 0 := fun zero => positive (UInt64.toNat_inj.mp zero)
  have decimal : (Nat.toDigits 10 chain.id.toNat).all Char.isDigit = true := by
    rw [List.all_eq_true]
    exact fun char => Nat.isDigit_of_mem_toDigits (by decide) (by decide)
  have head : ((Nat.toDigits 10 chain.id.toNat).head? != some '0') = true := by
    simpa using toDigits_head_ne_zero number
  have nonempty : (Nat.toDigits 10 chain.id.toNat).isEmpty = false := by
    simp
  simp only [ChainId.parseId, Nat.toList_repr, nonempty, decimal, head, Bool.not_false,
    Bool.and_self, if_true, fromStrRadix_toDigits chain.id.toNat_lt_size, UInt64.ofNat_toNat]

namespace AuthorizationRef

/-- The parts of a reference that the chain keys an authorization by. -/
def identityParts (payment : AuthorizationRef) : List (List Char) :=
  ["eip155".toList, (Nat.repr payment.chain.id.toNat).toList, payment.token.toString.toList,
    payment.payer.toString.toList, ("0x" ++ hexEncode payment.nonce.bytes).toList]

def parts (payment : AuthorizationRef) : List (List Char) :=
  payment.identityParts ++ [(Nat.repr payment.validBefore.toNat).toList]

theorem identity_toList (payment : AuthorizationRef) :
    payment.identity.toList = [':'].intercalate payment.identityParts := by
  simp [identity, ChainId.toString, identityParts, List.intercalate]

theorem toString_toList (payment : AuthorizationRef) :
    payment.toString.toList = [':'].intercalate payment.parts := by
  simp [toString, identity, ChainId.toString, parts, identityParts, List.intercalate]

theorem colon_not_mem_parts (payment : AuthorizationRef) :
    ∀ part ∈ payment.parts, ':' ∉ part := by
  have hex : ∀ bytes : Bytes, ':' ∉ ("0x" ++ hexEncode bytes).toList := by
    intro bytes colon
    rw [String.toList_append, List.mem_append] at colon
    rcases colon with marker | digit
    · simp at marker
    · exact forall_mem_hexEncode (· ≠ ':') (by decide) bytes ':' digit rfl
  have decimal : ∀ number : Nat, ':' ∉ (Nat.repr number).toList := by
    intro number colon
    rw [Nat.toList_repr] at colon
    have := Nat.isDigit_of_mem_toDigits (by decide) (by decide) colon
    contradiction
  simp only [parts, identityParts, List.cons_append, List.nil_append, List.forall_mem_cons]
  exact ⟨by decide, decimal _, hex _, hex _, hex _, decimal _, by simp⟩

/-- The identity is what the chain keys an authorization by, and nothing else. -/
theorem identity_inj {left right : AuthorizationRef} : left.identity = right.identity ↔
    left.chain = right.chain ∧ left.token = right.token ∧ left.payer = right.payer ∧
      left.nonce = right.nonce := by
  constructor
  · intro same
    have split : ∀ payment : AuthorizationRef,
        payment.identity.toList.splitOn ':' = payment.identityParts := by
      intro payment
      rw [identity_toList]
      exact List.splitOn_intercalate ':'
        (fun part member => payment.colon_not_mem_parts part (List.mem_append_left _ member))
        (by simp [identityParts])
    have parts := split left
    rw [same, split right] at parts
    simp only [identityParts, List.cons.injEq, true_and, and_true, String.toList_inj] at parts
    obtain ⟨chain, token, payer, nonce⟩ := parts
    refine ⟨ChainId.toString_injective ?_, Address.toString_injective token.symm,
      Address.toString_injective payer.symm, ?_⟩
    · rw [ChainId.toString, ChainId.toString, chain]
    · have word := congrArg word nonce
      rw [word_hexEncode, word_hexEncode] at word
      exact (Option.some.inj word).symm
  · rintro ⟨chain, token, payer, nonce⟩
    rw [identity, identity, chain, token, payer, nonce]

theorem splitOn_toString (payment : AuthorizationRef) :
    payment.toString.toList.splitOn ':' = payment.parts := by
  rw [toString_toList]
  exact List.splitOn_intercalate ':' payment.colon_not_mem_parts (by simp [parts, identityParts])

/-- A reference is of one authorization and one expiry. -/
theorem toString_injective : Function.Injective toString := by
  intro left right same
  have parts : left.parts = right.parts := by
    rw [← splitOn_toString, same, splitOn_toString]
  obtain ⟨identity, expiry⟩ := List.append_inj parts rfl
  have keyed : left.identity = right.identity := by
    apply String.toList_injective
    rw [identity_toList, identity_toList, identity]
  obtain ⟨chain, token, payer, nonce⟩ := identity_inj.mp keyed
  have digits : Nat.toDigits 10 left.validBefore.toNat = Nat.toDigits 10 right.validBefore.toNat := by
    simpa only [List.cons.injEq, and_true, Nat.toList_repr] using expiry
  have validBefore : left.validBefore = right.validBefore :=
    UInt64.toNat_inj.mp (toDigits_injective digits)
  cases left
  cases right
  simp_all

/-- There is one spelling of a payment. -/
theorem toString_of_parse {keccak256 : Bytes → Hash32} {text : String} {payment : AuthorizationRef}
    (parsed : parse keccak256 text = .ok payment) : payment.toString = text := by
  unfold parse at parsed
  split at parsed
  · cases parsed
  · next read =>
      cases parsed
      unfold parse? at read
      split at read
      · split at read
        · cases read
        · simp only [Option.bind_eq_bind, Option.bind_eq_some_iff] at read
          obtain ⟨chain, -, token, -, payer, -, nonce, -, expiry, -, rest⟩ := read
          split at rest
          · cases rest
          · next same =>
              cases rest
              exact not_not.mp same
      · cases read

/-- A reference written for a chain is read back. -/
theorem parse_toString (keccak256 : Bytes → Hash32) {payment : AuthorizationRef}
    (positive : payment.chain.id ≠ 0) : parse keccak256 payment.toString = .ok payment := by
  have validBefore : fromStrRadix UInt64.size 10 (Nat.repr payment.validBefore.toNat).toList =
      some payment.validBefore.toNat := by
    rw [Nat.toList_repr]
    exact fromStrRadix_toDigits payment.validBefore.toNat_lt_size
  have read : parse? keccak256 payment.toString = some payment := by
    unfold parse?
    rw [splitOn_toString, parts, identityParts]
    simp only [List.cons_append, List.nil_append, String.ofList_toList, ChainId.parseId_repr positive, Address.parse_toString,
      bytes_hexEncode, validBefore, Except.toOption, Option.bind_eq_bind, Option.bind_some,
      UInt64.ofNat_toNat, ne_eq, not_true_eq_false, if_false]
  rw [parse, read]

end AuthorizationRef

theorem plain_of_isDigit {char : Char} (digit : char.isDigit = true) :
    char.toLower = char ∧ isWhitespace char = false := by
  have digits : ∀ value : Fin 10, (Char.ofNat (48 + value)).toLower = Char.ofNat (48 + value) ∧
      isWhitespace (Char.ofNat (48 + value)) = false := by
    decide
  obtain ⟨low, high⟩ := Char.isDigit_iff_toNat.mp digit
  have zero : '0'.toNat = 48 := rfl
  have nine : '9'.toNat = 57 := rfl
  have written := digits ⟨char.toNat - 48, by omega⟩
  simp only [Nat.add_sub_of_le (show 48 ≤ char.toNat by omega), Char.ofNat_toNat] at written
  exact written

theorem plain_of_all {text : List Char}
    (all : text.all (fun char => char.toLower == char && !isWhitespace char) = true) :
    ∀ char ∈ text, char.toLower = char ∧ isWhitespace char = false := by
  simpa using all

theorem lowercaseTrimmed_accountId (chain : ChainId) (address : Address) :
    lowercaseTrimmed (accountId chain address) = accountId chain address := by
  apply Plain.lowercaseTrimmed_eq
  apply plain_of_forall
  intro char member
  simp only [accountId, ChainId.toString, Address.toString, String.toList_append,
    List.mem_append] at member
  rcases member with ((scheme | number) | colon) | marker | hex
  · exact plain_of_all (by decide) char scheme
  · rw [Nat.toList_repr] at number
    exact plain_of_isDigit (Nat.isDigit_of_mem_toDigits (by decide) (by decide) number)
  · exact plain_of_all (by decide) char colon
  · exact plain_of_all (by decide) char marker
  · exact forall_mem_hexEncode (fun char => char.toLower = char ∧ isWhitespace char = false)
      (by decide) address.bytes char hex

theorem accountId_utf8ByteSize (chain : ChainId) (address : Address) :
    0 < (accountId chain address).utf8ByteSize ∧ (accountId chain address).utf8ByteSize ≤ 256 := by
  have digits : (Nat.repr chain.id.toNat).utf8ByteSize ≤ 80 := by
    have short : (Nat.toDigits 10 chain.id.toNat).length ≤ 20 := by
      rw [Nat.length_toDigits_le_iff (by decide) (by decide)]
      have := chain.id.toNat_lt
      omega
    have := utf8ByteSize_ofList_le (Nat.toDigits 10 chain.id.toNat)
    rw [Nat.repr_eq_ofList_toDigits]
    omega
  have hex := hexEncode_utf8ByteSize_le address.bytes
  have scheme : ("eip155:" : String).utf8ByteSize = 7 := by decide
  have colon : (":" : String).utf8ByteSize = 1 := by decide
  have marker : ("0x" : String).utf8ByteSize = 2 := by decide
  rw [address.length_eq] at hex
  simp only [accountId, ChainId.toString, Address.toString, String.utf8ByteSize_append]
  omega

def accountMerchant (chain : ChainId) (address : Address) : MerchantId where
  val := accountId chain address
  nonempty := (accountId_utf8ByteSize chain address).1
  bounded := (accountId_utf8ByteSize chain address).2
  normal := ⟨_, lowercaseTrimmed_accountId chain address⟩

theorem new_accountId (chain : ChainId) (address : Address) :
    StringId.new .merchant (accountId chain address) = .ok (accountMerchant chain address) := by
  have normal : IdKind.merchant.normalize (accountId chain address) = accountId chain address :=
    lowercaseTrimmed_accountId chain address
  have sized := accountId_utf8ByteSize chain address
  simp only [StringId.new, normal, sized, and_self, dite_true]
  rfl

theorem accountMerchant_inj {chain : ChainId} {left right : Address} :
    accountMerchant chain left = accountMerchant chain right ↔ left = right := by
  refine ⟨fun same => ?_, fun same => by rw [same]⟩
  have text : accountId chain left = accountId chain right := congrArg StringId.val same
  apply Address.toString_injective
  apply String.toList_injective
  simpa [accountId] using congrArg String.toList text

def topicOf (address : Address) : FixedBytes 32 :=
  ⟨List.replicate 12 0 ++ address.bytes, by simp [address.length_eq]⟩

def amountWord (value : FixedBytes 16) : FixedBytes 32 :=
  ⟨List.replicate 16 0 ++ value.bytes, by simp [value.length_eq]⟩

@[simp] theorem topicAddress_topicOf (address : Address) :
    topicAddress ("0x" ++ hexEncode (topicOf address).bytes) = some address := by
  rw [topicAddress, word_hexEncode]
  simp [topicOf]

namespace Log

variable (keccak256 : Bytes → Hash32) (token : Address)

/-- A log of `token` with two indexed arguments. -/
def ofEvent (signature : String) (first second : FixedBytes 32) (data : String) : Log where
  address := token.toString
  topics := [keccak256 (utf8 signature), first, second].map fun topic =>
    "0x" ++ hexEncode topic.bytes
  data := data

def ofAuthorizationUsed (authorizer : Address) (nonce : FixedBytes 32) : Log :=
  ofEvent keccak256 token "AuthorizationUsed(address,bytes32)" (topicOf authorizer) nonce "0x"

def ofTransfer (sender recipient : Address) (value : FixedBytes 16) : Log :=
  ofEvent keccak256 token "Transfer(address,address,uint256)" (topicOf sender) (topicOf recipient)
    ("0x" ++ hexEncode (amountWord value).bytes)

variable {keccak256 token}

@[simp] theorem emittedBy_ofEvent {signature data : String} {first second : FixedBytes 32} :
    (ofEvent keccak256 token signature first second data).emittedBy keccak256 token = true := by
  simp [emittedBy, ofEvent]

@[simp] theorem isEvent_ofEvent {signature other data : String} {first second : FixedBytes 32} :
    (ofEvent keccak256 token signature first second data).isEvent keccak256 other 2 =
      decide (keccak256 (utf8 signature) = keccak256 (utf8 other)) := by
  simp [isEvent, ofEvent]
  rfl

theorem authorizationUsed_ofAuthorizationUsed {authorizer : Address} {nonce : FixedBytes 32} :
    (ofAuthorizationUsed keccak256 token authorizer nonce).authorizationUsed keccak256 token =
      some (authorizer, nonce) := by
  rw [authorizationUsed, ofAuthorizationUsed, emittedBy_ofEvent, isEvent_ofEvent]
  simp [ofEvent]

theorem transfer_ofTransfer {sender recipient : Address} {value : FixedBytes 16} :
    (ofTransfer keccak256 token sender recipient value).transfer keccak256 token =
      some (sender, recipient, fromBigEndian value.bytes) := by
  rw [transfer, ofTransfer, emittedBy_ofEvent, isEvent_ofEvent]
  simp [ofEvent]
  simp [amountWord]

/-- The two events are told apart by their signatures' digests. -/
theorem transfer_ofAuthorizationUsed {authorizer : Address} {nonce : FixedBytes 32}
    (different : keccak256 (utf8 "AuthorizationUsed(address,bytes32)") ≠
      keccak256 (utf8 "Transfer(address,address,uint256)")) :
    (ofAuthorizationUsed keccak256 token authorizer nonce).transfer keccak256 token = none := by
  rw [transfer, ofAuthorizationUsed, emittedBy_ofEvent, isEvent_ofEvent]
  simp [different]

end Log

end MandateLedger.X402
