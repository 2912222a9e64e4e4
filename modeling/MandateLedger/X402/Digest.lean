import MandateLedger.X402.Cart

namespace MandateLedger.X402

open MandateLedger.Core MandateLedger.Data

/-- `concat` of byte arrays of one size. -/
def concat {size : Nat} (words : List (FixedBytes size)) : Bytes := words.flatMap FixedBytes.bytes

theorem concat_inj {size : Nat} {first second : List (FixedBytes size)}
    (lengths : first.length = second.length) (same : concat first = concat second) :
    first = second := by
  induction first generalizing second with
  | nil => exact (List.length_eq_zero_iff.mp lengths.symm).symm
  | cons word rest ih =>
      cases second with
      | nil => cases lengths
      | cons other others =>
          simp only [concat, List.flatMap_cons] at same
          obtain ⟨head, tail⟩ :=
            List.append_inj same (word.length_eq.trans other.length_eq.symm)
          rw [FixedBytes.bytes_inj.mp head, ih (Nat.succ.inj lengths) tail]

theorem toBigEndian_succ (size value : Nat) :
    toBigEndian (size + 1) value = UInt8.ofNat (value / 256 ^ size) :: toBigEndian size value := by
  simp [toBigEndian, List.range_succ]

@[simp] theorem length_toBigEndian (size value : Nat) : (toBigEndian size value).length = size := by
  simp [toBigEndian]

/-- A number is fixed by its bytes, as far as it fits them. -/
theorem mod_eq_of_toBigEndian {size first second : Nat}
    (same : toBigEndian size first = toBigEndian size second) :
    first % 256 ^ size = second % 256 ^ size := by
  induction size with
  | zero => rw [pow_zero, Nat.mod_one, Nat.mod_one]
  | succ size ih =>
      rw [toBigEndian_succ, toBigEndian_succ, List.cons.injEq] at same
      obtain ⟨head, tail⟩ := same
      have digit := congrArg UInt8.toNat head
      simp only [UInt8.toNat_ofNat'] at digit
      rw [Nat.mod_pow_succ, Nat.mod_pow_succ, ih tail]
      exact congrArg (second % 256 ^ size + 256 ^ size * ·) digit

theorem toBigEndian_u64_inj {first second : UInt64}
    (same : toBigEndian 8 first.toNat = toBigEndian 8 second.toNat) : first = second := by
  have number := mod_eq_of_toBigEndian same
  have fits := first.toNat_lt
  have fits' := second.toNat_lt
  apply UInt64.toNat_inj.mp
  omega

theorem toBigEndian_u128_inj {first second : Nat} (fits : first < 2 ^ 128) (fits' : second < 2 ^ 128)
    (same : toBigEndian 16 first = toBigEndian 16 second) : first = second := by
  have number := mod_eq_of_toBigEndian same
  omega

theorem length_abiWord {value : Bytes} (fits : value.length ≤ 32) : (abiWord value).length = 32 := by
  simp only [abiWord, List.length_append, List.length_replicate]
  omega

theorem abiWord_inj {first second : Bytes} (lengths : first.length = second.length)
    (same : abiWord first = abiWord second) : first = second :=
  (List.append_inj' same lengths).2

/-- `word`, with its panic: the range to copy to starts at `32 - value.len()`. -/
def checkedWord (value : Bytes) : Option (FixedBytes 32) :=
  if fits : value.length ≤ 32 then some ⟨abiWord value, length_abiWord fits⟩ else none

def u64Word (value : UInt64) : FixedBytes 32 :=
  ⟨abiWord (toBigEndian 8 value.toNat), length_abiWord (by simp)⟩

def u128Word (value : Nat) : FixedBytes 32 :=
  ⟨abiWord (toBigEndian 16 value), length_abiWord (by simp)⟩

def addressWord (address : Address) : FixedBytes 32 :=
  ⟨abiWord address.bytes, length_abiWord (by simp [address.length_eq])⟩

@[simp] theorem checkedWord_u64 (value : UInt64) :
    checkedWord (toBigEndian 8 value.toNat) = some (u64Word value) := dif_pos (by simp)

@[simp] theorem checkedWord_u128 (value : Nat) :
    checkedWord (toBigEndian 16 value) = some (u128Word value) := dif_pos (by simp)

@[simp] theorem checkedWord_address (address : Address) :
    checkedWord address.bytes = some (addressWord address) := dif_pos (by simp [address.length_eq])

theorem u64Word_inj {first second : UInt64} (same : u64Word first = u64Word second) :
    first = second :=
  toBigEndian_u64_inj (abiWord_inj (by simp) (congrArg FixedBytes.bytes same))

theorem u128Word_inj {first second : Nat} (fits : first < 2 ^ 128) (fits' : second < 2 ^ 128)
    (same : u128Word first = u128Word second) : first = second :=
  toBigEndian_u128_inj fits fits' (abiWord_inj (by simp) (congrArg FixedBytes.bytes same))

theorem addressWord_inj {first second : Address} (same : addressWord first = addressWord second) :
    first = second :=
  FixedBytes.bytes_inj.mp
    (abiWord_inj (first.length_eq.trans second.length_eq.symm) (congrArg FixedBytes.bytes same))

section Digest

variable (keccak256 : Bytes → Hash32)

def domainType : Bytes :=
  utf8 "EIP712Domain(string name,string version,uint256 chainId,address verifyingContract)"

def transferType : Bytes :=
  utf8 ("TransferWithAuthorization(address from,address to,uint256 value," ++
    "uint256 validAfter,uint256 validBefore,bytes32 nonce)")

/-- The token's EIP-712 domain. -/
def domain (chain : ChainId) (contract : Address) (token : Asset) : Bytes :=
  concat [keccak256 domainType, keccak256 (utf8 token.domainName),
    keccak256 (utf8 token.domainVersion), u64Word chain.id, addressWord contract]

def message (auth : Authorization) : Bytes :=
  concat [keccak256 transferType, addressWord auth.payer, addressWord auth.payee,
    u128Word auth.value, u64Word auth.validAfter, u64Word auth.validBefore, auth.nonce]

def signed (domain message : Bytes) : Bytes :=
  [0x19, 0x01] ++ (keccak256 domain).bytes ++ (keccak256 message).bytes

theorem signingDigest_eq (chain : ChainId) (contract : Address) (token : Asset)
    (auth : Authorization) :
    signingDigest keccak256 chain contract token auth =
      keccak256 (signed keccak256 (domain keccak256 chain contract token)
        (message keccak256 auth)) := by
  simp only [domain, message, concat, List.flatMap_cons, List.flatMap_nil, List.append_nil]
  simp only [signingDigest, signed, List.append_assoc]
  rfl

/-- `digest`, with the panics of `word`. -/
def checkedDigest (chain : ChainId) (contract : Address) (token : Asset) (auth : Authorization) :
    Option Hash32 := do
  let domain := concat [keccak256 domainType, keccak256 (utf8 token.domainName),
    keccak256 (utf8 token.domainVersion), ← checkedWord (toBigEndian 8 chain.id.toNat),
    ← checkedWord contract.bytes]
  let message := concat [keccak256 transferType, ← checkedWord auth.payer.bytes,
    ← checkedWord auth.payee.bytes, ← checkedWord (toBigEndian 16 auth.value),
    ← checkedWord (toBigEndian 8 auth.validAfter.toNat),
    ← checkedWord (toBigEndian 8 auth.validBefore.toNat), auth.nonce]
  return keccak256 (signed keccak256 domain message)

theorem checkedDigest_eq (chain : ChainId) (contract : Address) (token : Asset)
    (auth : Authorization) :
    checkedDigest keccak256 chain contract token auth =
      some (signingDigest keccak256 chain contract token auth) := by
  rw [signingDigest_eq]
  simp only [checkedDigest, checkedWord_u64, checkedWord_u128, checkedWord_address,
    Option.bind_eq_bind, Option.bind_some]
  rfl

/-- What is hashed for a digest, apart from the two type strings. -/
def digestInputs (chain : ChainId) (contract : Address) (token : Asset) (auth : Authorization) :
    List Bytes :=
  [utf8 token.domainName, utf8 token.domainVersion, domain keccak256 chain contract token,
    message keccak256 auth,
    signed keccak256 (domain keccak256 chain contract token) (message keccak256 auth)]

end Digest

section Binding

variable {keccak256 : Bytes → Hash32} {chain chain' : ChainId} {contract contract' : Address}
  {token token' : Asset} {auth auth' : Authorization}

theorem signed_inj {first second first' second' : Bytes}
    (same : signed keccak256 first second = signed keccak256 first' second') :
    keccak256 first = keccak256 first' ∧ keccak256 second = keccak256 second' := by
  simp only [signed, List.append_assoc] at same
  obtain ⟨domains, messages⟩ := List.append_inj (List.append_cancel_left same)
    ((keccak256 first).length_eq.trans (keccak256 first').length_eq.symm)
  exact ⟨FixedBytes.bytes_inj.mp domains, FixedBytes.bytes_inj.mp messages⟩

theorem domain_inj
    (same : domain keccak256 chain contract token = domain keccak256 chain' contract' token') :
    keccak256 (utf8 token.domainName) = keccak256 (utf8 token'.domainName) ∧
      keccak256 (utf8 token.domainVersion) = keccak256 (utf8 token'.domainVersion) ∧
      chain.id = chain'.id ∧ contract = contract' := by
  unfold domain at same
  have words := concat_inj (by simp) same
  simp only [List.cons.injEq, true_and, and_true] at words
  obtain ⟨name, version, id, verifying⟩ := words
  exact ⟨name, version, u64Word_inj id, addressWord_inj verifying⟩

theorem message_inj (fits : auth.value < 2 ^ 128) (fits' : auth'.value < 2 ^ 128)
    (same : message keccak256 auth = message keccak256 auth') : auth = auth' := by
  unfold message at same
  have words := concat_inj (by simp) same
  simp only [List.cons.injEq, true_and, and_true] at words
  obtain ⟨payer, payee, value, validAfter, validBefore, nonce⟩ := words
  have payer := addressWord_inj payer
  have payee := addressWord_inj payee
  have value := u128Word_inj fits fits' value
  have validAfter := u64Word_inj validAfter
  have validBefore := u64Word_inj validBefore
  cases auth
  cases auth'
  simp_all

/-- A digest fixes the domain and the authorization. -/
theorem signingDigest_inj
    (collisionFree : CollisionFree keccak256 (digestInputs keccak256 chain contract token auth ++
      digestInputs keccak256 chain' contract' token' auth'))
    (fits : auth.value < 2 ^ 128) (fits' : auth'.value < 2 ^ 128)
    (same : signingDigest keccak256 chain contract token auth =
      signingDigest keccak256 chain' contract' token' auth') :
    chain.id = chain'.id ∧ contract = contract' ∧ token.domainName = token'.domainName ∧
      token.domainVersion = token'.domainVersion ∧ auth = auth' := by
  rw [signingDigest_eq, signingDigest_eq] at same
  -- from the outer hash to the inner ones
  have preimages := collisionFree _ (by simp [digestInputs]) _ (by simp [digestInputs]) same
  obtain ⟨domains, messages⟩ := signed_inj preimages
  have domains := collisionFree _ (by simp [digestInputs]) _ (by simp [digestInputs]) domains
  have messages := collisionFree _ (by simp [digestInputs]) _ (by simp [digestInputs]) messages
  obtain ⟨name, version, id, verifying⟩ := domain_inj domains
  have name := collisionFree _ (by simp [digestInputs]) _ (by simp [digestInputs]) name
  have version := collisionFree _ (by simp [digestInputs]) _ (by simp [digestInputs]) version
  exact ⟨id, verifying, utf8_injective name, utf8_injective version,
    message_inj fits fits' messages⟩

end Binding

def nonceInput (ctx : ContextId) : Bytes := utf8 ("mandate-ledger:x402-nonce:v1:" ++ ctx.val)

theorem nonceInput_injective : Function.Injective nonceInput := by
  intro first second same
  have texts := congrArg String.toList (utf8_injective same)
  simp only [String.toList_append] at texts
  exact StringId.val_inj.mp (String.toList_injective (List.append_cancel_left texts))

section Nonce

variable {keccak256 : Bytes → Hash32} {curve : Secp256k1} {rail : X402Rail}

theorem bindingNonce_inj {first second : ContextId}
    (collisionFree : CollisionFree keccak256 [nonceInput first, nonceInput second])
    (same : bindingNonce keccak256 first = bindingNonce keccak256 second) : first = second :=
  nonceInput_injective (collisionFree _ (by simp) _ (by simp) same)

/-- A payment that is bound to a context carries its nonce. -/
theorem verifyProof_boundCtx {now : Timestamp} {proof : PaymentPayload}
    {expected : PaymentExpectation} {verified : VerifiedProof} {auth : Authorization}
    {signature : FixedBytes 65} {ctx : ContextId}
    (accepted : rail.verifyProof keccak256 curve now proof expected = .ok verified)
    (parsed : proof.payload.parse keccak256 = .ok (auth, signature))
    (bound : verified.boundCtx = some ctx) : auth.nonce = bindingNonce keccak256 ctx := by
  obtain ⟨⟨read, own⟩, authentic, reported⟩ := X402Rail.verifyProof_reports accepted
  obtain ⟨-, signature', parsed', -⟩ := X402Rail.authenticate_eq_ok authentic
  rw [parsed] at parsed'
  cases parsed'
  obtain ⟨amount, -, rest⟩ := bind_eq_ok.mp reported
  obtain ⟨merchant, -, rest⟩ := bind_eq_ok.mp rest
  cases rest
  simp only [Option.ite_none_right_eq_some, Option.some.injEq] at bound
  obtain ⟨nonce, rfl⟩ := bound
  exact nonce

end Nonce

/-- **The payer's digest binds every field.**  The values are `u128` in the source. -/
theorem digest_binds (keccak256 : Bytes → Hash32) :
    (∀ (chain chain' : ChainId) (contract contract' : Address) (token token' : Asset)
        (auth auth' : Authorization),
      CollisionFree keccak256 (digestInputs keccak256 chain contract token auth ++
        digestInputs keccak256 chain' contract' token' auth') →
      auth.value < 2 ^ 128 → auth'.value < 2 ^ 128 →
      signingDigest keccak256 chain contract token auth =
        signingDigest keccak256 chain' contract' token' auth' →
      chain.id = chain'.id ∧ contract = contract' ∧ token.domainName = token'.domainName ∧
        token.domainVersion = token'.domainVersion ∧ auth.payer = auth'.payer ∧
        auth.payee = auth'.payee ∧ auth.value = auth'.value ∧
        auth.validAfter = auth'.validAfter ∧ auth.validBefore = auth'.validBefore ∧
        auth.nonce = auth'.nonce) ∧
    (∀ first second : ContextId,
      CollisionFree keccak256 [nonceInput first, nonceInput second] → first ≠ second →
      bindingNonce keccak256 first ≠ bindingNonce keccak256 second) ∧
    -- one authorization binds at most one context, whatever it is presented with
    (∀ (curve : Secp256k1) (rail rail' : X402Rail) (now now' : Timestamp)
        (proof proof' : PaymentPayload) (expected expected' : PaymentExpectation)
        (verified verified' : VerifiedProof) (auth : Authorization)
        (signature signature' : FixedBytes 65) (ctx ctx' : ContextId),
      CollisionFree keccak256 [nonceInput ctx, nonceInput ctx'] →
      proof.payload.parse keccak256 = .ok (auth, signature) →
      proof'.payload.parse keccak256 = .ok (auth, signature') →
      rail.verifyProof keccak256 curve now proof expected = .ok verified →
      rail'.verifyProof keccak256 curve now' proof' expected' = .ok verified' →
      verified.boundCtx = some ctx → verified'.boundCtx = some ctx' → ctx = ctx') ∧
    (∀ chain contract token auth, checkedDigest keccak256 chain contract token auth =
      some (signingDigest keccak256 chain contract token auth)) := by
  refine ⟨?_, ?_, ?_, checkedDigest_eq keccak256⟩
  · intro chain chain' contract contract' token token' auth auth' collisionFree fits fits' same
    obtain ⟨id, verifying, name, version, rfl⟩ := signingDigest_inj collisionFree fits fits' same
    exact ⟨id, verifying, name, version, rfl, rfl, rfl, rfl, rfl, rfl⟩
  · intro first second collisionFree different same
    exact different (bindingNonce_inj collisionFree same)
  · intro curve rail rail' now now' proof proof' expected expected' verified verified' auth
      signature signature' ctx ctx' collisionFree parsed parsed' accepted accepted' bound bound'
    have nonce := verifyProof_boundCtx accepted parsed bound
    have nonce' := verifyProof_boundCtx accepted' parsed' bound'
    exact bindingNonce_inj collisionFree (nonce.symm.trans nonce')

namespace Sample

/-- A digest that tells the texts below apart: a polynomial in their bytes. -/
def weigh (bytes : Bytes) : Hash32 :=
  ⟨toBigEndian 32 (bytes.foldl (fun sum byte => (sum * 257 + byte.toNat + 1) % 2 ^ 256) 0), by simp⟩

def authorization : Authorization where
  payer := nobody
  payee := payTo
  value := 10000
  validAfter := 0
  validBefore := 1800000060
  nonce := ⟨List.replicate 32 7, by decide⟩

def redirected : Authorization := { authorization with payee := payer }

def usdc : Asset := ⟨Core.Sample.usdc, 6, "USDC", "2"⟩

def shortCtx : ContextId := ⟨"ctx", by decide, by decide, "ctx", rfl⟩

/-- A payment that carries the nonce of `shortCtx`, with one of its two signatures. -/
def boundPayment (v : UInt8) : PaymentPayload :=
  { signedPayment with
    payload := ⟨"0x" ++ hexEncode (signature v).bytes,
      { authorizationBody with
        nonce := "0x" ++ hexEncode (bindingNonce weigh shortCtx).bytes }⟩ }

def boundAuthorization : Authorization :=
  { authorization with nonce := bindingNonce weigh shortCtx }

theorem boundPayment_parsed (v : UInt8) :
    (boundPayment v).payload.parse weigh = .ok (boundAuthorization, signature v) :=
  authorizationBody_parsed weigh (bindingNonce weigh shortCtx) (signature v)

theorem boundPayment_verified {v : UInt8} (legacy : v = 27 ∨ v = 28)
    {expected : PaymentExpectation} (unrecorded : expected.recordedReference = none) :
    ∃ report, rail.verifyProof weigh curve ⟨1800000000⟩ (boundPayment v) expected = .ok report ∧
      (expected.ctx = shortCtx → report.boundCtx = some shortCtx) := by
  refine ⟨_, payment_verified rfl legacy (bindingNonce weigh shortCtx) unrecorded, ?_⟩
  intro same
  rw [same]
  dsimp only
  rw [if_pos rfl]

theorem digestInputs_collisionFree :
    CollisionFree weigh (digestInputs weigh baseSepolia usdcContract usdc authorization ++
      digestInputs weigh baseSepolia usdcContract usdc redirected) := by
  unfold CollisionFree
  decide +kernel

theorem nonceInputs_collisionFree :
    CollisionFree weigh [nonceInput shortCtx, nonceInput Core.Sample.firstCtx] := by
  unfold CollisionFree
  decide +kernel

end Sample

/-- A redirected payment has another digest, two contexts have two nonces, and a payment
with the nonce of one of them is bound to that one: with its other signature and for the other
context it is accepted, but not bound to it. -/
theorem authorization_digest_binds :
    signingDigest Sample.weigh Sample.baseSepolia Sample.usdcContract Sample.usdc
        Sample.authorization ≠
      signingDigest Sample.weigh Sample.baseSepolia Sample.usdcContract Sample.usdc
        Sample.redirected ∧
    bindingNonce Sample.weigh Sample.shortCtx ≠ bindingNonce Sample.weigh Core.Sample.firstCtx ∧
    Sample.boundPayment 27 ≠ Sample.boundPayment 28 ∧
    (∃ report, Sample.rail.verifyProof Sample.weigh Sample.curve ⟨1800000000⟩
      (Sample.boundPayment 27) { Sample.expectation with ctx := Sample.shortCtx } = .ok report ∧
        report.boundCtx = some Sample.shortCtx) ∧
    ∃ report, Sample.rail.verifyProof Sample.weigh Sample.curve ⟨1800000000⟩
      (Sample.boundPayment 28) Sample.expectation = .ok report ∧
        report.boundCtx ≠ some Core.Sample.firstCtx := by
  obtain ⟨fields, nonces, contexts, -⟩ := digest_binds Sample.weigh
  obtain ⟨report, verified, bound⟩ := Sample.boundPayment_verified (.inl rfl)
    (rfl : { Sample.expectation with ctx := Sample.shortCtx }.recordedReference = none)
  obtain ⟨other, accepted, -⟩ := Sample.boundPayment_verified (.inr rfl)
    (rfl : Sample.expectation.recordedReference = none)
  refine ⟨?_, ?_, ?_, ⟨report, verified, bound rfl⟩, other, accepted, fun again => ?_⟩
  · intro same
    have payees := (fields _ _ _ _ _ _ _ _ Sample.digestInputs_collisionFree (by decide)
      (by decide) same).2.2.2.2.2.1
    exact absurd payees (by decide +kernel)
  · exact nonces _ _ Sample.nonceInputs_collisionFree (by decide +kernel)
  · intro same
    have parsed := Sample.boundPayment_parsed 27
    rw [same, Sample.boundPayment_parsed 28] at parsed
    exact absurd (congrArg FixedBytes.bytes (Prod.mk.inj (Except.ok.inj parsed)).2) (by decide)
  · have same := contexts _ _ _ _ _ _ _ _ _ _ _ _ _ _ _ _ Sample.nonceInputs_collisionFree
      (Sample.boundPayment_parsed 27) (Sample.boundPayment_parsed 28) verified accepted
      (bound rfl) again
    exact absurd same (by decide +kernel)

end MandateLedger.X402
