import MandateLedger.Data.JsonValue
import MandateLedger.Engine.System
import MandateLedger.X402.Rail

namespace MandateLedger.X402

open MandateLedger.Core MandateLedger.Data

/-! # The x402 rail's proofs

`payment.rs`, `eip3009.rs`, the terms of `cart.rs`, and `verify_proof` of
`rail.rs`: how the rail reads a payment, whom it takes to have signed it, and what
it reports.  Keccak-256 and secp256k1 are parameters.
-/

/-- x402's `PaymentRequirements`. -/
structure PaymentRequirements where
  scheme : String
  network : String
  amount : String
  asset : String
  payTo : String
  maxTimeoutSeconds : UInt32
  extra : Option JsonValue

structure AuthorizationBody where
  payer : String
  payee : String
  value : String
  validAfter : String
  validBefore : String
  nonce : String
deriving DecidableEq

structure ExactEvmPayload where
  signature : String
  authorization : AuthorizationBody
deriving DecidableEq

/-- x402's `PaymentPayload`, without the resource and the extensions. -/
structure PaymentPayload where
  x402Version : UInt8
  accepted : PaymentRequirements
  payload : ExactEvmPayload

/-- EIP-3009's `TransferWithAuthorization`. -/
structure Authorization where
  payer : Address
  payee : Address
  value : Nat
  validAfter : UInt64
  validBefore : UInt64
  nonce : FixedBytes 32
deriving DecidableEq

section Reading

variable (keccak256 : Bytes → Hash32)

/-- `fields::address`. -/
def address (field value : String) : Except AdapterError Address :=
  if (strip0x value).isNone then .error (.unsupported s!"{field}: only an EVM address")
  else (Address.parse keccak256 value).mapError fun why => .malformed s!"{field}: {why}"

/-- A `uint` that fits a `u64`. -/
def unixTime (field value : String) : Except AdapterError UInt64 := do
  let seconds ← uint field value
  if seconds < UInt64.size then return UInt64.ofNat seconds
  else .error (.malformed s!"{field}: not a Unix time")

/-- `ExactEvmPayload::parse`. -/
def ExactEvmPayload.parse (payload : ExactEvmPayload) :
    Except AdapterError (Authorization × FixedBytes 65) := do
  let body := payload.authorization
  let authorization : Authorization :=
    { payer := ← address keccak256 "authorization.from" body.payer
      payee := ← address keccak256 "authorization.to" body.payee
      value := ← uint "authorization.value" body.value
      validAfter := ← unixTime "authorization.validAfter" body.validAfter
      validBefore := ← unixTime "authorization.validBefore" body.validBefore
      nonce := ← bytes 32 "authorization.nonce" body.nonce }
  let signature ← (bytes 65 "signature" payload.signature).mapError fun _ => .malformed
    "signature: 0x and 130 hex digits; contract-wallet signatures are not accepted"
  return (authorization, signature)

/-- `FromStr for ChainId`. -/
def ChainId.parse (text : String) : Except AdapterError ChainId :=
  if "eip155:".toList.isPrefixOf text.toList then ChainId.parseId (text.toList.drop 7)
  else .error (.unsupported "network is not an eip155 chain id")

/-- An `exact` requirement, checked and typed. -/
structure ExactTerms where
  chain : ChainId
  asset : Address
  token : Asset
  payTo : Address
  atomicAmount : Nat
  total : Money
  maxTimeoutSeconds : UInt32

/-- `cart::extra`: the default transfer method and flow, and the asset's own EIP-712
domain. -/
def checkExtra (extra : Option JsonValue) (token : Asset) : Except AdapterError Unit := do
  let required := AdapterError.malformed "extra: name and version are required for eip3009"
  match extra with
  | none => .error required
  | some extra =>
      match extra.asObject with
      | none => .error (.malformed "extra: not an object")
      | some fields =>
          let reserved := fun key => (fields.lookup key).filter fun value => !value.isNull
          ensure (((reserved "assetTransferMethod").all fun method => method.asStr == some "eip3009") = true)
            (.unsupported "extra.assetTransferMethod: only eip3009")
          ensure (((reserved "paymentFlow").all fun flow => flow.asStr == some "authorization") = true)
            (.unsupported "extra.paymentFlow: only authorization")
          let string := fun key => (fields.lookup key).bind JsonValue.asStr
          match string "name", string "version" with
          | some name, some version =>
              ensure (name = token.domainName ∧ version = token.domainVersion)
                (.unsupported "extra.name and extra.version: not the asset's EIP-712 domain")
          | _, _ => .error required

/-- `X402CartAdapter::terms`. -/
def terms (registry : AssetRegistry) (accepted : PaymentRequirements) :
    Except AdapterError ExactTerms := do
  ensure (accepted.scheme = "exact") (.unsupported "scheme: only exact")
  let chain ← ChainId.parse accepted.network
  let asset ← address keccak256 "asset" accepted.asset
  match registry.lookup (chain, asset) with
  | none => .error (.unsupported "asset: not a token this adapter knows on this chain")
  | some token =>
      let payTo ← address keccak256 "payTo" accepted.payTo
      ensure (payTo.bytes ≠ List.replicate 20 0) (.malformed "payTo: the zero address")
      ensure (payTo ≠ asset) (.malformed "payTo: the token contract itself")
      let atomic ← uint "amount" accepted.amount
      let total ← money atomic token
      ensure (accepted.maxTimeoutSeconds ≠ 0) (.malformed "maxTimeoutSeconds: at least 1")
      checkExtra accepted.extra token
      return ⟨chain, asset, token, payTo, atomic, total, accepted.maxTimeoutSeconds⟩

end Reading

/-- `to_be_bytes`. -/
def toBigEndian (size value : Nat) : Bytes :=
  (List.range size).reverse.map fun place => UInt8.ofNat (value / 256 ^ place)

/-- One ABI word: a value right-aligned in 32 bytes. -/
def abiWord (value : Bytes) : Bytes := List.replicate (32 - value.length) 0 ++ value

/-- The parts of `k256` that recovery uses. -/
structure Secp256k1 where
  Signature : Type
  fromSlice : Bytes → Option Signature
  isHigh : Signature → Bool
  /-- the key's uncompressed SEC1 point -/
  recoverFromPrehash : Hash32 → Signature → UInt8 → Option Bytes

section Signing

variable (keccak256 : Bytes → Hash32) (curve : Secp256k1)

/-- The digest the payer signed. -/
def signingDigest (chain : ChainId) (contract : Address) (token : Asset) (auth : Authorization) :
    Hash32 :=
  let domain :=
    (keccak256 (utf8
      "EIP712Domain(string name,string version,uint256 chainId,address verifyingContract)")).bytes ++
    (keccak256 (utf8 token.domainName)).bytes ++ (keccak256 (utf8 token.domainVersion)).bytes ++
    abiWord (toBigEndian 8 chain.id.toNat) ++ abiWord contract.bytes
  let message :=
    (keccak256 (utf8 ("TransferWithAuthorization(address from,address to,uint256 value," ++
      "uint256 validAfter,uint256 validBefore,bytes32 nonce)"))).bytes ++
    abiWord auth.payer.bytes ++ abiWord auth.payee.bytes ++ abiWord (toBigEndian 16 auth.value) ++
    abiWord (toBigEndian 8 auth.validAfter.toNat) ++
    abiWord (toBigEndian 8 auth.validBefore.toNat) ++ auth.nonce.bytes
  keccak256 ([0x19, 0x01] ++ (keccak256 domain).bytes ++ (keccak256 message).bytes)

/-- The low 20 bytes of the hash of a public key. -/
def addressOf (point : Bytes) : Address :=
  let hash := keccak256 (point.drop 1)
  ⟨hash.bytes.drop 12, by rw [List.length_drop, hash.length_eq]⟩

/-- `recover`: the signer of a digest, under the token contract's rules. -/
def recover (digest : Hash32) (signature : FixedBytes 65) : Except String Address :=
  let recovery : Option UInt8 := match signature.bytes.getD 64 0 with
    | 27 => some 0
    | 28 => some 1
    | _ => none
  match recovery with
  | none => .error "signature v must be 27 or 28"
  | some recovery =>
      match curve.fromSlice (signature.bytes.take 64) with
      | none => .error "signature r or s is out of range"
      | some signature =>
          if curve.isHigh signature then
            .error "signature s is not in the lower half of the curve order"
          else
            -- `RecoveryId::from_byte` knows 0 and 1
            match curve.recoverFromPrehash digest signature recovery with
            | none => .error "signature does not recover to a key"
            | some point => .ok (addressOf keccak256 point)

/-- The nonce that binds a payment to a context. -/
def bindingNonce (ctx : ContextId) : Hash32 :=
  keccak256 (utf8 ("mandate-ledger:x402-nonce:v1:" ++ ctx.val))

end Signing

namespace X402Rail

variable (keccak256 : Bytes → Hash32) (curve : Secp256k1) (rail : X402Rail)

/-- What `verify_proof` checks whatever the ledger expects and the clock shows: the
terms, the authorization and its signature. -/
def authenticate (proof : PaymentPayload) : Except RailError (ExactTerms × Authorization) := do
  ensure (proof.x402Version = 2) (invalid "x402Version: only 2")
  let terms ← orInvalid (terms keccak256 rail.registry proof.accepted)
  let (auth, signature) ← orInvalid (proof.payload.parse keccak256)
  ensure (auth.payee = terms.payTo) (invalid
    "invalid_exact_evm_payload_recipient_mismatch: authorization.to is not accepted.payTo")
  ensure (auth.value = terms.atomicAmount) (invalid
    "invalid_exact_evm_payload_authorization_value_mismatch: authorization.value is not accepted.amount")
  let signer ← (recover keccak256 curve
    (signingDigest keccak256 terms.chain terms.asset terms.token auth) signature).mapError
      fun why => invalid s!"invalid_exact_evm_payload_signature: {why}"
  ensure (signer = auth.payer) (invalid
    "invalid_exact_evm_payload_signature: not signed by authorization.from")
  return (terms, auth)

def authorizationRef (terms : ExactTerms) (auth : Authorization) : AuthorizationRef where
  chain := terms.chain
  token := terms.asset
  payer := auth.payer
  nonce := auth.nonce
  validBefore := auth.validBefore

/-- Six seconds, `SETTLEMENT_MARGIN_SECS`, must be left to settle the payment. -/
def checkFresh (now : Timestamp) (auth : Authorization) : Except RailError Unit := do
  ensure (¬ (auth.validBefore.toNat : Int) < now.secs.toInt + 6) (invalid
    "invalid_exact_evm_payload_authorization_valid_before: expired, or too close to expiry to settle")
  ensure (¬ now.secs.toInt < auth.validAfter.toNat) (invalid
    "invalid_exact_evm_payload_authorization_valid_after: not yet valid")

/-- What `verify_proof` reports. -/
def report (ctx : ContextId) (terms : ExactTerms) (auth : Authorization) :
    Except RailError VerifiedProof := do
  let payment := authorizationRef terms auth
  let amount ← orInvalid (money auth.value terms.token)
  let merchant ← (StringId.new .merchant (accountId terms.chain auth.payee)).mapError
    fun why => invalid why.toString
  return {
    nonce := payment.identity
    reference := payment.toString
    amount := amount
    boundCtx := if auth.nonce = bindingNonce keccak256 ctx then some ctx else none
    boundCart := none
    boundMerchant := some merchant }

/-- `X402Rail::verify_proof`. -/
def verifyProof (now : Timestamp) (proof : PaymentPayload) (expected : PaymentExpectation) :
    Except RailError VerifiedProof := do
  let (terms, auth) ← rail.authenticate keccak256 curve proof
  -- freshness is for a payment being recorded
  if expected.recordedReference ≠ some (authorizationRef terms auth).toString then
    checkFresh now auth
  report keccak256 expected.ctx terms auth

def surroundings (now : Timestamp) : Engine.Surroundings PaymentPayload X402Finality where
  now := now
  verify := fun _ proof expected => rail.verifyProof keccak256 curve now proof expected
  judge := fun _ finality expected => rail.checkFinality keccak256 now finality expected

end X402Rail

section Accepted

variable {keccak256 : Bytes → Hash32} {curve : Secp256k1} {registry : AssetRegistry}
  {rail : X402Rail}

structure ReadTerms (keccak256 : Bytes → Hash32) (registry : AssetRegistry)
    (accepted : PaymentRequirements) (read : ExactTerms) : Prop where
  chain : ChainId.parse accepted.network = .ok read.chain
  asset : address keccak256 "asset" accepted.asset = .ok read.asset
  known : registry.lookup (read.chain, read.asset) = some read.token
  payTo : address keccak256 "payTo" accepted.payTo = .ok read.payTo
  atomicAmount : uint "amount" accepted.amount = .ok read.atomicAmount
  priced : money read.atomicAmount read.token = .ok read.total

theorem terms_eq_ok {accepted : PaymentRequirements} {read : ExactTerms}
    (checked : terms keccak256 registry accepted = .ok read) :
    ReadTerms keccak256 registry accepted read := by
  obtain ⟨-, rest⟩ := check_bind_eq_ok.mp checked
  obtain ⟨chain, network, rest⟩ := bind_eq_ok.mp rest
  obtain ⟨asset, contract, rest⟩ := bind_eq_ok.mp rest
  cases known : registry.lookup (chain, asset) with
  | none =>
      rw [known] at rest
      cases rest
  | some token =>
      rw [known] at rest
      obtain ⟨payTo, payee, rest⟩ := bind_eq_ok.mp rest
      obtain ⟨-, rest⟩ := check_bind_eq_ok.mp rest
      obtain ⟨-, rest⟩ := check_bind_eq_ok.mp rest
      obtain ⟨atomic, amount, rest⟩ := bind_eq_ok.mp rest
      obtain ⟨total, priced, rest⟩ := bind_eq_ok.mp rest
      obtain ⟨-, rest⟩ := check_bind_eq_ok.mp rest
      obtain ⟨-, rest⟩ := check_bind_eq_ok.mp rest
      cases rest
      exact ⟨network, contract, known, payee, amount, priced⟩

theorem X402Rail.authenticate_eq_ok {proof : PaymentPayload} {read : ExactTerms}
    {auth : Authorization} (authentic : rail.authenticate keccak256 curve proof = .ok (read, auth)) :
    terms keccak256 rail.registry proof.accepted = .ok read ∧
      ∃ signature, proof.payload.parse keccak256 = .ok (auth, signature) ∧
        auth.payee = read.payTo ∧ auth.value = read.atomicAmount ∧
        recover keccak256 curve (signingDigest keccak256 read.chain read.asset read.token auth)
          signature = .ok auth.payer := by
  obtain ⟨-, rest⟩ := check_bind_eq_ok.mp authentic
  obtain ⟨own, checked, rest⟩ := bind_eq_ok.mp rest
  obtain ⟨⟨signed, signature⟩, parsed, rest⟩ := bind_eq_ok.mp rest
  obtain ⟨payee, rest⟩ := check_bind_eq_ok.mp rest
  obtain ⟨value, rest⟩ := check_bind_eq_ok.mp rest
  obtain ⟨signer, recovered, rest⟩ := bind_eq_ok.mp rest
  obtain ⟨payer, rest⟩ := check_bind_eq_ok.mp rest
  cases rest
  have payer := ensure_eq_ok.mp payer
  refine ⟨mapError_eq_ok.mp checked, signature, mapError_eq_ok.mp parsed, ensure_eq_ok.mp payee,
    ensure_eq_ok.mp value, ?_⟩
  rw [← payer]
  exact mapError_eq_ok.mp recovered

end Accepted

theorem X402Rail.report_reference {keccak256 : Bytes → Hash32} {ctx : ContextId}
    {terms : ExactTerms} {auth : Authorization} {verified : VerifiedProof}
    (reported : X402Rail.report keccak256 ctx terms auth = .ok verified) :
    verified.reference = (X402Rail.authorizationRef terms auth).toString := by
  obtain ⟨amount, -, rest⟩ := bind_eq_ok.mp reported
  obtain ⟨merchant, -, rest⟩ := bind_eq_ok.mp rest
  cases rest
  rfl

theorem X402Rail.verifyProof_reports {keccak256 : Bytes → Hash32} {curve : Secp256k1}
    {rail : X402Rail} {now : Timestamp} {proof : PaymentPayload} {expected : PaymentExpectation}
    {verified : VerifiedProof}
    (accepted : rail.verifyProof keccak256 curve now proof expected = .ok verified) :
    ∃ read, rail.authenticate keccak256 curve proof = .ok read ∧
      X402Rail.report keccak256 expected.ctx read.1 read.2 = .ok verified := by
  obtain ⟨read, authentic, rest⟩ := bind_eq_ok.mp accepted
  refine ⟨read, authentic, ?_⟩
  dsimp only at rest
  split at rest
  · exact (check_bind_eq_ok.mp rest).2
  · exact rest

/-- A proof that was verified is verified again under its recorded reference, whatever
the clock shows by then. -/
theorem X402Rail.verifyProof_again {keccak256 : Bytes → Hash32} {curve : Secp256k1}
    {rail : X402Rail} {now : Timestamp} {proof : PaymentPayload} {expected : PaymentExpectation}
    {verified : VerifiedProof}
    (accepted : rail.verifyProof keccak256 curve now proof expected = .ok verified)
    (later : Timestamp) :
    rail.verifyProof keccak256 curve later proof
      { expected with recordedReference := some verified.reference } = .ok verified := by
  obtain ⟨⟨terms, auth⟩, authentic, reported⟩ := verifyProof_reports accepted
  unfold verifyProof
  rw [authentic, ok_bind]
  dsimp only
  rw [if_neg (not_not.mpr (congrArg some (report_reference reported)))]
  exact reported

end MandateLedger.X402
