import MandateLedger.Core.Ledger
import MandateLedger.Data.Fallible
import MandateLedger.X402.Wire

namespace MandateLedger.X402

open MandateLedger.Core MandateLedger.Data

/-- x402's `SettlementResponse`, without its extensions. -/
structure SettlementResponse where
  success : Bool
  errorReason : Option String
  payer : Option String
  transaction : String
  network : String
  amount : Option String
deriving DecidableEq

structure Log where
  address : String
  topics : List String
  data : String
deriving DecidableEq

structure TransactionReceipt where
  transactionHash : String
  blockNumber : String
  status : String
  logs : List Log
deriving DecidableEq

inductive X402Finality where
  | facilitator (response : SettlementResponse)
  | receipt (network : String) (head : UInt64) (receipt : TransactionReceipt)
deriving DecidableEq

/-- `quantity`: `0x` and up to 16 hex digits. -/
def quantity (value : String) : Option UInt64 := do
  let hex ← strip0x value
  if hex = [] ∨ 16 < (String.ofList hex).utf8ByteSize then none
  else
    let number ← fromStrRadix UInt64.size 16 hex
    return UInt64.ofNat number

def word (value : String) : Option (FixedBytes 32) := (strip0x value).bind (decodeToSlice 32)

/-- `topic_address`: twelve zero bytes, then the address. -/
def topicAddress (topic : String) : Option Address := do
  let word ← word topic
  if (word.bytes.take 12).any (· ≠ 0) then none
  else return ⟨word.bytes.drop 12, by rw [List.length_drop, word.length_eq]⟩

namespace Log

variable (keccak256 : Bytes → Hash32) (log : Log)

def emittedBy (contract : Address) : Bool :=
  match Address.parse keccak256 log.address with
  | .ok address => address = contract
  | .error _ => false

/-- `Log::is`. -/
def isEvent (signature : String) (arguments : Nat) : Bool :=
  log.topics.length == 1 + arguments &&
    ((log.topics.head?.bind word) == some (keccak256 (utf8 signature)))

/-- `AuthorizationUsed(authorizer, nonce)` from `token`. -/
def authorizationUsed (token : Address) : Option (Address × FixedBytes 32) := do
  if !log.emittedBy keccak256 token || !log.isEvent keccak256 "AuthorizationUsed(address,bytes32)" 2
  then none
  else
    let authorizer ← log.topics[1]?.bind topicAddress
    let nonce ← log.topics[2]?.bind word
    return (authorizer, nonce)

/-- `Transfer(from, to, value)` from `token`, with a value of at most 128 bits. -/
def transfer (token : Address) : Option (Address × Address × Nat) := do
  if !log.emittedBy keccak256 token || !log.isEvent keccak256 "Transfer(address,address,uint256)" 2
  then none
  else
    let value ← word log.data
    if (value.bytes.take 16).any (· ≠ 0) then none
    else
      let sender ← log.topics[1]?.bind topicAddress
      let recipient ← log.topics[2]?.bind topicAddress
      return (sender, recipient, fromBigEndian (value.bytes.drop 16))

end Log

/-- One EIP-3009 authorization, the way the chain keys it, and when it expires. -/
structure AuthorizationRef where
  chain : ChainId
  token : Address
  payer : Address
  nonce : FixedBytes 32
  validBefore : UInt64
deriving DecidableEq

namespace AuthorizationRef

def identity (payment : AuthorizationRef) : String :=
  payment.chain.toString ++ ":" ++ payment.token.toString ++ ":" ++ payment.payer.toString ++
    ":0x" ++ hexEncode payment.nonce.bytes

def toString (payment : AuthorizationRef) : String :=
  payment.identity ++ ":" ++ Nat.repr payment.validBefore.toNat

/-- `FromStr for AuthorizationRef`, without the message. -/
def parse? (keccak256 : Bytes → Hash32) (text : String) : Option AuthorizationRef := do
  match text.toList.splitOn ':' with
  | [scheme, chain, token, payer, nonce, validBefore] =>
      if scheme ≠ "eip155".toList then none
      else
        let parsed : AuthorizationRef :=
          { chain := ← (ChainId.parseId chain).toOption
            token := ← (Address.parse keccak256 (String.ofList token)).toOption
            payer := ← (Address.parse keccak256 (String.ofList payer)).toOption
            nonce := ← (bytes 32 "nonce" (String.ofList nonce)).toOption
            validBefore := UInt64.ofNat (← fromStrRadix UInt64.size 10 validBefore) }
        -- one payment, one spelling
        if parsed.toString ≠ text then none else some parsed
  | _ => none

def parse (keccak256 : Bytes → Hash32) (text : String) : Except String AuthorizationRef :=
  match parse? keccak256 text with
  | none => .error s!"`{text}` is not an x402 payment reference"
  | some payment => .ok payment

end AuthorizationRef

/-- When the rail calls a payment final, or failed. -/
structure FinalityPolicy where
  confirmations : UInt32
  nonzero : confirmations ≠ 0
  trustFacilitator : Bool
  /-- in whole seconds -/
  expiryGrace : UInt64
deriving DecidableEq

/-- The x402 rail, as far as it judges settlements.  Its clock is read once a
call at most and stands as an argument there. -/
structure X402Rail where
  registry : AssetRegistry
  policy : FinalityPolicy

def invalid (what : String) : RailError := .invalidProof what

/-- `map_err(invalid)` of a field that was read. -/
def orInvalid {α : Type} (field : Except AdapterError α) : Except RailError α :=
  field.mapError fun why => invalid why.toString

def TransactionReceipt.block (receipt : TransactionReceipt) : Except RailError UInt64 :=
  match quantity receipt.blockNumber with
  | none => .error (invalid "blockNumber: not a hex quantity")
  | some block => .ok block

def toAsciiLowercase (text : String) : String := String.ofList (text.toList.map Char.toLower)

/-- The test `judge_receipt` puts to a transfer's `(from, to, value)`. -/
def meets (payment : AuthorizationRef) (expected : SettlementExpectation) (token : Asset) :
    Address × Address × Nat → Bool
  | (sender, recipient, value) =>
      decide (sender = payment.payer) &&
      decide ((StringId.new .merchant (accountId payment.chain recipient)).toOption =
        some expected.merchant) &&
      match money value token with
      | .ok paid => paid == expected.amount
      | .error _ => false

namespace X402Rail

variable (keccak256 : Bytes → Hash32) (rail : X402Rail)

def finalOrPending (transaction : String) (confirmations : UInt64) : FinalityStatus :=
  let needed := rail.policy.confirmations
  if needed.toUInt64 ≤ confirmations then .final (toAsciiLowercase transaction)
  else .pending s!"{confirmations.toNat} of {needed.toNat} confirmations"

def token (payment : AuthorizationRef) : Except RailError Asset :=
  match rail.registry.lookup (payment.chain, payment.token) with
  | none => .error (invalid "the payment's token is not one this rail knows")
  | some token => .ok token

/-- The amount a facilitator reports has to be the payment's. -/
def checkSettled (payment : AuthorizationRef) (expected : SettlementExpectation)
    (amount : String) : Except RailError Unit := do
  let token ← rail.token payment
  let settled ← orInvalid (do money (← uint "amount" amount) token)
  ensure (settled == expected.amount) (invalid
    s!"the facilitator settled {settled.toString}, the payment is {expected.amount.toString}")

/-- `judge_facilitator` when the facilitator reports a failure. -/
def judgeFailure (now : Timestamp) (payment : AuthorizationRef) (response : SettlementResponse) :
    FinalityStatus :=
  let reason := response.errorReason.getD "settlement failed"
  if reason = "settlement_pending" ∨ ¬ rail.policy.trustFacilitator then
    .pending s!"the facilitator reports {reason}"
  -- an `i128` comparison in the source: it cannot overflow
  else if now.secs.toInt < payment.validBefore.toNat + rail.policy.expiryGrace.toNat then
    .pending (s!"the facilitator reports {reason}; the authorization can still be " ++
      s!"settled until {payment.validBefore.toNat} and the grace after it")
  else .failed reason

def judgeFacilitator (now : Timestamp) (payment : AuthorizationRef)
    (expected : SettlementExpectation) (response : SettlementResponse) :
    Except RailError FinalityStatus := do
  ensure (response.network = payment.chain.toString)
    (invalid "the settlement response is for another network")
  ensure (∀ payer ∈ response.payer, (Address.parse keccak256 payer).toOption = some payment.payer)
    (invalid "the settlement response is for another payer")
  response.amount.forM (rail.checkSettled payment expected)
  if response.success then
    let _ ← orInvalid (bytes 32 "transaction" response.transaction)
    if rail.policy.trustFacilitator then
      return .final (toAsciiLowercase response.transaction)
    else
      return .pending
        s!"the facilitator reports {response.transaction} settled; this rail needs its receipt"
  else
    return rail.judgeFailure now payment response

/-- `judge_receipt` once the receipt is known to be of a successful transaction:
the authorization was used, and some transfer pays the merchant. -/
def judgeLogs (payment : AuthorizationRef) (expected : SettlementExpectation)
    (confirmations : UInt64) (receipt : TransactionReceipt) : Except RailError FinalityStatus := do
  let token ← rail.token payment
  let used := (receipt.logs.filterMap (·.authorizationUsed keccak256 payment.token)).any
    fun used => used = (payment.payer, payment.nonce)
  let paid := (receipt.logs.filterMap (·.transfer keccak256 payment.token)).any
    (meets payment expected token)
  ensure (used && paid) (invalid
    "the receipt does not execute this authorization, paying the merchant this amount")
  return rail.finalOrPending receipt.transactionHash confirmations

def judgeReceipt (payment : AuthorizationRef) (expected : SettlementExpectation) (head : UInt64)
    (receipt : TransactionReceipt) : Except RailError FinalityStatus := do
  let _ ← orInvalid (bytes 32 "transactionHash" receipt.transactionHash)
  let block ← receipt.block
  ensure (block ≤ head) (invalid "the head is older than the receipt's block")
  -- wraps around in a release build
  let confirmations := head - block + 1
  if receipt.status = "0x1" then
    rail.judgeLogs keccak256 payment expected confirmations receipt
  else if receipt.status = "0x0" then
    return .pending (s!"{receipt.transactionHash} reverted; " ++
      "the authorization can still be settled until it expires")
  else
    .error (invalid "status: not 0x0 or 0x1")

def checkFinality (now : Timestamp) (finality : X402Finality) (expected : SettlementExpectation) :
    Except RailError FinalityStatus := do
  let payment ← (AuthorizationRef.parse keccak256 expected.paymentReference).mapError invalid
  match finality with
  | .facilitator response => rail.judgeFacilitator keccak256 now payment expected response
  | .receipt network head receipt =>
      ensure (network = payment.chain.toString) (invalid "the receipt is from another network")
      rail.judgeReceipt keccak256 payment expected head receipt

end X402Rail

end MandateLedger.X402
