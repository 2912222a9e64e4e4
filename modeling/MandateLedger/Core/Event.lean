import MandateLedger.Core.Mandate

namespace MandateLedger.Core

inductive PaymentState where
  | authorized
  | paid
  | settled
  | settlementFailed
  | compensated
  | delivered
  | expired
deriving DecidableEq

namespace PaymentState

/-- `PaymentState::can_transition_to`. -/
def canTransitionTo : PaymentState → PaymentState → Bool
  | .authorized, .paid | .authorized, .expired => true
  | .paid, .settled | .paid, .settlementFailed => true
  | .settlementFailed, .compensated => true
  | .settled, .delivered => true
  | _, _ => false

def isTerminal : PaymentState → Bool
  | .compensated | .delivered | .expired => true
  | _ => false

/-- `Debug`. -/
def debug : PaymentState → String
  | .authorized => "Authorized"
  | .paid => "Paid"
  | .settled => "Settled"
  | .settlementFailed => "SettlementFailed"
  | .compensated => "Compensated"
  | .delivered => "Delivered"
  | .expired => "Expired"

/-- The states that hold a reservation: from `Authorized` on, until a failed
settlement or an expiry gives it back. -/
def isLive : PaymentState → Bool
  | .authorized | .paid | .settled | .delivered => true
  | .settlementFailed | .compensated | .expired => false

/-- The moves that keep a context on the side of the budget it is on. -/
theorem isLive_of_plain {state target : PaymentState} (legal : state.canTransitionTo target = true)
    (plain : target = .paid ∨ target = .settled ∨ target = .compensated ∨ target = .delivered) :
    state.isLive = target.isLive := by
  obtain rfl | rfl | rfl | rfl := plain <;> cases state <;> first | rfl | cases legal

theorem isLive_of_giving {state target : PaymentState} (legal : state.canTransitionTo target = true)
    (giving : target = .settlementFailed ∨ target = .expired) :
    state.isLive = true ∧ target.isLive = false := by
  obtain rfl | rfl := giving <;> cases state <;> first | exact ⟨rfl, rfl⟩ | cases legal

theorem not_canTransitionTo_of_isTerminal {state next : PaymentState}
    (terminal : state.isTerminal = true) : state.canTransitionTo next = false := by
  cases state <;> cases next <;> first | rfl | cases terminal

theorem canTransitionTo_paid {state : PaymentState} :
    state.canTransitionTo .paid = true ↔ state = .authorized := by
  cases state <;> simp [canTransitionTo]

theorem canTransitionTo_expired {state : PaymentState} :
    state.canTransitionTo .expired = true ↔ state = .authorized := by
  cases state <;> simp [canTransitionTo]

theorem not_canTransitionTo_self (state : PaymentState) : state.canTransitionTo state = false := by
  cases state <;> rfl

theorem not_canTransitionTo_authorized (state : PaymentState) :
    state.canTransitionTo .authorized = false := by
  cases state <;> rfl

end PaymentState

inductive Stage where
  | authorize
  | payment
  | settlement
  | compensation
  | delivery
  | expiry
deriving DecidableEq

structure CartSnapshot where
  hash : Hash32
  claims : ScopeClaims
  attestation : Attestation
  raw : Bytes
deriving DecidableEq

def Cart.snapshot (sha256 : Bytes → Hash32) (cart : Cart) : CartSnapshot where
  hash := cart.hash sha256
  claims := cart.claims
  attestation := cart.attestation
  raw := cart.raw

structure DeliveryReceipt where
  reference : String
  attestation : Attestation
deriving DecidableEq

inductive EventBody where
  | authorized (mandate : Mandate) (cart : CartSnapshot) (requestKey : String)
  | denied (stage : Stage) (reason : DenyReason) (detail : String)
  | paid (rail reference nonce : String) (amount : Money) (idempotencyKey : Hash32)
  | settled (rail reference : String)
  | settlementFailed (rail reason : String)
  | compensated (reference : Option String)
  | delivered (receipt : DeliveryReceipt)
  | expired
deriving DecidableEq

namespace EventBody

def resultingState : EventBody → Option PaymentState
  | .authorized .. => some .authorized
  | .paid .. => some .paid
  | .settled .. => some .settled
  | .settlementFailed .. => some .settlementFailed
  | .compensated .. => some .compensated
  | .delivered .. => some .delivered
  | .expired => some .expired
  | .denied .. => none

def isDenied : EventBody → Bool
  | .denied .. => true
  | _ => false

def mandate? : EventBody → Option Mandate
  | .authorized mandate _ _ => some mandate
  | _ => none

theorem mandate?_eq_none {body : EventBody} {target : PaymentState}
    (moves : body.resultingState = some target) (other : target ≠ .authorized) :
    body.mandate? = none := by
  cases body with
  | authorized => exact absurd (Option.some.inj moves).symm other
  | _ => rfl

theorem resultingState_eq_none {body : EventBody} :
    body.resultingState = none ↔ body.isDenied = true := by
  cases body <;> simp [resultingState, isDenied]

end EventBody

/-- One entry of a context's hash chain.  The source calls the time `at`. -/
structure Event where
  seq : Nat
  ctx : ContextId
  recordedAt : Timestamp
  prevHash : Hash32
  hash : Hash32
  body : EventBody
deriving DecidableEq

/-- What an event's hash covers besides its predecessor. -/
structure Preimage where
  seq : Nat
  ctx : ContextId
  recordedAt : Timestamp
  body : EventBody
deriving DecidableEq

/-- The libraries the engine stands on: decimal arithmetic, Ed25519, SHA-256,
canonical JSON, and how Rust's `Debug` quotes a string. -/
structure Externals where
  decimals : DecimalOps
  signatures : Signatures
  sha256 : Bytes → Hash32
  canonicalPreimage : Preimage → Except CanonicalizeError Bytes
  debugStr : String → String

/-- `Hash32::chain`. -/
def Hash32.chain (sha256 : Bytes → Hash32) (previous : Hash32) (bytes : Bytes) : Hash32 :=
  sha256 (previous.bytes ++ bytes)

namespace Event

/-- `Event::compute_hash`. -/
def computeHash (externals : Externals) (prevHash : Hash32) (preimage : Preimage) :
    Except CanonicalizeError Hash32 := do
  let bytes ← externals.canonicalPreimage preimage
  return Hash32.chain externals.sha256 prevHash bytes

/-- `Event::new`. -/
def new (externals : Externals) (prevHash : Hash32) (seq : Nat) (ctx : ContextId)
    (now : Timestamp) (body : EventBody) : Except CanonicalizeError Event := do
  let hash ← computeHash externals prevHash ⟨seq, ctx, now, body⟩
  return ⟨seq, ctx, now, prevHash, hash, body⟩

/-- `Event::verify_hash`. -/
def verifyHash (externals : Externals) (event : Event) : Except CanonicalizeError Bool := do
  let expected ← computeHash externals event.prevHash
    ⟨event.seq, event.ctx, event.recordedAt, event.body⟩
  return expected = event.hash

/-- What `Event::new` fixes of the event it builds. -/
theorem new_eq_ok {externals : Externals} {prevHash : Hash32} {seq : Nat} {ctx : ContextId}
    {now : Timestamp} {body : EventBody} {event : Event}
    (built : Event.new externals prevHash seq ctx now body = .ok event) :
    event.seq = seq ∧ event.ctx = ctx ∧ event.recordedAt = now ∧ event.prevHash = prevHash ∧
      event.body = body ∧ event.verifyHash externals = .ok true := by
  obtain ⟨hash, computed, made⟩ := Data.bind_eq_ok.mp built
  cases made
  refine ⟨rfl, rfl, rfl, rfl, rfl, ?_⟩
  simp [verifyHash, computed, pure, Except.pure]

end Event

/-- `EVIDENCE_VERSION`. -/
def evidenceVersion : UInt16 := 1

structure EvidenceBundle where
  version : UInt16
  ctx : ContextId
  generatedAt : Timestamp
  events : List Event
deriving DecidableEq

namespace EvidenceBundle

def new (ctx : ContextId) (generatedAt : Timestamp) (events : List Event) : EvidenceBundle where
  version := evidenceVersion
  ctx := ctx
  generatedAt := generatedAt
  events := events

/-- `EvidenceBundle::final_state`. -/
def finalState (bundle : EvidenceBundle) : Option PaymentState :=
  bundle.events.reverse.findSome? fun event => event.body.resultingState

theorem finalState_eq (bundle : EvidenceBundle) :
    bundle.finalState =
      (bundle.events.filterMap fun event => event.body.resultingState).getLast? := by
  rw [finalState, List.getLast?_eq_head?_reverse, ← List.filterMap_reverse, List.head?_filterMap]

end EvidenceBundle

-- Two principals, mandates over 100.00, a cart of 60.00 and the digests they need.
namespace Sample

def mandateId : MandateId := ⟨"m-1", by decide, by decide, "m-1", rfl⟩

def otherId : MandateId := ⟨"m-2", by decide, by decide, "m-2", rfl⟩

def alice : PrincipalId := ⟨"alice", by decide, by decide, "alice", rfl⟩

def bob : PrincipalId := ⟨"bob", by decide, by decide, "bob", rfl⟩

def agent : AgentId := ⟨"agent", by decide, by decide, "agent", rfl⟩

def merchant : MerchantId := ⟨"shop", by decide, by decide, "Shop ", by decide⟩

def usdc : Currency := ⟨"USDC", by decide⟩

def cents (amount : Nat) : Money := ⟨⟨false, amount, 2⟩, usdc⟩

def signer (principal : PrincipalId) : SignerKey :=
  ⟨List.replicate 32 (if principal = bob then 8 else 7), by simp⟩

def signature : FixedBytes 64 := ⟨List.replicate 64 9, by simp⟩

def mandateAs (id : MandateId) (principal : PrincipalId) : Mandate where
  body :=
    { id := id
      principal := principal
      agent := agent
      scope :=
        { merchants := [.any]
          categories := none
          currency := usdc
          maxPerTxn := none
          maxTotal := some (cents 10000)
          validFrom := ⟨0⟩
          validUntil := ⟨2000⟩
          velocity := none
          minAttestation := .agentReported }
      issuedAt := ⟨0⟩
      parent := none }
  signer := signer principal
  signature := signature

def mandate (principal : PrincipalId) : Mandate := mandateAs mandateId principal

def cart : Cart where
  claims := ⟨merchant, cents 6000, none, none⟩
  attestation := .agentReported
  raw := utf8 "\x7b\"cart\":1\x7d"

def cartHash : Hash32 :=
  ⟨[85, 121, 241, 9, 122, 134, 1, 40, 122, 200, 38, 89, 149, 113, 136, 21, 141, 52, 148, 156,
    54, 26, 101, 118, 105, 198, 140, 220, 100, 159, 148, 78], rfl⟩

def firstDigest : Hash32 :=
  ⟨[166, 51, 105, 122, 25, 223, 154, 247, 90, 175, 28, 16, 233, 200, 28, 202, 243, 118, 219,
    178, 4, 191, 218, 179, 162, 19, 18, 107, 165, 146, 160, 122], rfl⟩

def secondDigest : Hash32 :=
  ⟨[238, 64, 105, 132, 132, 214, 94, 33, 174, 233, 139, 213, 85, 23, 160, 162, 105, 106, 190,
    75, 33, 106, 199, 134, 179, 182, 148, 143, 42, 247, 227, 240], rfl⟩

def otherDigest : Hash32 :=
  ⟨[20, 185, 146, 176, 8, 144, 161, 6, 49, 216, 171, 208, 64, 143, 250, 24, 212, 112, 145, 58,
    167, 101, 150, 77, 219, 230, 246, 71, 31, 122, 50, 157], rfl⟩

def paymentKey : Hash32 :=
  ⟨[194, 179, 148, 255, 26, 111, 234, 142, 201, 49, 9, 124, 57, 8, 234, 9, 114, 216, 42, 156,
    212, 158, 53, 64, 73, 127, 33, 116, 87, 232, 81, 98], rfl⟩

/-- SHA-256 on the bytes the sample hashes. -/
def sha256 (bytes : Bytes) : Hash32 :=
  if bytes = cart.raw then cartHash
  else if bytes = ContextId.preimage mandateId cartHash "k1" then firstDigest
  else if bytes = ContextId.preimage mandateId cartHash "k2" then secondDigest
  else if bytes = ContextId.preimage otherId cartHash "k1" then otherDigest
  else if bytes = utf8 "ctx_a633697a19df9af75aaf1c10e9c81cca" ++ [0x1f] ++ utf8 "mock" ++ [0x1f] ++
    utf8 "pay-1" then paymentKey
  else .zero

def externals : Externals where
  decimals := .aligned
  signatures :=
    { signingBytes := fun body => .ok (utf8 body.id.val)
      validKey := fun key => key == signer alice || key == signer bob
      verifyStrict := fun _ _ given => given == signature }
  sha256 := sha256
  canonicalPreimage := fun preimage => .ok (utf8 preimage.ctx.val)
  debugStr := fun text => "\"" ++ text ++ "\""

def firstCtx : ContextId := ContextId.derive sha256 mandateId cartHash "k1"

def secondCtx : ContextId := ContextId.derive sha256 mandateId cartHash "k2"

end Sample

end MandateLedger.Core
