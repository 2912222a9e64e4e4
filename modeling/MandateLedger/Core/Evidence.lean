import MandateLedger.Core.Event
import MandateLedger.Data.Linked

namespace MandateLedger.Core

open MandateLedger.Data

/-- `EvidenceError`, as far as `verify` returns it. -/
inductive EvidenceError where
  | unsupportedVersion (version : UInt16)
  | empty
  | wrongContext (seq : Nat)
  | sequenceNotIncreasing (seq : Nat)
  | brokenChain (seq : Nat)
  | hashMismatch (seq : Nat)
  | canonicalize (error : CanonicalizeError)
deriving DecidableEq

namespace EvidenceBundle

/-- The body of the loop, for the event after `prev` and `lastSeq`. -/
def verifyEvent (externals : Externals) (ctx : ContextId) (prev : Hash32) (lastSeq : Nat)
    (event : Event) : Except EvidenceError Unit := do
  ensure (event.ctx = ctx) (.wrongContext event.seq)
  ensure (lastSeq < event.seq) (.sequenceNotIncreasing event.seq)
  ensure (event.prevHash = prev) (.brokenChain event.seq)
  let recomputed ← (event.verifyHash externals).mapError .canonicalize
  ensure (recomputed = true) (.hashMismatch event.seq)

def verifyEvents (externals : Externals) (ctx : ContextId) :
    Hash32 → Nat → List Event → Except EvidenceError Unit
  | _, _, [] => .ok ()
  | prev, lastSeq, event :: rest => do
      verifyEvent externals ctx prev lastSeq event
      verifyEvents externals ctx event.hash event.seq rest

/-- `EvidenceBundle::verify`. -/
def verify (externals : Externals) (bundle : EvidenceBundle) : Except EvidenceError Unit := do
  ensure (bundle.version = evidenceVersion) (.unsupportedVersion bundle.version)
  ensure (bundle.events ≠ []) .empty
  verifyEvents externals bundle.ctx .zero 0 bundle.events

end EvidenceBundle

/-- A chain that continues from `prev` and `lastSeq`. -/
structure Intact (externals : Externals) (ctx : ContextId) (prev : Hash32) (lastSeq : Nat)
    (events : List Event) : Prop where
  own : ∀ event ∈ events, event.ctx = ctx
  increasing : (lastSeq :: events.map Event.seq).Pairwise (· < ·)
  linked : Linked Event.prevHash Event.hash prev events
  hashed : ∀ event ∈ events, event.verifyHash externals = .ok true

section Verify

variable {externals : Externals} {ctx : ContextId} {prev : Hash32} {lastSeq : Nat}
  {events : List Event} {event : Event}

theorem verifyEvent_eq_ok :
    EvidenceBundle.verifyEvent externals ctx prev lastSeq event = .ok () ↔
      event.ctx = ctx ∧ lastSeq < event.seq ∧ event.prevHash = prev ∧
        event.verifyHash externals = .ok true := by
  simp only [EvidenceBundle.verifyEvent, bind_eq_ok, ensure_eq_ok, mapError_eq_ok,
    exists_const, exists_eq_right]

theorem intact_nil : Intact externals ctx prev lastSeq [] :=
  ⟨by simp, by simp, trivial, by simp⟩

theorem intact_cons :
    Intact externals ctx prev lastSeq (event :: events) ↔
      (event.ctx = ctx ∧ lastSeq < event.seq ∧ event.prevHash = prev ∧
        event.verifyHash externals = .ok true) ∧
      Intact externals ctx event.hash event.seq events := by
  constructor
  · intro intact
    obtain ⟨own, increasing, linked, hashed⟩ := intact
    rw [List.map_cons, List.pairwise_cons] at increasing
    refine ⟨⟨own event (by simp), increasing.1 event.seq (by simp), linked.1,
      hashed event (by simp)⟩, ?_⟩
    exact ⟨fun later listed => own later (by simp [listed]), increasing.2, linked.2,
      fun later listed => hashed later (by simp [listed])⟩
  · intro parts
    obtain ⟨⟨own, later, prevHash, hashed⟩, rest⟩ := parts
    refine ⟨?_, ?_, ⟨prevHash, rest.linked⟩, ?_⟩
    · simpa [own] using rest.own
    · have above := (List.pairwise_cons.mp rest.increasing).1
      rw [List.map_cons, List.pairwise_cons]
      refine ⟨?_, rest.increasing⟩
      intro seq listed
      rcases List.mem_cons.mp listed with rfl | listed
      · exact later
      · exact later.trans (above seq listed)
    · simpa [hashed] using rest.hashed

/-- The loop accepts exactly the intact chains. -/
theorem verifyEvents_eq_ok :
    EvidenceBundle.verifyEvents externals ctx prev lastSeq events = .ok () ↔
      Intact externals ctx prev lastSeq events := by
  induction events generalizing prev lastSeq with
  | nil => simp [EvidenceBundle.verifyEvents, intact_nil]
  | cons event rest ih =>
      rw [EvidenceBundle.verifyEvents, check_bind_eq_ok, verifyEvent_eq_ok, ih, intact_cons]

theorem verify_eq_ok {bundle : EvidenceBundle} :
    bundle.verify externals = .ok () ↔
      bundle.version = evidenceVersion ∧ bundle.events ≠ [] ∧
        Intact externals bundle.ctx .zero 0 bundle.events := by
  simp only [EvidenceBundle.verify, check_bind_eq_ok, ensure_eq_ok, verifyEvents_eq_ok]

theorem Intact.append (intact : Intact externals ctx .zero 0 events) (own : event.ctx = ctx)
    (later : ∀ earlier ∈ events, earlier.seq < event.seq) (positive : 0 < event.seq)
    (linked : event.prevHash = tip Event.hash .zero events)
    (hashed : event.verifyHash externals = .ok true) :
    Intact externals ctx .zero 0 (events ++ [event]) := by
  refine ⟨?_, ?_, linked_append.mpr ⟨intact.linked, linked⟩, ?_⟩
  · simpa [or_imp, forall_and, own] using intact.own
  · rw [List.map_append, ← List.cons_append, List.pairwise_append]
    refine ⟨intact.increasing, by simp, ?_⟩
    simpa [positive] using later
  · simpa [or_imp, forall_and, hashed] using intact.hashed

end Verify

def Event.preimage (event : Event) : Preimage :=
  ⟨event.seq, event.ctx, event.recordedAt, event.body⟩

/-- The byte strings that are hashed for some events. -/
def hashedInputs (externals : Externals) (events : List Event) : Set Bytes :=
  {bytes | ∃ event ∈ events, ∃ json, externals.canonicalPreimage event.preimage = .ok json ∧
    bytes = event.prevHash.bytes ++ json}

/-- What the hash and the canonical encoding have to do on the events at hand:
no two hashed inputs collide, none hashes to the anchor, and no two events have
one encoding. -/
structure Binding (externals : Externals) (events : List Event) : Prop where
  collisionFree : Set.InjOn externals.sha256 (hashedInputs externals events)
  nonzero : ∀ bytes ∈ hashedInputs externals events, externals.sha256 bytes ≠ .zero
  canonical : ∀ event ∈ events, ∀ other ∈ events, ∀ json,
    externals.canonicalPreimage event.preimage = .ok json →
    externals.canonicalPreimage other.preimage = .ok json → event.preimage = other.preimage

section Binding

variable {externals : Externals} {events : List Event} {event other : Event}

theorem verifyHash_eq_ok_true :
    event.verifyHash externals = .ok true ↔
      ∃ json, externals.canonicalPreimage event.preimage = .ok json ∧
        externals.sha256 (event.prevHash.bytes ++ json) = event.hash := by
  simp only [Event.verifyHash, Event.computeHash, bind_eq_ok, pure_eq_ok, Event.preimage,
    Hash32.chain]
  constructor
  · rintro ⟨_, ⟨json, encoded, rfl⟩, same⟩
    exact ⟨json, encoded, of_decide_eq_true same⟩
  · rintro ⟨json, encoded, same⟩
    exact ⟨_, ⟨json, encoded, rfl⟩, decide_eq_true same⟩

theorem Event.ext_of_preimage (preimage : event.preimage = other.preimage)
    (prevHash : event.prevHash = other.prevHash) (hash : event.hash = other.hash) :
    event = other := by
  cases event
  cases other
  simp_all [Event.preimage]

/-- A hash that was computed determines the event, its predecessor's hash
included: the latter is a prefix of fixed length. -/
theorem Binding.eq_of_hash (binding : Binding externals events) (listed : event ∈ events)
    (otherListed : other ∈ events) (hashed : event.verifyHash externals = .ok true)
    (otherHashed : other.verifyHash externals = .ok true) (same : event.hash = other.hash) :
    event = other := by
  obtain ⟨json, encoded, computed⟩ := verifyHash_eq_ok_true.mp hashed
  obtain ⟨otherJson, otherEncoded, otherComputed⟩ := verifyHash_eq_ok_true.mp otherHashed
  have inputs : event.prevHash.bytes ++ json = other.prevHash.bytes ++ otherJson := by
    apply binding.collisionFree ⟨event, listed, json, encoded, rfl⟩
      ⟨other, otherListed, otherJson, otherEncoded, rfl⟩
    rw [computed, otherComputed, same]
  have lengths : event.prevHash.bytes.length = other.prevHash.bytes.length := by
    rw [event.prevHash.length_eq, other.prevHash.length_eq]
  obtain ⟨prefixes, rfl⟩ := List.append_inj inputs lengths
  have preimage := binding.canonical event listed other otherListed json encoded otherEncoded
  exact Event.ext_of_preimage preimage (FixedBytes.bytes_inj.mp prefixes) same

theorem Binding.hash_ne_zero (binding : Binding externals events) (listed : event ∈ events)
    (hashed : event.verifyHash externals = .ok true) : event.hash ≠ .zero := by
  obtain ⟨json, encoded, computed⟩ := verifyHash_eq_ok_true.mp hashed
  rw [← computed]
  exact binding.nonzero _ ⟨event, listed, json, encoded, rfl⟩

end Binding

namespace Sample

def numbered : Externals where
  decimals := .aligned
  signatures := externals.signatures
  sha256 := fun bytes => ⟨List.replicate 31 1 ++ [bytes.getLastD 0], by simp⟩
  canonicalPreimage := fun preimage => .ok [UInt8.ofNat preimage.seq]
  debugStr := externals.debugStr

def refusal (seq : Nat) (prevHash hash : Hash32) : Event where
  seq := seq
  ctx := firstCtx
  recordedAt := ⟨10⟩
  prevHash := prevHash
  hash := hash
  body := .denied .payment .contextNotFound "no context"

def refusals (generatedAt : Timestamp) : EvidenceBundle :=
  let digest := fun seq : UInt8 => (⟨List.replicate 31 1 ++ [seq], by simp⟩ : Hash32)
  .new firstCtx generatedAt [refusal 1 .zero (digest 1), refusal 2 (digest 1) (digest 2)]

theorem refusals_binding :
    Binding numbered ((refusals ⟨20⟩).events ++ (refusals ⟨30⟩).events) where
  collisionFree := by
    have pairs : ∀ event ∈ (refusals ⟨20⟩).events ++ (refusals ⟨30⟩).events,
        ∀ other ∈ (refusals ⟨20⟩).events ++ (refusals ⟨30⟩).events,
        numbered.sha256 (event.prevHash.bytes ++ [UInt8.ofNat event.seq]) =
          numbered.sha256 (other.prevHash.bytes ++ [UInt8.ofNat other.seq]) →
        event.prevHash.bytes ++ [UInt8.ofNat event.seq] =
          other.prevHash.bytes ++ [UInt8.ofNat other.seq] := by
      decide +kernel
    rintro _ ⟨event, listed, json, encoded, rfl⟩ _ ⟨other, otherListed, _, otherEncoded, rfl⟩
    cases encoded
    cases otherEncoded
    exact pairs event listed other otherListed
  nonzero := by
    have each : ∀ event ∈ (refusals ⟨20⟩).events ++ (refusals ⟨30⟩).events,
        numbered.sha256 (event.prevHash.bytes ++ [UInt8.ofNat event.seq]) ≠ .zero := by
      decide +kernel
    rintro _ ⟨event, listed, json, encoded, rfl⟩
    cases encoded
    exact each event listed
  canonical := by
    have pairs : ∀ event ∈ (refusals ⟨20⟩).events ++ (refusals ⟨30⟩).events,
        ∀ other ∈ (refusals ⟨20⟩).events ++ (refusals ⟨30⟩).events,
        UInt8.ofNat event.seq = UInt8.ofNat other.seq → event.preimage = other.preimage := by
      decide +kernel
    intro event listed other otherListed json encoded otherEncoded
    have same : [UInt8.ofNat event.seq] = [UInt8.ofNat other.seq] :=
      Except.ok.inj (encoded.trans otherEncoded.symm)
    exact pairs event listed other otherListed (List.head_eq_of_cons_eq same)

end Sample

/-- Two bundles that verify and end in the same hash hold the same events of the
same context. -/
theorem events_eq_of_head {externals : Externals} {left right : EvidenceBundle}
    (binding : Binding externals (left.events ++ right.events))
    (leftVerified : left.verify externals = .ok ())
    (rightVerified : right.verify externals = .ok ())
    (heads : left.events.getLast?.map Event.hash = right.events.getLast?.map Event.hash) :
    left.events = right.events ∧ left.ctx = right.ctx := by
  obtain ⟨-, nonempty, leftIntact⟩ := verify_eq_ok.mp leftVerified
  obtain ⟨-, -, rightIntact⟩ := verify_eq_ok.mp rightVerified
  have same : left.events = right.events := by
    refine leftIntact.linked.eq_of_tip rightIntact.linked ?_ ?_ ?_ ?_
    · intro event listed other otherListed hash
      exact binding.eq_of_hash (by simp [listed]) (by simp [otherListed])
        (leftIntact.hashed event listed) (rightIntact.hashed other otherListed) hash
    · intro event listed
      exact binding.hash_ne_zero (by simp [listed]) (leftIntact.hashed event listed)
    · intro event listed
      exact binding.hash_ne_zero (by simp [listed]) (rightIntact.hashed event listed)
    · rw [tip, tip, heads]
  refine ⟨same, ?_⟩
  obtain ⟨event, listed⟩ := List.exists_mem_of_ne_nil _ nonempty
  rw [← leftIntact.own event listed]
  exact rightIntact.own event (same ▸ listed)

theorem refusals_events_eq :
    (Sample.refusals ⟨20⟩).events = (Sample.refusals ⟨30⟩).events ∧
      (Sample.refusals ⟨20⟩).ctx = (Sample.refusals ⟨30⟩).ctx :=
  events_eq_of_head Sample.refusals_binding (by decide +kernel) (by decide +kernel) rfl

end MandateLedger.Core
