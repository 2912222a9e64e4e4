import MandateLedger.Adapters.Native
import MandateLedger.Engine.Operations
import MandateLedger.Engine.Replays
import MandateLedger.X402.Documents

namespace MandateLedger.Adapters

open MandateLedger.Core MandateLedger.Data MandateLedger.Engine MandateLedger.Memory
  MandateLedger.Process

structure CartLibraries where
  keccak256 : Bytes → Hash32
  json : X402.JsonLibraries
  nativeFromSlice : Bytes → Except String NativeCart
  verifyStrict : SignerKey → Bytes → FixedBytes 64 → Bool

def CartLibraries.native (libraries : CartLibraries) : NativeLibraries where
  fromSlice := libraries.nativeFromSlice
  canonicalJson := libraries.json.canonicalJson
  verifyStrict := libraries.verifyStrict

/-- The implementations of the `CartAdapter` trait. -/
inductive CartAdapter where
  | native (adapter : NativeCartAdapter)
  | x402 (registry : X402.AssetRegistry)

inductive CartAdapterError where
  | native (error : NativeError)
  | x402 (error : X402.CartError)
deriving DecidableEq

namespace CartAdapter

def normalize (libraries : CartLibraries) :
    CartAdapter → Bytes → Except CartAdapterError Cart
  | .native adapter, wire => (adapter.normalize libraries.native wire).mapError .native
  | .x402 registry, wire =>
      (X402.normalize libraries.keccak256 libraries.json registry wire).mapError .x402

def carts (libraries : CartLibraries) (adapter : CartAdapter) : Set Cart :=
  {cart | ∃ wire, adapter.normalize libraries wire = .ok cart}

variable {libraries : CartLibraries} {Double : Type} {double : String → Double}

theorem claims_eq (faithful : libraries.json.Faithful double) {adapter : CartAdapter}
    {cart basket : Cart} (normalized : cart ∈ adapter.carts libraries)
    (renormalized : basket ∈ adapter.carts libraries) (same : cart.raw = basket.raw) :
    cart.claims = basket.claims ∧ cart.attestation = basket.attestation := by
  obtain ⟨wire, normalized⟩ := normalized
  obtain ⟨again, renormalized⟩ := renormalized
  cases adapter with
  | native adapter =>
      exact NativeCartAdapter.normalize_claims_eq faithful.canonical
        (mapError_eq_ok.mp normalized) (mapError_eq_ok.mp renormalized) same
  | x402 registry =>
      exact X402.normalize_claims_eq faithful (mapError_eq_ok.mp normalized)
        (mapError_eq_ok.mp renormalized) same

end CartAdapter

/-- The bytes whose digests name the carts of a history. -/
def cartInputs (history : List Event) : List Bytes :=
  history.filterMap fun event =>
    match event.body with
    | .authorized _ snapshot _ => some snapshot.raw
    | _ => none

theorem mem_cartInputs {history : List Event} {event : Event} {mandate : Mandate}
    {snapshot : CartSnapshot} {requestKey : String} (past : event ∈ history)
    (body : event.body = .authorized mandate snapshot requestKey) :
    snapshot.raw ∈ cartInputs history := by
  refine List.mem_filterMap.mpr ⟨event, past, ?_⟩
  rw [body]

section Attempts

variable {Proof Evidence Tid : Type} [DecidableEq Tid] {externals : Externals}
  {libraries : CartLibraries} {Double : Type} {double : String → Double} {ledgers : Set Ledger}
  {config : Config Tid (World Proof Evidence) (Op Proof Evidence) Op.Answer Response}

/-- The cart a context was opened with, if the attempt is under the same mandate id. -/
theorem opened_for {carts : Set Cart}
    (reached : Process.Reachable (semantics Tid externals) (Purchases externals ledgers carts)
      World.empty config) {mandate : Mandate} {cart : Cart} {requestKey : String} {record : Record}
    (found : config.shared.inner.records.lookup (attempt externals mandate cart requestKey) =
      some record)
    (ids : record.mandateId = mandate.id)
    (contexts : Set.InjOn (truncated externals.sha256)
      (insert (ContextId.preimage mandate.id (cart.hash externals.sha256) requestKey)
        (contextInputs config.shared.history))) :
    ∃ original ∈ carts, original.raw ∈ cartInputs config.shared.history ∧
      original.hash externals.sha256 = cart.hash externals.sha256 ∧
      record.merchant = original.claims.merchant ∧ record.amount = original.claims.total := by
  have run := reachable_of_purchases reached
  have lifecycle := Lifecycle.run (reachable_kept run).inv.1
  obtain ⟨opening, opened, token⟩ := (lifecycle.provenance found).opened
  obtain ⟨past, own, -⟩ := mem_changes.mp opened
  obtain ⟨stored, snapshot, key, body, same⟩ := authorizedToken_eq_some.mp token
  have opening_id : stored.id = mandate.id :=
    (congrArg Authorized.mandateId same).symm.trans ids
  obtain ⟨hashes, -⟩ := attempt_inj run past own body opening_id contexts
  obtain ⟨original, presented, rfl⟩ :=
    reachable_cartsPresented reached opening past stored snapshot key body
  exact ⟨original, presented, mem_cartInputs past body, hashes,
    congrArg Authorized.merchant same, congrArg Authorized.amount same⟩

/-- **A cart's hash fixes what the mandate is checked against.** -/
theorem cart_hash_fixes_claims (faithful : libraries.json.Faithful double)
    (externals : Externals) (adapter : CartAdapter) :
    -- two payloads whose carts have one hash make the same claims, vouched for alike
    (∀ wire again cart basket, adapter.normalize libraries wire = .ok cart →
      adapter.normalize libraries again = .ok basket →
      CollisionFree externals.sha256 [cart.raw, basket.raw] →
      cart.hash externals.sha256 = basket.hash externals.sha256 →
      cart.claims = basket.claims ∧ cart.attestation = basket.attestation) ∧
    -- an attempt that meets a context presents the merchant and the amount it was opened for
    ∀ (ledgers : Set Ledger)
      (config : Config Tid (World Proof Evidence) (Op Proof Evidence) Op.Answer Response),
      Process.Reachable (semantics Tid externals)
        (Purchases externals ledgers (adapter.carts libraries)) World.empty config →
      ∀ mandate wire cart requestKey record, adapter.normalize libraries wire = .ok cart →
        config.shared.inner.records.lookup (attempt externals mandate cart requestKey) =
          some record →
        record.mandateId = mandate.id →
        Set.InjOn (truncated externals.sha256)
          (insert (ContextId.preimage mandate.id (cart.hash externals.sha256) requestKey)
            (contextInputs config.shared.history)) →
        CollisionFree externals.sha256 (cart.raw :: cartInputs config.shared.history) →
        record.merchant = cart.claims.merchant ∧ record.amount = cart.claims.total := by
  constructor
  · intro wire again cart basket normalized renormalized collisionFree same
    have raws := collisionFree _ (by simp) _ (by simp) same
    exact CartAdapter.claims_eq faithful ⟨wire, normalized⟩ ⟨again, renormalized⟩ raws
  · intro ledgers config reached mandate wire cart requestKey record normalized found ids contexts
      collisionFree
    obtain ⟨original, presented, listed, same, merchant, amount⟩ :=
      opened_for reached found ids contexts
    have raws := collisionFree _ (List.mem_cons_of_mem _ listed) _ List.mem_cons_self same
    obtain ⟨claims, -⟩ := CartAdapter.claims_eq faithful presented ⟨wire, normalized⟩ raws
    rw [← claims]
    exact ⟨merchant, amount⟩

end Attempts

namespace Sample

def document (number : String) : NativeCart where
  merchant := "Shop "
  total := Core.Sample.cents 6000
  category := none
  items := [.number number]
  attestation := none

/-- The document as it is sent. -/
def wire (number : String) : Bytes :=
  utf8 ("\x7b\"merchant\":\"Shop \",\"total\":\x7b\"amount\":\"60.00\",\"currency\":\"USDC\"\x7d," ++
    "\"items\":[" ++ number ++ "]\x7d")

/-- `1.0` and `1` are one double. -/
def rounded (number : String) : String := if number = "1.0" then "1" else number

def canonicalJson : JsonValue → Except CanonicalizeError Bytes
  | .object [(merchant, .string name),
      (total, .object [(amount, .string sum), (currency, .string code)]),
      (items, .array [.number number])] =>
      if [merchant, name, total, amount, sum, currency, code, items] =
          ["merchant", "Shop ", "total", "amount", "60.00", "currency", "USDC", "items"] ∧
          rounded number = "1" then
        .ok Core.Sample.cart.raw
      else .error ⟨"unknown document"⟩
  | _ => .error ⟨"unknown document"⟩

def libraries : CartLibraries where
  keccak256 := fun _ => .zero
  json :=
    { fromSlice := fun _ => .error "expected value"
      deserialize := fun value => match X402.X402Cart.ofValue value with
        | some document => .ok document
        | none => .error "missing field"
      canonicalJson := canonicalJson }
  nativeFromSlice := fun sent =>
    if sent = wire "1" then .ok (document "1")
    else if sent = wire "1.0" then .ok (document "1.0")
    else .error "expected value"
  verifyStrict := fun _ _ _ => false

theorem document_toJson (number : String) :
    (document number).toJson = .object [("merchant", .string "Shop "),
      ("total", .object [("amount", .string "60.00"), ("currency", .string "USDC")]),
      ("items", .array [.number number])] := by
  have amount : (Core.Sample.cents 6000).amount.toString = "60.00" := by decide +kernel
  simp only [NativeCart.toJson, NativeCart.fields, document, moneyJson, amount]
  rfl

theorem canonicalJson_eq_ok {value : JsonValue} {bytes : Bytes}
    (canonical : canonicalJson value = .ok bytes) :
    ∃ number, value = (document number).toJson ∧ rounded number = "1" := by
  unfold canonicalJson at canonical
  split at canonical
  · next number =>
      split at canonical
      · next known =>
          obtain ⟨texts, one⟩ := known
          simp only [List.cons.injEq, and_true] at texts
          obtain ⟨rfl, rfl, rfl, rfl, rfl, rfl, rfl, rfl⟩ := texts
          exact ⟨number, (document_toJson number).symm, one⟩
      · cases canonical
  · cases canonical

theorem document_alike {first second : String} (same : rounded first = rounded second) :
    JsonValue.Alike rounded (document first).toJson (document second).toJson := by
  have total : JsonValue.Alike rounded (moneyJson (Core.Sample.cents 6000))
      (moneyJson (Core.Sample.cents 6000)) :=
    .object_of_forall₂ (.cons ⟨rfl, .string _⟩ (.cons ⟨rfl, .string _⟩ .nil))
  have items : JsonValue.Alike rounded (.array [.number first]) (.array [.number second]) := by
    refine .array rfl ?_
    intro place item other listed held
    cases place with
    | zero =>
        cases listed
        cases held
        exact .number same
    | succ place => cases listed
  exact .object_of_forall₂ (.cons ⟨rfl, .string _⟩ (.cons ⟨rfl, total⟩ (.cons ⟨rfl, items⟩ .nil)))

theorem libraries_faithful : libraries.json.Faithful rounded where
  derived := by
    intro value document
    simp only [libraries]
    cases X402.X402Cart.ofValue value <;> simp
  canonical := by
    intro first second bytes canonical recanonical
    obtain ⟨number, rfl, one⟩ := canonicalJson_eq_ok canonical
    obtain ⟨other, rfl, same⟩ := canonicalJson_eq_ok recanonical
    exact document_alike (one.trans same.symm)

def cart : Cart where
  claims := ⟨Core.Sample.merchant, Core.Sample.cents 6000, none, some 1⟩
  attestation := .agentReported
  raw := Core.Sample.cart.raw

def adapter : CartAdapter := .native .new

theorem first_normalized : adapter.normalize libraries (wire "1") = .ok cart := by decide +kernel

theorem second_normalized : adapter.normalize libraries (wire "1.0") = .ok cart := by decide +kernel

def purchase : Request MockProof MockFinality :=
  .authorize ledger (Core.Sample.mandate Core.Sample.alice) cart "k1"

def opened : World MockProof MockFinality :=
  (World.empty.complete Core.Sample.externals (rail.surroundings ⟨10⟩)
    (purchase.program Core.Sample.externals)).2

theorem opened_reachable :
    Process.Reachable (semantics Unit Core.Sample.externals)
      (Purchases Core.Sample.externals {ledger} (adapter.carts libraries)) World.empty
      (⟨opened, fun _ => none⟩ : Config ..) := by
  have called : Purchases Core.Sample.externals {ledger} (adapter.carts libraries)
      (purchase.program Core.Sample.externals) := by
    refine ⟨purchase, ?_, ?_, rfl⟩
    · simp [purchase, Request.ledger?]
    · intro presented same
      cases same
      exact ⟨wire "1", first_normalized⟩
  exact Process.Reachable.serve _ (t := ())
    (fun world op => World.perform_exec _ world (rail.surroundings ⟨10⟩) op) .initial rfl called
    fun _ => rfl

theorem opened_bodies :
    opened.history.map Event.body = [.authorized (Core.Sample.mandate Core.Sample.alice)
      (cart.snapshot Core.Sample.externals.sha256) "k1"] := by
  decide +kernel

theorem opened_contextInputs :
    contextInputs opened.history ⊆
      {ContextId.preimage (Core.Sample.mandate Core.Sample.alice).id
        (cart.hash Core.Sample.externals.sha256) "k1"} := by
  intro bytes input
  obtain ⟨event, past, mandate, snapshot, requestKey, body, rfl⟩ := input
  have listed := List.mem_map_of_mem (f := Event.body) past
  rw [opened_bodies, List.mem_singleton, body] at listed
  cases listed
  rfl

theorem opened_cartInputs : cartInputs opened.history = [cart.raw] := by decide +kernel

theorem opened_record :
    (opened.inner.records.lookup (attempt Core.Sample.externals
      (Core.Sample.mandate Core.Sample.alice) cart "k1")).map Record.mandateId =
      some (Core.Sample.mandate Core.Sample.alice).id := by
  decide +kernel

end Sample

/-- The second document finds the context of the first, and asks for what is reserved. -/
theorem retry_presents_reserved :
    ∃ cart basket record,
      Sample.adapter.normalize Sample.libraries (Sample.wire "1") = .ok cart ∧
      Sample.adapter.normalize Sample.libraries (Sample.wire "1.0") = .ok basket ∧
      cart.hash Core.Sample.externals.sha256 = basket.hash Core.Sample.externals.sha256 ∧
      cart.claims = basket.claims ∧ cart.attestation = basket.attestation ∧
      Sample.opened.inner.records.lookup (attempt Core.Sample.externals
        (Core.Sample.mandate Core.Sample.alice) basket "k1") = some record ∧
      record.merchant = basket.claims.merchant ∧ record.amount = basket.claims.total := by
  obtain ⟨claims, retried⟩ := @cart_hash_fixes_claims MockProof MockFinality Unit _ Sample.libraries
    String Sample.rounded Sample.libraries_faithful Core.Sample.externals Sample.adapter
  obtain ⟨record, found, ids⟩ := Option.map_eq_some_iff.mp Sample.opened_record
  obtain ⟨same, vouched⟩ := claims _ _ _ _ Sample.first_normalized Sample.second_normalized
    (by simp [CollisionFree]) rfl
  refine ⟨_, _, record, Sample.first_normalized, Sample.second_normalized, rfl, same, vouched,
    found, ?_⟩
  refine retried _ _ Sample.opened_reachable _ _ _ "k1" record Sample.second_normalized found ids
    ?_ ?_
  · exact (Set.injOn_singleton _ _).mono
      (Set.insert_subset (Set.mem_singleton _) Sample.opened_contextInputs)
  · simp [Sample.opened_cartInputs, CollisionFree]

end MandateLedger.Adapters
