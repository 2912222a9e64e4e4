import MandateLedger.Adapters.Mock
import MandateLedger.Engine.Calls
import MandateLedger.X402.Cart

namespace MandateLedger.X402

open MandateLedger.Core MandateLedger.Data MandateLedger.Engine MandateLedger.Memory
  MandateLedger.Process

section Judging

variable {keccak256 : Bytes → Hash32} {curve : Secp256k1} {rail : X402Rail} {now : Timestamp}
  {payment : AuthorizationRef} {expected : SettlementExpectation} {reason : String}

theorem judgeFailure_eq_failed {response : SettlementResponse}
    (failed : rail.judgeFailure now payment response = .failed reason) :
    response.errorReason ≠ some "settlement_pending" ∧ rail.policy.trustFacilitator = true ∧
      (payment.validBefore.toNat + rail.policy.expiryGrace.toNat : Int) ≤ now.secs.toInt := by
  unfold X402Rail.judgeFailure at failed
  dsimp only at failed
  split at failed
  · cases failed
  · next terminal =>
      rw [not_or, not_not] at terminal
      split at failed
      · cases failed
      · next expired =>
          refine ⟨?_, terminal.2, not_lt.mp expired⟩
          intro pending
          exact terminal.1 (by rw [pending]; rfl)

theorem finalOrPending_ne_failed {transaction : String} {confirmations : UInt64} :
    rail.finalOrPending transaction confirmations ≠ .failed reason := by
  unfold X402Rail.finalOrPending
  dsimp only
  split <;> simp

theorem judgeReceipt_ne_failed {head : UInt64} {receipt : TransactionReceipt} :
    rail.judgeReceipt keccak256 payment expected head receipt ≠ .ok (.failed reason) := by
  intro failed
  obtain ⟨hash, -, rest⟩ := bind_eq_ok.mp failed
  obtain ⟨block, -, rest⟩ := bind_eq_ok.mp rest
  obtain ⟨-, rest⟩ := check_bind_eq_ok.mp rest
  dsimp only at rest
  split at rest
  · obtain ⟨token, -, rest⟩ := bind_eq_ok.mp rest
    obtain ⟨-, rest⟩ := check_bind_eq_ok.mp rest
    exact finalOrPending_ne_failed (Except.ok.inj rest)
  · split at rest
    · cases rest
    · cases rest

/-- No receipt fails a payment. -/
theorem checkFinality_receipt_ne_failed {network : String} {head : UInt64}
    {receipt : TransactionReceipt} :
    rail.checkFinality keccak256 now (.receipt network head receipt) expected ≠
      .ok (.failed reason) := by
  intro failed
  obtain ⟨payment, -, rest⟩ := bind_eq_ok.mp failed
  exact judgeReceipt_ne_failed (check_bind_eq_ok.mp rest).2

/-- What fails a payment: a trusted facilitator's word, once it has expired. -/
theorem checkFinality_eq_failed {finality : X402Finality}
    (failed : rail.checkFinality keccak256 now finality expected = .ok (.failed reason)) :
    ∃ payment response, payment.toString = expected.paymentReference ∧
      finality = .facilitator response ∧ response.success = false ∧
      rail.judgeFailure now payment response = .failed reason := by
  cases finality with
  | receipt network head receipt => exact absurd failed checkFinality_receipt_ne_failed
  | facilitator response =>
      obtain ⟨payment, parsed, rest⟩ := bind_eq_ok.mp failed
      refine ⟨payment, response, AuthorizationRef.toString_of_parse (mapError_eq_ok.mp parsed), rfl, ?_⟩
      obtain ⟨-, rest⟩ := check_bind_eq_ok.mp rest
      obtain ⟨-, rest⟩ := check_bind_eq_ok.mp rest
      obtain ⟨-, rest⟩ := check_bind_eq_ok.mp rest
      split at rest
      · obtain ⟨hash, -, rest⟩ := bind_eq_ok.mp rest
        split at rest
        · cases rest
        · cases rest
      · next unsuccessful => exact ⟨by simpa using unsuccessful, Except.ok.inj rest⟩

end Judging

/-- The rail compares in 128 bits, where nothing it adds overflows. -/
def ComparesExactly (expiry grace : UInt64) (now : Int64) : Prop :=
  let wide := fun value : Int => BitVec.ofInt 128 value
  (wide expiry.toNat).saddOverflow (wide grace.toNat) = false ∧
    ((wide now.toInt).slt (wide expiry.toNat + wide grace.toNat) = true ↔
      now.toInt < expiry.toNat + grace.toNat)

theorem comparesExactly (expiry grace : UInt64) (now : Int64) :
    ComparesExactly expiry grace now := by
  have expiryBound := expiry.toNat_lt
  have graceBound := grace.toNat_lt
  have low := now.le_toInt
  have high := now.toInt_lt
  have exact : ∀ value : Int, -2 ^ 127 ≤ value → value < 2 ^ 127 →
      (BitVec.ofInt 128 value).toInt = value := by
    intro value below above
    rw [BitVec.toInt_ofInt]
    exact Int.bmod_eq_of_le (by omega) (by omega)
  have expiryExact := exact expiry.toNat (by omega) (by omega)
  have graceExact := exact grace.toNat (by omega) (by omega)
  have nowExact := exact now.toInt (by omega) (by omega)
  have sum : ¬ (BitVec.ofInt 128 expiry.toNat).saddOverflow (BitVec.ofInt 128 grace.toNat) = true := by
    rw [BitVec.saddOverflow, expiryExact, graceExact]
    simp
    omega
  refine ⟨Bool.eq_false_iff.mpr sum, ?_⟩
  rw [BitVec.slt_iff_toInt_lt, BitVec.toInt_add_of_not_saddOverflow sum, expiryExact, graceExact,
    nowExact]

section Runs

variable (keccak256 : Bytes → Hash32) (curve : Secp256k1) (rail : X402Rail)

/-- The rail's own answer to an operation, at a time of its clock. -/
def Answered (now : Timestamp) : (op : Op PaymentPayload X402Finality) → op.Answer → Prop
  | .verifyProof _ proof expected, answer =>
      answer = rail.verifyProof keccak256 curve now proof expected
  | .checkFinality _ finality expected, answer =>
      answer = rail.checkFinality keccak256 now finality expected
  | _, _ => True

def SpokenAt (now : Timestamp) : Act PaymentPayload X402Finality → Prop
  | .appended _ => True
  | .verified _ proof expected answer =>
      answer = rail.verifyProof keccak256 curve now proof expected
  | .judged _ finality expected answer =>
      answer = rail.checkFinality keccak256 now finality expected

/-- Calls of ledgers over the rail.  Its clock may show anything: `clock i` is what it
shows when `i` acts have happened. -/
def railSemantics (Tid : Type) (externals : Externals) (clock : Nat → Timestamp) :
    Semantics Tid (World PaymentPayload X402Finality) (Op PaymentPayload X402Finality)
      Op.Answer where
  exec _ before op answer after := before.Exec externals op answer after ∧
    Answered keccak256 curve rail (clock before.acts.length) op answer
  env := (Engine.semantics Tid externals).env
  halt := (Engine.semantics Tid externals).halt

/-- The configurations of every run of ledgers over the rail. -/
def RailReachable {Tid : Type} [DecidableEq Tid] (externals : Externals) (ledgers : Set Ledger)
    (clock : Nat → Timestamp)
    (config : Config Tid (World PaymentPayload X402Finality) (Op PaymentPayload X402Finality)
      Op.Answer Response) : Prop :=
  Process.Reachable (railSemantics keccak256 curve rail Tid externals clock)
    (Calls externals ledgers) World.empty config

/-- The context was paid with this authorization, which its payer signed. -/
def PaidWith (acts : List (Act PaymentPayload X402Finality)) (ctx : ContextId) (read : ExactTerms)
    (auth : Authorization) : Prop :=
  ∃ event token proof, Act.appended event ∈ acts ∧ paidToken event = some token ∧
    token.ctx = ctx ∧ rail.authenticate keccak256 curve proof = .ok (read, auth) ∧
    token.reference = (X402Rail.authorizationRef read auth).toString

end Runs

/-- What a step does to the reservations: nothing, or it takes the amount of an
authorization, or it gives back the amount of the context an event ends. -/
inductive Reserves {Proof Evidence : Type} (ops : DecimalOps) (before : World Proof Evidence) :
    Option Event → World Proof Evidence → Prop where
  | kept {after : World Proof Evidence} (same : after.inner.reserved = before.inner.reserved) :
      Reserves ops before none after
  | taken {after : World Proof Evidence} {event : Event} {mandate : Mandate} {cart : CartSnapshot}
      {requestKey : String} {next : Money}
      (appended : after.acts = before.acts ++ [.appended event])
      (body : event.body = .authorized mandate cart requestKey)
      (granted : checkBudget ops mandate.body.scope cart.claims.total
        (before.inner.reserved.lookup mandate.body.id) = .ok (.granted next))
      (reserved : after.inner.reserved = before.inner.reserved.insert mandate.body.id next) :
      Reserves ops before none after
  | given {after : World Proof Evidence} {event : Event} {target : PaymentState} {record : Record}
      {next : Money} (appended : after.acts = before.acts ++ [.appended event])
      (moves : event.body.resultingState = some target)
      (giving : target = .settlementFailed ∨ target = .expired)
      (found : before.inner.records.lookup event.ctx = some record)
      (legal : record.state.canTransitionTo target = true)
      (released : releaseFrom ops (before.inner.reserved.lookup record.mandateId) record.mandateId
        record.amount = .ok next)
      (reserved : after.inner.reserved = before.inner.reserved.insert record.mandateId next) :
      Reserves ops before (some event) after

section Steps

variable {Proof Evidence : Type} {externals : Externals}

theorem append_reserves (world : World Proof Evidence) (ctx : ContextId) (now : Timestamp)
    (body : EventBody) :
    ∃ released, Reserves externals.decimals world released
      (world.append externals ctx now body).2 := by
  obtain ⟨result, same, refusal⟩ | ⟨event, tables, writes, built, appended⟩ :=
    world.inner.append_cases externals ctx now body
  · refine ⟨none, .kept ?_⟩
    simp [World.append, same]
  · obtain ⟨-, own, -, -, same, -⟩ := Event.new_eq_ok built
    have acts : (world.append externals ctx now body).2.acts = world.acts ++ [.appended event] := by
      simp [World.append, appended, appendedEvent]
    have inner : (world.append externals ctx now body).2.inner = tables.log event := by
      simp [World.append, appended]
    subst own
    cases writes with
    | authorized absent active paced granted =>
        refine ⟨none, .taken acts same granted ?_⟩
        rw [inner]
        simp only [Inner.log, Inner.putRecord, Inner.reserve, Inner.widen]
        split <;> rfl
    | paid found legal free => exact ⟨none, .kept (by rw [inner]; rfl)⟩
    | moved moves plain found legal => exact ⟨none, .kept (by rw [inner]; rfl)⟩
    | released moves giving found legal given =>
        rw [← same] at moves
        exact ⟨some event, .given acts moves giving found legal given (by rw [inner]; rfl)⟩
    | denied => exact ⟨none, .kept (by rw [inner]; rfl)⟩

theorem exec_reserves {before after : World Proof Evidence} {op : Op Proof Evidence}
    {answer : op.Answer} (executed : before.Exec externals op answer after) :
    ∃ released, Reserves externals.decimals before released after := by
  cases executed.leaves with
  | appends ctx now body => exact append_reserves before ctx now body
  | reads | revokes | verifies | judges => exact ⟨none, .kept rfl⟩

theorem exec_acts {keccak256 : Bytes → Hash32} {curve : Secp256k1} {rail : X402Rail}
    {before after : World PaymentPayload X402Finality} {op : Op PaymentPayload X402Finality}
    {answer : op.Answer} {now : Timestamp} (executed : before.Exec externals op answer after)
    (answered : Answered keccak256 curve rail now op answer) :
    after.acts = before.acts ∨
      ∃ act, after.acts = before.acts ++ [act] ∧ SpokenAt keccak256 curve rail now act := by
  cases executed.leaves with
  | appends ctx time body =>
      obtain ⟨same, -⟩ | ⟨event, -, -, -, -, acts⟩ := before.append_acts externals ctx time body
      · exact .inl (by rw [same])
      · exact .inr ⟨_, acts, trivial⟩
  | reads | revokes => exact .inl rfl
  | verifies railId proof expected answer => exact .inr ⟨_, rfl, answered⟩
  | judges railId evidence expected answer => exact .inr ⟨_, rfl, answered⟩

end Steps

section Standing

variable {keccak256 : Bytes → Hash32} {curve : Secp256k1} {rail : X402Rail}
  {externals : Externals} {ledgers : Set Ledger} {clock : Nat → Timestamp}
  {Tid : Type} [DecidableEq Tid]
  {config after : Config Tid (World PaymentPayload X402Finality)
    (Op PaymentPayload X402Finality) Op.Answer Response}

theorem RailReachable.reachable
    (reached : RailReachable keccak256 curve rail externals ledgers clock config) :
    Engine.Reachable externals ledgers config :=
  Process.Reachable.weaken reached (fun _ _ _ _ _ executed => executed.1) (fun _ _ moved => moved)
    (fun _ _ _ stopped => stopped)

/-- Every act of a run is the rail's own, at the time its clock showed. -/
theorem RailReachable.spoken
    (reached : RailReachable keccak256 curve rail externals ledgers clock config) :
    ∀ i act, config.shared.acts[i]? = some act → SpokenAt keccak256 curve rail (clock i) act := by
  induction reached with
  | initial =>
      intro i act listed
      simp [Config.initial, World.empty] at listed
  | step reached stepped ih =>
      cases stepped with
      | spawn t program idle allowed => exact ih
      | env world moved =>
          obtain ⟨instant, rfl⟩ := moved
          exact ih
      | halt t world stopped =>
          obtain rfl := stopped
          exact ih
      | call t op next answer world running executed =>
          intro i act listed
          dsimp only at listed
          obtain same | ⟨added, grown, spoken⟩ := exec_acts executed.1 executed.2
          · rw [same] at listed
            exact ih i act listed
          · rw [grown, List.getElem?_append] at listed
            split at listed
            · exact ih i act listed
            · next beyond =>
                rw [List.getElem?_singleton] at listed
                split at listed
                · next last =>
                    cases listed
                    rw [le_antisymm (Nat.sub_eq_zero_iff_le.mp last) (not_lt.mp beyond)]
                    exact spoken
                · cases listed

theorem RailReachable.spoken_before
    (reached : RailReachable keccak256 curve rail externals ledgers clock config)
    {earlier later : List (Act PaymentPayload X402Finality)} {act : Act PaymentPayload X402Finality}
    (split : config.shared.acts = earlier ++ later) (listed : act ∈ earlier) :
    ∃ i, earlier[i]? = some act ∧ SpokenAt keccak256 curve rail (clock i) act := by
  obtain ⟨i, position⟩ := List.mem_iff_getElem?.mp listed
  have bound := (List.getElem?_eq_some_iff.mp position).1
  refine ⟨i, position, reached.spoken i act ?_⟩
  rw [split, List.getElem?_append_left bound, position]

theorem step_reserves
    (stepped : Process.Step (railSemantics keccak256 curve rail Tid externals clock)
      (Calls externals ledgers) config after) :
    ∃ released, Reserves externals.decimals config.shared released after.shared := by
  cases stepped with
  | spawn t program idle allowed => exact ⟨none, .kept rfl⟩
  | env world moved =>
      obtain ⟨instant, rfl⟩ := moved
      obtain ⟨events, byCtx, pruned⟩ := config.shared.inner.prune_frame instant
      have same := congrArg Inner.reserved pruned
      exact ⟨none, .kept same⟩
  | halt t world stopped =>
      obtain rfl := stopped
      exact ⟨none, .kept rfl⟩
  | call t op next answer world running executed => exact exec_reserves executed.1

/-- A recorded payment was made with an authorization its payer signed. -/
theorem RailReachable.paidWith
    (reached : RailReachable keccak256 curve rail externals ledgers clock config) {event : Event}
    (listed : event ∈ config.shared.history) (paid : event.body.resultingState = some .paid) :
    ∃ read auth, PaidWith keccak256 curve rail config.shared.acts event.ctx read auth := by
  obtain ⟨run, each⟩ := (reachable_kept reached.reachable).inv
  have appended := mem_history.mp listed
  obtain ⟨earlier, later, split⟩ := List.append_of_mem appended
  have justified := each earlier _ later split
  cases body : event.body with
  | paid railId reference nonce amount key =>
      simp only [Justifies, EventSound, body] at justified
      obtain ⟨token, proof, expected, verified, -, -, spoken, -, -, referenced, -, -⟩ := justified
      obtain ⟨i, -, answer⟩ := reached.spoken_before split spoken
      obtain ⟨⟨read, auth⟩, authentic, reported⟩ := X402Rail.verifyProof_reports answer.symm
      refine ⟨read, auth, event, ⟨event.ctx, railId, reference, key⟩, proof, appended, ?_, rfl, authentic, ?_⟩
      · simp [paidToken, body]
      · rw [← X402Rail.report_reference reported, referenced]
  | _ => simp [body, EventBody.resultingState] at paid

theorem RailReachable.reference_unique
    (reached : RailReachable keccak256 curve rail externals ledgers clock config)
    {ctx : ContextId} {read : ExactTerms} {auth : Authorization} {token : Paid}
    (paid : PaidWith keccak256 curve rail config.shared.acts ctx read auth)
    (pays : Pays config.shared.acts token) (own : token.ctx = ctx) :
    token.reference = (X402Rail.authorizationRef read auth).toString := by
  obtain ⟨event, recorded, -, listed, stands, ours, -, referenced⟩ := paid
  obtain ⟨payment, appended, vouched⟩ := pays
  obtain ⟨run, -⟩ := (reachable_kept reached.reachable).inv
  have same : recorded = token := (Lifecycle.run run).paidToken_unique (mem_history.mpr listed)
    (mem_history.mpr appended) stands vouched (ours.trans own.symm)
  rw [← same, referenced]

/-- How a paid context's part of the budget stands. -/
structure Stands (keccak256 : Bytes → Hash32) (curve : Secp256k1) (rail : X402Rail)
    (externals : Externals) (ledgers : Set Ledger) (clock : Nat → Timestamp)
    (config : Config Tid (World PaymentPayload X402Finality) (Op PaymentPayload X402Finality)
      Op.Answer Response)
    (ctx : ContextId) (read : ExactTerms) (auth : Authorization) : Prop where
  /-- the context is live until its payment fails -/
  live : (∀ event ∈ config.shared.history, event.ctx = ctx →
      event.body.resultingState ≠ some .settlementFailed) →
    ∃ record, config.shared.inner.records.lookup ctx = some record ∧ record.state.isLive = true
  /-- only a `SettlementFailed` gives its amount back -/
  released : ∀ after, Process.Step (railSemantics keccak256 curve rail Tid externals clock)
      (Calls externals ledgers) config after →
    ∃ released, Reserves externals.decimals config.shared released after.shared ∧
      ∀ event ∈ released, event.ctx = ctx → ∃ railId reason, event.body = .settlementFailed railId reason
  /-- the payment fails by a trusted facilitator's word, after its expiry and the grace -/
  failed : ∀ earlier event later, config.shared.acts = earlier ++ .appended event :: later →
    event.ctx = ctx → ∀ railId reason, event.body = .settlementFailed railId reason →
      rail.policy.trustFacilitator = true ∧
      ∃ i response expected,
        earlier[i]? = some (.judged railId (.facilitator response) expected (.ok (.failed reason))) ∧
        expected.ctx = ctx ∧
        expected.paymentReference = (X402Rail.authorizationRef read auth).toString ∧
        response.success = false ∧ response.errorReason ≠ some "settlement_pending" ∧
        (auth.validBefore.toNat + rail.policy.expiryGrace.toNat : Int) ≤ (clock i).secs.toInt

theorem RailReachable.failed
    (reached : RailReachable keccak256 curve rail externals ledgers clock config)
    {ctx : ContextId} {read : ExactTerms} {auth : Authorization}
    (paid : PaidWith keccak256 curve rail config.shared.acts ctx read auth)
    {earlier later : List (Act PaymentPayload X402Finality)} {event : Event}
    (split : config.shared.acts = earlier ++ .appended event :: later) (own : event.ctx = ctx)
    {railId reason : String} (body : event.body = .settlementFailed railId reason) :
    rail.policy.trustFacilitator = true ∧
      ∃ i response expected,
        earlier[i]? = some (.judged railId (.facilitator response) expected (.ok (.failed reason))) ∧
        expected.ctx = ctx ∧
        expected.paymentReference = (X402Rail.authorizationRef read auth).toString ∧
        response.success = false ∧ response.errorReason ≠ some "settlement_pending" ∧
        (auth.validBefore.toNat + rail.policy.expiryGrace.toNat : Int) ≤ (clock i).secs.toInt := by
  obtain ⟨-, each⟩ := (reachable_kept reached.reachable).inv
  have justified := each earlier _ later split
  simp only [Justifies, EventSound, body] at justified
  obtain ⟨token, payment, evidence, -, -, ours, pays, -, listed⟩ := justified
  have past : earlier <+: config.shared.acts := ⟨_, split.symm⟩
  have referenced := reached.reference_unique paid (pays.later past) (ours.trans own)
  obtain ⟨i, position, answer⟩ := reached.spoken_before split listed
  obtain ⟨reference, response, written, rfl, unsuccessful, judged⟩ :=
    checkFinality_eq_failed answer.symm
  obtain ⟨terminal, trusted, expired⟩ := judgeFailure_eq_failed judged
  -- the reference that was printed, stored and parsed is the one that was signed
  have same : reference = X402Rail.authorizationRef read auth :=
    AuthorizationRef.toString_injective (written.trans referenced)
  rw [same] at expired
  exact ⟨trusted, i, response, _, position, own, referenced, unsuccessful, terminal, expired⟩

theorem RailReachable.stands
    (reached : RailReachable keccak256 curve rail externals ledgers clock config)
    {ctx : ContextId} {read : ExactTerms} {auth : Authorization}
    (paid : PaidWith keccak256 curve rail config.shared.acts ctx read auth) :
    Stands keccak256 curve rail externals ledgers clock config ctx read auth := by
  obtain ⟨run, -⟩ := (reachable_kept reached.reachable).inv
  have lifecycle := Lifecycle.run run
  have passed : .paid ∈ states (changes ctx config.shared.history) := by
    obtain ⟨event, token, -, listed, stands, own, -, -⟩ := paid
    obtain ⟨_, _, _, _, _, body, rfl⟩ := paidToken_eq_some.mp stands
    exact mem_states_changes.mpr ⟨event, mem_history.mpr listed, own, by rw [body]; rfl⟩
  constructor
  · intro unfailed
    obtain ⟨record, found⟩ := lifecycle.record_of_paid passed
    refine ⟨record, found, (lifecycle.state_of_paid found passed).2 ?_⟩
    intro failed
    obtain ⟨event, listed, own, moves⟩ := mem_states_changes.mp failed
    exact unfailed event listed own moves
  · intro after stepped
    obtain ⟨released, reserves⟩ := step_reserves stepped
    refine ⟨released, reserves, ?_⟩
    intro event gone own
    cases reserves with
    | kept => cases gone
    | taken => cases gone
    | given appended moves giving found legal =>
        cases gone
        rw [own] at found
        have past := (lifecycle.state_of_paid found passed).1
        obtain rfl | rfl := giving
        · cases body : event.body with
          | settlementFailed railId reason => exact ⟨railId, reason, rfl⟩
          | _ => simp [body, EventBody.resultingState] at moves
        · -- only an unpaid context expires
          exact absurd (PaymentState.canTransitionTo_expired.mp legal) past
  · intro earlier event later split own railId reason body
    exact reached.failed paid split own body

/-- **An x402 reservation stands while the authorization can execute.** -/
theorem reservation_stands_until_expiry
    (reached : RailReachable keccak256 curve rail externals ledgers clock config) :
    -- every payment was made with an authorization
    (∀ event ∈ config.shared.history, event.body.resultingState = some .paid →
      ∃ read auth, PaidWith keccak256 curve rail config.shared.acts event.ctx read auth) ∧
    (∀ ctx read auth, PaidWith keccak256 curve rail config.shared.acts ctx read auth →
      Stands keccak256 curve rail externals ledgers clock config ctx read auth) ∧
    -- no receipt fails a payment
    (∀ now network head receipt expected reason,
      rail.checkFinality keccak256 now (.receipt network head receipt) expected ≠
        .ok (.failed reason)) ∧
    ∀ expiry grace now, ComparesExactly expiry grace now :=
  ⟨fun _ listed paid => reached.paidWith listed paid, fun _ _ _ paid => reached.stands paid,
    fun _ _ _ _ _ _ => checkFinality_receipt_ne_failed, comparesExactly⟩

end Standing

namespace Sample

def trustingRail : X402Rail where
  registry := rail.registry
  policy := { rail.policy with trustFacilitator := true }

/-- The payment is made at 10 and judged at 200. -/
def wallClock (acts : Nat) : Timestamp := if acts < 3 then ⟨10⟩ else ⟨200⟩

def x402Ledger : Ledger where
  railId := "x402"
  signers := Adapters.Sample.ledger.signers

def x402Cart : Cart where
  claims := pricedCart.claims
  attestation := .agentReported
  raw := Core.Sample.cart.raw

/-- Signed until 100. -/
def expiringPayment : PaymentPayload where
  x402Version := 2
  accepted := requirements
  payload := ⟨"0x" ++ hexEncode (List.replicate 64 0 ++ [27]),
    { authorizationBody with validBefore := "100" }⟩

def expiringReference : AuthorizationRef where
  chain := baseSepolia
  token := usdcContract
  payer := nobody
  nonce := Hash32.zero
  validBefore := 100

def failingCalls : List (Request PaymentPayload X402Finality) :=
  [ .authorize x402Ledger (Core.Sample.mandate Core.Sample.alice) x402Cart "k1",
    .recordPayment x402Ledger ⟨Core.Sample.firstCtx, Core.Sample.mandateId, Core.Sample.cartHash,
      accountMerchant baseSepolia payTo, pricedCart.claims.total⟩ expiringPayment,
    .recordSettlement x402Ledger ⟨Core.Sample.firstCtx, "x402", expiringReference.toString, .zero⟩
      (.facilitator ⟨false, some "insufficient_funds", none, "", baseSepolia.toString, none⟩) ]

/-- The rail answers while a call runs alone. -/
def railPerform (world : World PaymentPayload X402Finality) (op : Op PaymentPayload X402Finality) :
    op.Answer × World PaymentPayload X402Finality :=
  world.perform Core.Sample.externals
    (trustingRail.surroundings keccak256 curve (wallClock world.acts.length)) op

theorem railPerform_exec (t : Unit) (world : World PaymentPayload X402Finality)
    (op : Op PaymentPayload X402Finality) :
    (railSemantics keccak256 curve trustingRail Unit Core.Sample.externals wallClock).exec t world op
      (railPerform world op).1 (railPerform world op).2 := by
  refine ⟨World.perform_exec Core.Sample.externals world _ op, ?_⟩
  cases op <;> trivial

def railServed (calls : List (Request PaymentPayload X402Finality)) :
    World PaymentPayload X402Finality :=
  calls.foldl (fun world call => ((call.program Core.Sample.externals).run railPerform world).2)
    World.empty

theorem railServed_reachable (calls : List (Request PaymentPayload X402Finality))
    (own : ∀ call ∈ calls, ∀ ledger ∈ call.ledger?, ledger = x402Ledger) :
    RailReachable keccak256 curve trustingRail Core.Sample.externals {x402Ledger} wallClock
      (⟨railServed calls, fun _ : Unit => none⟩ : Config ..) := by
  induction calls using List.reverseRecOn with
  | nil => exact .initial
  | append_singleton earlier call ih =>
      have reached := ih fun call listed => own call (by simp [listed])
      have served := Process.Reachable.serve railPerform (railPerform_exec ()) reached rfl
        ⟨call, own call (by simp), rfl⟩ (fun _ => rfl)
      rw [railServed, List.foldl_append]
      exact served

end Sample

theorem failingCalls_stand :
    states (Sample.railServed Sample.failingCalls).history =
      [.authorized, .paid, .settlementFailed] ∧
    ∃ read auth,
      PaidWith Sample.keccak256 Sample.curve Sample.trustingRail
        (Sample.railServed Sample.failingCalls).acts Core.Sample.firstCtx read auth ∧
      Stands Sample.keccak256 Sample.curve Sample.trustingRail Core.Sample.externals
        {Sample.x402Ledger} Sample.wallClock
        (⟨Sample.railServed Sample.failingCalls, fun _ : Unit => none⟩ : Config ..)
        Core.Sample.firstCtx read auth := by
  have reached := Sample.railServed_reachable Sample.failingCalls
    (by simp [Sample.failingCalls, Request.ledger?])
  have run : (Sample.railServed Sample.failingCalls).history.map
      (fun event => (event.ctx, event.body.resultingState)) =
      [(Core.Sample.firstCtx, some .authorized), (Core.Sample.firstCtx, some .paid),
        (Core.Sample.firstCtx, some .settlementFailed)] := by decide +kernel
  generalize Sample.railServed Sample.failingCalls = world at reached run ⊢
  have passed : states world.history = [.authorized, .paid, .settlementFailed] := by
    have states := congrArg (List.filterMap Prod.snd) run
    rwa [List.filterMap_map] at states
  refine ⟨passed, ?_⟩
  obtain ⟨paid, stands, -⟩ := reservation_stands_until_expiry reached
  have second : (Core.Sample.firstCtx, some .paid) ∈
      world.history.map fun event => (event.ctx, event.body.resultingState) := by simp [run]
  obtain ⟨event, listed, same⟩ := List.mem_map.mp second
  obtain ⟨own, moves⟩ := Prod.mk.inj same
  obtain ⟨read, auth, signed⟩ := paid event listed moves
  rw [own] at signed
  exact ⟨read, auth, signed, stands _ read auth signed⟩

end MandateLedger.X402
