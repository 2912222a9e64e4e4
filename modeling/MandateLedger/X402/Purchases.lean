import MandateLedger.Engine.Refusals
import MandateLedger.Memory.Succession
import MandateLedger.X402.Expiry

namespace MandateLedger.X402

open MandateLedger.Core MandateLedger.Data MandateLedger.Engine MandateLedger.Memory
  MandateLedger.Process

/-- A rail that does not trust the facilitator needs a receipt that executes the payment. -/
theorem checkFinality_eq_final {keccak256 : Bytes → Hash32} {rail : X402Rail} {now : Timestamp}
    {finality : X402Finality} {expected : SettlementExpectation} {reference : String}
    (untrusting : rail.policy.trustFacilitator = false)
    (final : rail.checkFinality keccak256 now finality expected = .ok (.final reference)) :
    ∃ payment head receipt, payment.toString = expected.paymentReference ∧
      finality = .receipt payment.chain.toString head receipt ∧ Confirmed rail head receipt ∧
      Executes keccak256 rail payment expected receipt := by
  obtain ⟨payment, parsed, rest⟩ := bind_eq_ok.mp final
  have written := AuthorizationRef.toString_of_parse (mapError_eq_ok.mp parsed)
  cases finality with
  | receipt network head receipt =>
      obtain ⟨rfl, confirmed, executes, -⟩ :=
        (checkFinality_receipt_eq_final_iff (mapError_eq_ok.mp parsed)).mp final
      exact ⟨payment, head, receipt, written, rfl, confirmed, executes⟩
  | facilitator response =>
      obtain ⟨-, rest⟩ := check_bind_eq_ok.mp rest
      obtain ⟨-, rest⟩ := check_bind_eq_ok.mp rest
      obtain ⟨-, rest⟩ := check_bind_eq_ok.mp rest
      split at rest
      · obtain ⟨hash, -, rest⟩ := bind_eq_ok.mp rest
        rw [untrusting] at rest
        cases rest
      · -- a failure the facilitator reports is never final
        have judged := Except.ok.inj rest
        unfold X402Rail.judgeFailure at judged
        dsimp only at judged
        split at judged
        · cases judged
        · split at judged <;> cases judged

/-- An authorization for the purchase: signed by its payer, bound to the context by its nonce,
and for the merchant and the amount that were authorized. -/
structure SignedFor (keccak256 : Bytes → Hash32) (curve : Secp256k1) (rail : X402Rail)
    (token : Authorized) (read : ExactTerms) (auth : Authorization) : Prop where
  known : rail.registry.lookup (read.chain, read.asset) = some read.token
  signed : ∃ signature,
    recover keccak256 curve (signingDigest keccak256 read.chain read.asset read.token auth)
      signature = .ok auth.payer
  bound : auth.nonce = bindingNonce keccak256 token.ctx
  payee : accountMerchant read.chain auth.payee = token.merchant
  amount : ∃ price, money auth.value read.token = .ok price ∧
    price.value = token.amount.value ∧ price.currency = token.amount.currency

theorem signedFor_of_verified {keccak256 : Bytes → Hash32} {curve : Secp256k1} {rail : X402Rail}
    {now : Timestamp} {proof : PaymentPayload} {expected : PaymentExpectation}
    {verified : VerifiedProof} {token : Authorized}
    (accepted : rail.verifyProof keccak256 curve now proof expected = .ok verified)
    (agrees : Agrees verified token) :
    ∃ read auth, rail.authenticate keccak256 curve proof = .ok (read, auth) ∧
      verified.reference = (X402Rail.authorizationRef read auth).toString ∧
      SignedFor keccak256 curve rail token read auth := by
  obtain ⟨⟨read, auth⟩, authentic, reported⟩ := X402Rail.verifyProof_reports accepted
  obtain ⟨checked, signature, -, -, -, recovered⟩ := X402Rail.authenticate_eq_ok authentic
  refine ⟨read, auth, authentic, X402Rail.report_reference reported, ?_⟩
  obtain ⟨price, priced, rest⟩ := bind_eq_ok.mp reported
  obtain ⟨merchant, named, rest⟩ := bind_eq_ok.mp rest
  cases pure_eq_ok.mp rest
  have payee : accountMerchant read.chain auth.payee = merchant := by
    rw [mapError_eq_ok, new_accountId] at named
    exact Except.ok.inj named
  refine ⟨(terms_eq_ok checked).known, ⟨signature, recovered⟩, ?_, ?_, price, ?_, ?_⟩
  · -- the rail never binds to a cart, so the nonce binds to the context
    obtain bound | bound := agrees.bound
    · dsimp only at bound
      split at bound
      · next same => rw [same, Option.some.inj bound]
      · cases bound
    · cases bound
  · exact payee.trans (agrees.payee merchant rfl)
  · exact mapError_eq_ok.mp priced
  · exact (Money.beq_iff _ _).mp agrees.amount

/-- The receipt is of a transaction that used the authorization and moved what it is for. -/
structure ExecutesFor (keccak256 : Bytes → Hash32) (rail : X402Rail) (read : ExactTerms)
    (auth : Authorization) (head : UInt64) (receipt : TransactionReceipt) : Prop where
  confirmed : Confirmed rail head receipt
  used : ∃ log ∈ receipt.logs,
    log.authorizationUsed keccak256 read.asset = some (auth.payer, auth.nonce)
  moved : ∃ log ∈ receipt.logs,
    log.transfer keccak256 read.asset = some (auth.payer, auth.payee, auth.value)

/-- The one transfer that pays the purchase is the one that was signed. -/
theorem executesFor_of_executes {keccak256 : Bytes → Hash32} {curve : Secp256k1} {rail : X402Rail}
    {token : Authorized} {read : ExactTerms} {auth : Authorization} {head : UInt64}
    {receipt : TransactionReceipt} {reference : String}
    (signed : SignedFor keccak256 curve rail token read auth) (confirmed : Confirmed rail head receipt)
    (executes : Executes keccak256 rail (X402Rail.authorizationRef read auth)
      ⟨token.ctx, reference, token.amount, token.merchant⟩ receipt) :
    ExecutesFor keccak256 rail read auth head receipt := by
  refine ⟨confirmed, executes.used, ?_⟩
  obtain ⟨log, listed, paid⟩ := executes.paid
  obtain ⟨asset, recipient, value, known, moved, merchant, price, priced, same, -⟩ :=
    paidBy_iff.mp paid
  obtain ⟨signedPrice, signedPriced, amount, -⟩ := signed.amount
  have sameAsset : asset = read.token := Option.some.inj (known.symm.trans signed.known)
  have samePayee : recipient = auth.payee := by
    rw [new_accountId, Except.ok.injEq] at merchant
    exact accountMerchant_inj.mp (merchant.trans signed.payee.symm)
  subst sameAsset samePayee
  have sameValue : value = auth.value :=
    atomic_eq_of_money priced signedPriced (same.trans amount.symm)
  rw [sameValue] at moved
  exact ⟨log, listed, moved⟩

section Runs

variable {keccak256 : Bytes → Hash32} {curve : Secp256k1} {rail : X402Rail}
  {externals : Externals} {ledgers : Set Ledger} {clock : Nat → Timestamp}
  {Tid : Type} [DecidableEq Tid]
  {config : Config Tid (World PaymentPayload X402Finality)
    (Op PaymentPayload X402Finality) Op.Answer Response}

/-- A recorded payment was signed for what its context was authorized for. -/
theorem RailReachable.signedFor
    (reached : RailReachable keccak256 curve rail externals ledgers clock config) {event : Event}
    {paid : Paid} {token : Authorized} (listed : event ∈ config.shared.history)
    (stands : paidToken event = some paid) (authorizes : Authorizes config.shared.acts token)
    (own : token.ctx = paid.ctx) :
    ∃ read auth, paid.reference = (X402Rail.authorizationRef read auth).toString ∧
      SignedFor keccak256 curve rail token read auth := by
  obtain ⟨run, each⟩ := (reachable_kept reached.reachable).inv
  obtain ⟨railId, reference, nonce, amount, key, body, rfl⟩ := paidToken_eq_some.mp stands
  obtain ⟨earlier, later, split⟩ := List.append_of_mem (mem_history.mp listed)
  have justified := each earlier _ later split
  simp only [Justifies, EventSound, body] at justified
  obtain ⟨other, proof, expected, verified, same, opened, spoken, -, agrees, referenced, -, -⟩ :=
    justified
  -- a context is authorized once, so it is this token the proof agreed with
  have unique : other = token := by
    obtain ⟨first, appended, holds⟩ := opened
    obtain ⟨second, appended', holds'⟩ := authorizes
    refine (Lifecycle.run run).authorizedToken_unique ?_ (mem_history.mpr appended') holds holds'
      (same.trans own.symm)
    exact mem_history.mpr (split ▸ List.mem_append_left _ appended)
  subst unique
  obtain ⟨i, -, answer⟩ := reached.spoken_before split spoken
  obtain ⟨read, auth, -, written, signed⟩ := signedFor_of_verified answer.symm agrees
  exact ⟨read, auth, referenced.symm.trans written, signed⟩

/-- The context of a token is made from the hash of the cart that was authorized. -/
theorem derived_of_authorizes {acts : List (Act PaymentPayload X402Finality)} {token : Authorized}
    (each : Each (Justifies externals ledgers) acts) (authorizes : Authorizes acts token) :
    ∃ requestKey,
      token.ctx = ContextId.derive externals.sha256 token.mandateId token.cartHash requestKey := by
  obtain ⟨opening, listed, stands⟩ := authorizes
  obtain ⟨mandate, cart, requestKey, body, rfl⟩ := authorizedToken_eq_some.mp stands
  obtain ⟨earlier, later, split⟩ := List.append_of_mem listed
  have justified := each earlier _ later split
  simp only [Justifies, EventSound, body] at justified
  exact ⟨requestKey, justified.derived⟩

/-- **A settled x402 purchase was paid on the chain as its payer signed it.**  Over every run
of ledgers with a rail that needs receipts: a context that is settled was authorized for a cart
and made from its hash, its payer signed an authorization with the context's nonce for the
cart's merchant and total, and the rail was shown the receipt of a confirmed transaction that used that authorization and
moved exactly that value from the payer to the payee on the token. -/
theorem settled_purchase_executed
    (reached : RailReachable keccak256 curve rail externals ledgers clock config)
    (untrusting : rail.policy.trustFacilitator = false) {event : Event} {railId reference : String}
    (listed : event ∈ config.shared.history) (settled : event.body = .settled railId reference) :
    ∃ opening ∈ config.shared.history, ∃ token read auth head receipt,
      authorizedToken opening = some token ∧ token.ctx = event.ctx ∧
      (∃ requestKey, token.ctx =
        ContextId.derive externals.sha256 token.mandateId token.cartHash requestKey) ∧
      SignedFor keccak256 curve rail token read auth ∧
      (∃ expected, Act.judged railId (.receipt read.chain.toString head receipt) expected
        (.ok (.final reference)) ∈ config.shared.acts) ∧
      ExecutesFor keccak256 rail read auth head receipt := by
  obtain ⟨-, each⟩ := (reachable_kept reached.reachable).inv
  obtain ⟨earlier, later, split⟩ := List.append_of_mem (mem_history.mp listed)
  have justified := each earlier _ later split
  simp only [Justifies, EventSound, settled] at justified
  obtain ⟨token, paid, evidence, own, ⟨opening, opened, holds⟩, ours, ⟨payment, appended, stands⟩,
    -, spoken⟩ := justified
  have within : ∀ {act}, act ∈ earlier → act ∈ config.shared.acts :=
    fun past => split ▸ List.mem_append_left _ past
  obtain ⟨read, auth, written, signed⟩ := reached.signedFor (mem_history.mpr (within appended))
    stands ⟨opening, within opened, holds⟩ (own.trans ours.symm)
  obtain ⟨i, -, answer⟩ := reached.spoken_before split spoken
  obtain ⟨recorded, head, receipt, printed, rfl, confirmed, executes⟩ :=
    checkFinality_eq_final untrusting answer.symm
  -- the reference that was signed, printed, stored and parsed is one
  have same : recorded = X402Rail.authorizationRef read auth :=
    AuthorizationRef.toString_injective (printed.trans written)
  subst same
  rw [← own] at executes
  exact ⟨opening, mem_history.mpr (within opened), token, read, auth, head, receipt, holds, own,
    derived_of_authorizes each ⟨opening, within opened, holds⟩, signed, ⟨_, within spoken⟩, executesFor_of_executes signed confirmed executes⟩

end Runs

section Alone

variable {Proof Evidence α : Type} {externals : Externals} {world : World Proof Evidence}
  {around told : Surroundings Proof Evidence}

/-- The rail is asked nothing, or says the same. -/
def SaysAlike (around told : Surroundings Proof Evidence) : Consult Proof Evidence α → Prop
  | .outright _ => True
  | .verify rail proof expected _ =>
      around.verify rail proof expected = told.verify rail proof expected
  | .judge rail evidence expected _ =>
      around.judge rail evidence expected = told.judge rail evidence expected

theorem complete_deny_alike (ctx : ContextId) (now : Timestamp) (refusal : Refusal) :
    world.complete externals around (Plan.deny ctx now refusal : Call Proof Evidence α).run =
      world.complete externals told (Plan.deny ctx now refusal : Call Proof Evidence α).run := by
  unfold Plan.deny Ledger.deny
  rw [World.complete_bind, World.complete_bind, World.complete_append, World.complete_append]
  cases (world.append externals ctx now
    (.denied refusal.stage refusal.reason refusal.detail)).1 with
  | error error => rfl
  | ok outcome => cases outcome <;> rfl

theorem complete_plan_alike (ctx : ContextId) (now : Timestamp) (plan : Plan α) :
    world.complete externals around (plan.call ctx now : Call Proof Evidence α).run =
      world.complete externals told (plan.call ctx now : Call Proof Evidence α).run := by
  cases plan with
  | answer | corrupt | unavailable => rfl
  | refuse refusal => exact complete_deny_alike ctx now refusal
  | submit submission =>
      rw [Plan.call, World.complete_bind, World.complete_bind, World.complete_append,
        World.complete_append]
      cases (world.append externals ctx now submission.body).1 with
      | error error => rfl
      | ok outcome =>
          dsimp only [mapError_ok]
          unfold Plan.conclude
          split
          · rfl
          · split
            · exact complete_deny_alike ctx now _
            · rfl

/-- A step that runs alone meets the clock and one answer of the rail. -/
theorem complete_decision_alike (decision : Decision Proof Evidence α)
    (now : around.now = told.now)
    (alike : SaysAlike around told (decision.decide (world.inner.records.lookup decision.ctx))) :
    world.complete externals around decision.call.run =
      world.complete externals told decision.call.run := by
  rw [Decision.call, World.complete_bind, World.complete_bind, World.complete_now,
    World.complete_now, now]
  dsimp only
  rw [World.complete_bind, World.complete_bind, World.complete_record, World.complete_record]
  dsimp only
  cases consult : decision.decide (world.inner.records.lookup decision.ctx) with
  | outright plan => exact complete_plan_alike decision.ctx told.now plan
  | verify rail proof expected next =>
      rw [consult] at alike
      have asked : around.verify rail proof expected = told.verify rail proof expected := alike
      change (world.saw (.verified rail proof expected (around.verify rail proof expected))).complete
          externals around
          ((next (around.verify rail proof expected)).call decision.ctx told.now).run =
        (world.saw (.verified rail proof expected (told.verify rail proof expected))).complete
          externals told ((next (told.verify rail proof expected)).call decision.ctx told.now).run
      rw [asked]
      exact complete_plan_alike decision.ctx told.now _
  | judge rail evidence expected next =>
      rw [consult] at alike
      have asked : around.judge rail evidence expected = told.judge rail evidence expected := alike
      change (world.saw (.judged rail evidence expected
          (around.judge rail evidence expected))).complete externals around
          ((next (around.judge rail evidence expected)).call decision.ctx told.now).run =
        (world.saw (.judged rail evidence expected (told.judge rail evidence expected))).complete
          externals told ((next (told.judge rail evidence expected)).call decision.ctx told.now).run
      rw [asked]
      exact complete_plan_alike decision.ctx told.now _

theorem complete_recordPayment (ledger : Ledger) (auth : Authorized) (proof : Proof) :
    (world.complete externals around ((Request.recordPayment ledger auth proof).program externals)).2 =
      (world.complete externals around (Engine.payment externals ledger auth proof).call.run).2 := by
  rw [← recordPayment_eq]
  exact congrArg Prod.snd (World.complete_respond _ _)

theorem complete_recordSettlement (ledger : Ledger) (paid : Paid) (evidence : Evidence) :
    (world.complete externals around
        ((Request.recordSettlement ledger paid evidence).program externals)).2 =
      (world.complete externals around
        (Engine.settlement externals ledger paid evidence).call.run).2 := by
  rw [← recordSettlement_eq]
  exact congrArg Prod.snd (World.complete_respond _ _)

end Alone

namespace Sample

def lastingMandate : Mandate :=
  let mandate := Core.Sample.mandate Core.Sample.alice
  { mandate with
    body := { mandate.body with scope := { mandate.body.scope with validUntil := ⟨2000000000⟩ } } }

/-- The payment signed by `nobody`. -/
def signedReference : AuthorizationRef :=
  ⟨baseSepolia, usdcContract, nobody, Hash32.zero, 1800000060⟩

def signedTransfer : Log :=
  .ofTransfer keccak256 usdcContract nobody payTo ⟨List.replicate 14 0 ++ [0x27, 0x10], by simp⟩

def executed : TransactionReceipt :=
  receipt [.ofAuthorizationUsed keccak256 usdcContract nobody Hash32.zero, signedTransfer]

def awaitedSettlement : SettlementExpectation :=
  ⟨Core.Sample.firstCtx, signedReference.toString, pricedCart.claims.total,
    accountMerchant baseSepolia payTo⟩

theorem signedTransfer_pays :
    rail.paidBy keccak256 signedReference awaitedSettlement signedTransfer = true := by
  have known : rail.registry.lookup (baseSepolia, usdcContract) =
      some ⟨Core.Sample.usdc, 6, "USDC", "2"⟩ := by
    simp [rail]
  have moved : signedTransfer.transfer keccak256 usdcContract = some (nobody, payTo, 10000) := by
    unfold signedTransfer
    rw [Log.transfer_ofTransfer]
    simp [fromBigEndian, positional]
  exact paidBy_iff.mpr ⟨_, _, _, known, moved, new_accountId _ _, _, rfl, rfl, rfl⟩

theorem executed_final :
    rail.checkFinality keccak256 ⟨1800000000⟩ (.receipt baseSepolia.toString 110 executed)
      awaitedSettlement = .ok (.final (toAsciiLowercase executed.transactionHash)) := by
  have parsed : AuthorizationRef.parse keccak256 awaitedSettlement.paymentReference =
      .ok signedReference :=
    AuthorizationRef.parse_toString keccak256 (by decide : baseSepolia.id ≠ 0)
  have block : quantity "0x64" = some 100 := rfl
  have confirmed : Confirmed rail 110 executed :=
    ⟨⟨transactionHash, bytes_hexEncode _ _⟩, ⟨100, block, by decide, by decide⟩, rfl⟩
  have executes : Executes keccak256 rail signedReference awaitedSettlement executed :=
    ⟨⟨_, .head _, Log.authorizationUsed_ofAuthorizationUsed⟩,
      ⟨_, .tail _ (.head _), signedTransfer_pays⟩⟩
  exact (checkFinality_receipt_eq_final_iff parsed).mpr ⟨rfl, confirmed, executes, rfl⟩

/-- The rail that needs receipts, asked while a call runs alone. -/
def strict : Surroundings PaymentPayload X402Finality :=
  rail.surroundings keccak256 curve ⟨1800000000⟩

/-- What it says of the payment and of the receipt. -/
def told : Surroundings PaymentPayload X402Finality where
  now := ⟨1800000000⟩
  verify := fun _ _ _ => .ok reported
  judge := fun _ _ _ => .ok (.final (toAsciiLowercase executed.transactionHash))

def signedToken : Authorized :=
  ⟨Core.Sample.firstCtx, Core.Sample.mandateId, Core.Sample.cartHash,
    accountMerchant baseSepolia payTo, pricedCart.claims.total⟩

def paidToken : Paid := ⟨Core.Sample.firstCtx, "x402", signedReference.toString, .zero⟩

def settlingCalls : List (Request PaymentPayload X402Finality) :=
  [ .authorize x402Ledger lastingMandate x402Cart "k1",
    .recordPayment x402Ledger signedToken signedPayment,
    .recordSettlement x402Ledger paidToken (.receipt baseSepolia.toString 110 executed) ]

def strictServed (calls : List (Request PaymentPayload X402Finality)) :
    World PaymentPayload X402Finality :=
  calls.foldl (fun world call =>
    (world.complete Core.Sample.externals strict (call.program Core.Sample.externals)).2) World.empty

theorem strictServed_append (earlier : List (Request PaymentPayload X402Finality))
    (call : Request PaymentPayload X402Finality) :
    strictServed (earlier ++ [call]) = ((strictServed earlier).complete Core.Sample.externals strict
      (call.program Core.Sample.externals)).2 := by
  rw [strictServed, List.foldl_append]
  rfl

theorem strictServed_reachable (calls : List (Request PaymentPayload X402Finality))
    (own : ∀ call ∈ calls, ∀ ledger ∈ call.ledger?, ledger = x402Ledger) :
    RailReachable keccak256 curve rail Core.Sample.externals {x402Ledger} (fun _ => ⟨1800000000⟩)
      (⟨strictServed calls, fun _ : Unit => none⟩ : Config ..) := by
  have performs : ∀ world op, (railSemantics keccak256 curve rail Unit Core.Sample.externals
      fun _ => ⟨1800000000⟩).exec () world op (world.perform Core.Sample.externals strict op).1
      (world.perform Core.Sample.externals strict op).2 := by
    intro world op
    refine ⟨World.perform_exec Core.Sample.externals world strict op, ?_⟩
    cases op <;> trivial
  induction calls using List.reverseRecOn with
  | nil => exact .initial
  | append_singleton earlier call ih =>
      have reached := ih fun call listed => own call (by simp [listed])
      have served := Process.Reachable.serve _ performs reached rfl
        ⟨call, own call (by simp), rfl⟩ (fun _ => rfl)
      rw [strictServed_append]
      exact served

/-- The purchase, up to the payment: nothing is asked of the rail before. -/
def opened : World PaymentPayload X402Finality :=
  strictServed [.authorize x402Ledger lastingMandate x402Cart "k1"]

/-- The payment, and its settlement, as the ledger decides them. -/
def paying : Decision PaymentPayload X402Finality Paid :=
  Engine.payment Core.Sample.externals x402Ledger signedToken signedPayment

def settling : Decision PaymentPayload X402Finality Settlement :=
  Engine.settlement Core.Sample.externals x402Ledger paidToken
    (.receipt baseSepolia.toString 110 executed)

def paidWorld : World PaymentPayload X402Finality :=
  (opened.complete Core.Sample.externals told paying.call.run).2

theorem opened_expects : (opened.inner.records.lookup Core.Sample.firstCtx).map
    (Ledger.paymentExpectation Core.Sample.firstCtx) =
      some { expectation with cartHash := Core.Sample.cartHash } := by
  decide +kernel

theorem paidWorld_expects : (paidWorld.inner.records.lookup Core.Sample.firstCtx).map
    (fun record => (record.state, record.rail, record.paymentReference.map
      (Ledger.settlementExpectation Core.Sample.firstCtx record))) =
      some (.paid, some "x402", some awaitedSettlement) := by
  decide +kernel

theorem paying_alike : opened.complete Core.Sample.externals strict paying.call.run =
    opened.complete Core.Sample.externals told paying.call.run := by
  refine complete_decision_alike paying rfl ?_
  obtain ⟨record, found, expects⟩ := Option.map_eq_some_iff.mp opened_expects
  have same : opened.inner.records.lookup paying.ctx = some record := found
  rw [same]
  change rail.verifyProof keccak256 curve ⟨1800000000⟩ signedPayment
    (Ledger.paymentExpectation Core.Sample.firstCtx record) = .ok reported
  rw [expects]
  exact signedPayment_verified

theorem settling_alike : paidWorld.complete Core.Sample.externals strict settling.call.run =
    paidWorld.complete Core.Sample.externals told settling.call.run := by
  refine complete_decision_alike settling rfl ?_
  obtain ⟨record, found, expects⟩ := Option.map_eq_some_iff.mp paidWorld_expects
  simp only [Prod.mk.injEq, Option.map_eq_some_iff] at expects
  obtain ⟨state, via, reference, recorded, expected⟩ := expects
  have same : paidWorld.inner.records.lookup settling.ctx = some record := found
  rw [same]
  simp only [settling, Engine.settlement, state, via, recorded, x402Ledger, ne_eq,
    not_true_eq_false, if_false]
  change rail.checkFinality keccak256 ⟨1800000000⟩ (.receipt baseSepolia.toString 110 executed)
    (Ledger.settlementExpectation Core.Sample.firstCtx record reference) = _
  rw [expected]
  exact executed_final

/-- The rail's two answers are known, so the run can be followed without asking it. -/
theorem strictServed_settling : strictServed settlingCalls =
    (paidWorld.complete Core.Sample.externals told settling.call.run).2 := by
  have paid : (opened.complete Core.Sample.externals strict
      ((Request.recordPayment x402Ledger signedToken signedPayment).program
        Core.Sample.externals)).2 = paidWorld := by
    rw [complete_recordPayment, paidWorld, ← paying_alike, paying]
  have settled : (paidWorld.complete Core.Sample.externals strict
      ((Request.recordSettlement x402Ledger paidToken
        (.receipt baseSepolia.toString 110 executed)).program Core.Sample.externals)).2 =
      (paidWorld.complete Core.Sample.externals told settling.call.run).2 := by
    rw [complete_recordSettlement, ← settling_alike, settling]
  rw [← settled, ← paid]
  rw [opened, ← strictServed_append, ← strictServed_append]
  rfl

theorem strictServed_states : (strictServed settlingCalls).history.map
    (fun event => event.body.resultingState) = [some .authorized, some .paid, some .settled] := by
  rw [strictServed_settling]
  decide +kernel

end Sample

theorem settled_purchase_executed_settling :
    ∃ event ∈ (Sample.strictServed Sample.settlingCalls).history,
      ∃ railId reference, event.body = .settled railId reference ∧
      ∃ opening ∈ (Sample.strictServed Sample.settlingCalls).history,
      ∃ token read auth head receipt, authorizedToken opening = some token ∧
        token.ctx = event.ctx ∧
        (∃ requestKey, token.ctx = ContextId.derive Core.Sample.externals.sha256 token.mandateId
          token.cartHash requestKey) ∧
        SignedFor Sample.keccak256 Sample.curve Sample.rail token read auth ∧
        (∃ expected, Act.judged railId (.receipt read.chain.toString head receipt) expected
          (.ok (.final reference)) ∈ (Sample.strictServed Sample.settlingCalls).acts) ∧
        ExecutesFor Sample.keccak256 Sample.rail read auth head receipt := by
  have reached := Sample.strictServed_reachable Sample.settlingCalls
    (by simp [Sample.settlingCalls, Request.ledger?])
  have run := Sample.strictServed_states
  generalize Sample.strictServed Sample.settlingCalls = world at reached run ⊢
  have last : some .settled ∈ world.history.map fun event => event.body.resultingState := by
    simp [run]
  obtain ⟨event, listed, moves⟩ := List.mem_map.mp last
  cases body : event.body with
  | settled railId reference =>
      exact ⟨event, listed, railId, reference, body,
        settled_purchase_executed reached rfl listed body⟩
  | _ => simp [body, EventBody.resultingState] at moves

end MandateLedger.X402
