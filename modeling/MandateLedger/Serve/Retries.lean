import MandateLedger.Serve.Footing

namespace MandateLedger.Serve

open MandateLedger.Core MandateLedger.Data MandateLedger.Memory MandateLedger.Process
  MandateLedger.Engine MandateLedger.Adapters

section Lasting

variable {Rid : Type} {externals : Externals} {rail : SandboxRail}
  {Lasts : World MockProof Finality → Prop} {ε α β : Type} {t : Rid}

/-- All that is known of the others is that something about the store lasts. -/
def lasting (Rid : Type) (Lasts : World MockProof Finality → Prop) :
    Discipline Rid Station where
  Inv station := Lasts station.world
  Rely _ _ _ := True
  Idle _ _ := True
  refl _ _ := trivial
  trans _ _ := trivial
  idle_stable _ _ := trivial

/-- No operation ends it. -/
def Endures (externals : Externals) (Lasts : World MockProof Finality → Prop) : Prop :=
  ∀ (before after : World MockProof Finality) (op : Op MockProof Finality) (answer : op.Answer),
    before.Exec externals op answer after → Lasts before → Lasts after

theorem keeps_lasting (endures : Endures externals Lasts)
    (program : Program (Op MockProof Finality) Op.Answer α) (station : Station) :
    program.Keeps (semantics Rid externals rail) (lasting Rid Lasts) t (fun _ _ => True)
      station := by
  induction program generalizing station with
  | done value => trivial
  | call op next ih =>
      intro before _ lasts answer after executed
      exact ⟨⟨endures _ _ _ _ executed.world lasts, fun _ _ => trivial⟩, ih answer after⟩

/-- While it lasts, the program returns something good and changes nothing. -/
def Answers (externals : Externals) (rail : SandboxRail)
    (Lasts : World MockProof Finality → Prop) (t : Rid)
    (program : Fallible (Op MockProof Finality) Op.Answer ε α) (Good : α → Prop) : Prop :=
  ∀ station, program.run.Observes (semantics Rid externals rail) (lasting Rid Lasts) t
    (fun seen result _ => (∃ value, result = .ok value ∧ Good value) ∧
      ∀ exchange ∈ seen, Silent externals exchange) station

theorem answers_pure {value : α} {Good : α → Prop} (good : Good value) :
    Answers externals rail Lasts t (pure value : Fallible (Op MockProof Finality) Op.Answer ε α)
      Good :=
  fun _ => ⟨⟨value, rfl, good⟩, List.forall_mem_nil _⟩

theorem Answers.bind {first : Fallible (Op MockProof Finality) Op.Answer ε α}
    {rest : α → Fallible (Op MockProof Finality) Op.Answer ε β} {Good : α → Prop} {Final : β → Prop}
    (answers : Answers externals rail Lasts t first Good)
    (continues : ∀ value, Good value → Answers externals rail Lasts t (rest value) Final) :
    Answers externals rail Lasts t (first >>= rest) Final := by
  intro station
  rw [Fallible.run_bind, Program.observes_bind]
  refine (answers station).mono ?_
  rintro seen _ after ⟨⟨value, rfl, good⟩, silent⟩
  refine (continues value good after).mono ?_
  rintro more result last ⟨ends, quiet⟩
  exact ⟨ends, List.forall_mem_append.mpr ⟨silent, quiet⟩⟩

theorem Answers.ask {call : Call MockProof Finality α} {Good : α → Prop}
    (answers : Answers externals rail Lasts t call Good) :
    Answers externals rail Lasts t (Serve.ask call) Good := by
  intro station
  have same : (Serve.ask call).run = call.run >>= fun result =>
      .done (result.mapError ApiError.ofLedger) := rfl
  rw [same, Program.observes_bind]
  refine (answers station).mono ?_
  rintro seen _ after ⟨⟨value, rfl, good⟩, silent⟩
  rw [Program.observes_done, List.append_nil]
  exact ⟨⟨value, rfl, good⟩, silent⟩

/-- One operation that changes nothing. -/
theorem answers_op (endures : Endures externals Lasts) {op : Op MockProof Finality}
    {answered : op.Answer → Except ε α} {Good : α → Prop}
    (good : ∀ before answer after, Lasts before.world →
      Station.Exec externals rail before op answer after →
      Silent externals ⟨op, answer⟩ ∧ ∃ value, answered answer = .ok value ∧ Good value) :
    Answers externals rail Lasts t
      (ExceptT.mk (Program.call op fun answer => .done (answered answer))) Good := by
  intro station
  refine (Program.observes_call _ _).mpr ?_
  intro before _ lasts answer after executed
  obtain ⟨silent, value, returned, holds⟩ := good before answer after lasts executed
  refine ⟨⟨endures _ _ _ _ executed.world lasts, fun _ _ => trivial⟩, ?_⟩
  exact ⟨⟨value, returned, holds⟩, List.forall_mem_singleton.mpr silent⟩

variable (endures : Endures externals Lasts)
include endures

theorem answers_now :
    Answers externals rail Lasts t (Ledger.now : Call MockProof Finality Timestamp)
      fun _ => True :=
  answers_op endures fun _ answer _ _ _ => ⟨silent_now answer, answer, rfl, trivial⟩

theorem answers_record (ctx : ContextId) :
    Answers externals rail Lasts t (Ledger.record ctx : Call MockProof Finality (Option Record))
      fun found => ∃ world, Lasts world ∧ found = world.inner.records.lookup ctx := by
  refine answers_op endures ?_
  intro before answer after lasts executed
  obtain ⟨rfl, -⟩ := executed.world
  exact ⟨silent_record ctx _, _, rfl, before.world, lasts, rfl⟩

theorem answers_authorizedMandate (ctx : ContextId) :
    Answers externals rail Lasts t
      (Ledger.authorizedMandate ctx : Call MockProof Finality (Option Mandate))
      fun found => ∃ world, Lasts world ∧ found = world.inner.authorizedMandate ctx := by
  refine answers_op endures ?_
  intro before answer after lasts executed
  obtain ⟨rfl, -⟩ := executed.world
  exact ⟨silent_authorizedMandate ctx _, _, rfl, before.world, lasts, rfl⟩

theorem answers_events (ctx : ContextId) :
    Answers externals rail Lasts t (Ledger.events ctx : Call MockProof Finality (List Event))
      fun found => ∃ world, Lasts world ∧ found = world.inner.chain ctx := by
  refine answers_op endures ?_
  intro before answer after lasts executed
  obtain ⟨rfl, -⟩ := executed.world
  exact ⟨silent_events ctx _, _, rfl, before.world, lasts, rfl⟩

theorem answers_verifyProof (id : String) (proof : MockProof) (expected : PaymentExpectation) :
    Answers externals rail Lasts t
      (Fallible.ask (.verifyProof id proof expected : Op MockProof Finality) :
        Call MockProof Finality (Except RailError VerifiedProof))
      (· = SandboxRail.verifyProof proof) := by
  refine answers_op endures ?_
  intro before answer after lasts executed
  exact ⟨silent_verifyProof _ _ _ _, answer, rfl, executed.speaks.1⟩

theorem answers_checkFinality (id : String) (evidence : Finality)
    (expected : SettlementExpectation) :
    Answers externals rail Lasts t
      (Fallible.ask (.checkFinality id evidence expected : Op MockProof Finality) :
        Call MockProof Finality (Except RailError FinalityStatus)) fun _ => True := by
  refine answers_op endures ?_
  intro before answer after lasts executed
  exact ⟨silent_checkFinality _ _ _ _, answer, rfl, trivial⟩

/-- A decision that comes out the same whatever the clock says. -/
theorem Decision.answers {decision : Decision MockProof Finality α} {value : α}
    (decided : ∀ world, Lasts world → ∀ around : Surroundings MockProof Finality,
      (around.verify = fun _ proof _ => SandboxRail.verifyProof proof) →
      (decision.decide (world.inner.records.lookup decision.ctx)).resolve around = .answer value) :
    Answers externals rail Lasts t decision.call (· = value) := by
  refine (answers_now endures).bind fun now _ => (answers_record endures _).bind ?_
  rintro _ ⟨world, lasts, rfl⟩
  have resolved := decided world lasts
  -- with the answer of the rail at hand, the plan is to answer
  have planned : ∀ {plan : Plan α}, plan = .answer value →
      Answers externals rail Lasts t (plan.call decision.ctx now) (· = value) := by
    rintro _ rfl
    exact answers_pure rfl
  cases consulted : decision.decide (world.inner.records.lookup decision.ctx) with
  | outright plan =>
      rw [consulted] at resolved
      exact planned (resolved ⟨now, _, fun _ _ _ => .error (.unavailable "")⟩ rfl)
  | verify id proof expected next =>
      rw [consulted] at resolved
      refine (answers_verifyProof endures id proof expected).bind ?_
      rintro _ rfl
      exact planned (resolved ⟨now, _, fun _ _ _ => .error (.unavailable "")⟩ rfl)
  | judge id evidence expected next =>
      rw [consulted] at resolved
      refine (answers_checkFinality endures id evidence expected).bind ?_
      intro answer _
      exact planned (resolved ⟨now, _, fun _ _ _ => answer⟩ rfl)

end Lasting

/-- A store that was never pruned, and that has recorded something of a context. -/
structure Footed (externals : Externals) (ctx : ContextId) (Stands : Event → Prop)
    (world : World MockProof Finality) : Prop where
  run : Traced.Reachable externals world.traced
  unpruned : world.inner.events = world.history
  recorded : ∃ event ∈ changes ctx world.history, Stands event

theorem footed_endures (externals : Externals) (ctx : ContextId) (Stands : Event → Prop) :
    Endures externals (Footed externals ctx Stands) := by
  intro before after op answer executed footed
  obtain ⟨event, listed, stands⟩ := footed.recorded
  exact ⟨executed.traced footed.run, executed.unpruned footed.unpruned,
    event, changes_later executed.grows listed, stands⟩

/-- The tokens that a context has earned when it comes to a state. -/
structure Holds (state : PaymentState) (reached : Reached) : Prop where
  paid : past state ⊆ past .paid → ∃ token, reached.paid = some token
  settled : past state ⊆ past .settled → ∃ token, reached.settled = some token
  settlementFailed : past state ⊆ past .settlementFailed →
    ∃ token, reached.settlementFailed = some token

theorem lifecycle_holds {traced : Traced} (lifecycle : Lifecycle traced) {ctx : ContextId}
    {event : Event} {state : PaymentState} (listed : event ∈ changes ctx traced.history)
    (moves : event.body.resultingState = some state) :
    ∃ record reached, traced.inner.records.lookup ctx = some record ∧
      Ledger.reachedFrom ctx record = .ok reached ∧ Own ctx reached ∧ Holds state reached := by
  obtain ⟨record, found, there, -⟩ := lifecycle.passed listed moves
  obtain ⟨reached, read, -, recovers⟩ := lifecycle.recovers found
  refine ⟨record, reached, found, read, reachedFrom_own (lifecycle.record_ctx found) read, ?_⟩
  constructor
  · intro further
    have passed := (lifecycle.passed_iff found .paid).mpr (further there)
    exact Option.isSome_iff_exists.mp (recovers.paid.1.mpr passed)
  · intro further
    have passed := (lifecycle.passed_iff found .settled).mpr (further there)
    exact Option.isSome_iff_exists.mp (recovers.settled.1.mpr passed)
  · intro further
    have passed := (lifecycle.passed_iff found .settlementFailed).mpr (further there)
    exact Option.isSome_iff_exists.mp (recovers.settlementFailed.1.mpr passed)

section Again

variable {Rid : Type} {app : App} {t : Rid} {ctx : ContextId} {Stands : Event → Prop}

/-- The work returns the body while the event stands. -/
abbrev Again (app : App) (t : Rid) (ctx : ContextId) (Stands : Event → Prop)
    (work : Handler Body) (body : Body) : Prop :=
  Answers app.externals app.rail (Footed app.externals ctx Stands) t work (· = body)

/-- A context that has come to a state has the tokens up to it. -/
theorem again_reachedAt (state : PaymentState) {stage : Stage} {rest : Reached → Handler Body}
    {body : Body} (moves : ∀ event, Stands event → event.body.resultingState = some state)
    (continues : ∀ reached, Own ctx reached → Holds state reached →
      Again app t ctx Stands (rest reached) body) :
    Again app t ctx Stands (reachedAt ctx stage >>= rest) body := by
  have read : Answers app.externals app.rail (Footed app.externals ctx Stands) t
      (Ledger.reached ctx : Call MockProof Finality (Option Reached))
      fun found => ∃ reached, found = some reached ∧ Own ctx reached ∧ Holds state reached := by
    refine (answers_record (footed_endures _ _ _) ctx).bind ?_
    rintro _ ⟨world, footed, rfl⟩
    obtain ⟨event, listed, stands⟩ := footed.recorded
    obtain ⟨record, reached, found, read, held⟩ :=
      lifecycle_holds (Lifecycle.run footed.run) listed (moves event stands)
    rw [show world.inner.records.lookup ctx = some record from found]
    dsimp only
    rw [read]
    exact answers_pure ⟨reached, rfl, held⟩
  unfold reachedAt
  rw [bind_assoc]
  refine read.ask.bind ?_
  rintro _ ⟨reached, rfl, own, holds⟩
  exact continues reached own holds

theorem again_earned {α : Type} {stage : Stage} {state : PaymentState} {needs : String}
    {token : Option α} {rest : α → Handler Body} {body : Body}
    (held : ∃ value, token = some value)
    (continues : ∀ value, token = some value → Again app t ctx Stands (rest value) body) :
    Again app t ctx Stands (earned ctx stage state needs token >>= rest) body := by
  obtain ⟨value, rfl⟩ := held
  exact continues value rfl

/-- The step is recorded, whichever token is presented. -/
theorem again_call {α : Type} {decision : Decision MockProof Finality α} (value : α)
    (answer : α → Body)
    (decided : ∀ world : World MockProof Finality, Lifecycle world.traced →
      (∃ event ∈ changes ctx world.history, Stands event) →
      ∀ around : Surroundings MockProof Finality,
      (around.verify = fun _ proof _ => SandboxRail.verifyProof proof) →
      (decision.decide (world.inner.records.lookup decision.ctx)).resolve around = .answer value) :
    Again app t ctx Stands (do return answer (← ask decision.call)) (answer value) := by
  have called : Answers app.externals app.rail (Footed app.externals ctx Stands) t decision.call
      (· = value) :=
    Decision.answers (footed_endures _ _ _)
      fun world footed => decided world (Lifecycle.run footed.run) footed.recorded
  refine called.ask.bind ?_
  rintro _ rfl
  exact answers_pure rfl

theorem paymentWork_again {proof : MockProof} {token : Paid} {verified : VerifiedProof}
    (rail : token.rail = app.ledger.railId) (checked : SandboxRail.verifyProof proof = .ok verified)
    (same : verified.reference = token.reference) :
    Again app t ctx (paidToken · = some token) (paymentWork app ctx proof)
      (.paid (.ofToken token)) := by
  refine again_reachedAt .paid ?_ fun reached own _ => ?_
  · intro event stands
    obtain ⟨_, _, _, _, _, body, -⟩ := paidToken_eq_some.mp stands
    rw [body]
    rfl
  · rw [recordPayment_eq]
    refine again_call token (fun paid => .paid (.ofToken paid)) ?_
    intro world lifecycle recorded around honest
    obtain ⟨event, listed, stands⟩ := recorded
    rw [← own.authorized] at listed
    obtain ⟨record, found⟩ := lifecycle.found listed
    obtain ⟨opening, opened, authorized⟩ := (lifecycle.provenance found).opened
    refine payment_again lifecycle ⟨rail, ⟨event, listed, stands⟩, _,
      ⟨opening, opened, authorized⟩, none, verified, same, List.mem_singleton_self _⟩ ?_
    intro id other expected given told
    cases List.mem_singleton.mp told
    rw [honest]
    exact checked

theorem settledToken_moves {token : Settled} {event : Event}
    (stands : settledToken event = some token) : event.body.resultingState = some .settled := by
  cases body : event.body with
  | settled => rfl
  | _ => simp [settledToken, body] at stands

theorem failedToken_moves {token : SettlementFailed} {event : Event}
    (stands : failedToken event = some token) :
    event.body.resultingState = some .settlementFailed := by
  cases body : event.body with
  | settlementFailed => rfl
  | _ => simp [failedToken, body] at stands

theorem compensatedToken_moves {token : Compensated} {event : Event}
    (stands : compensatedToken event = some token) :
    event.body.resultingState = some .compensated := by
  cases body : event.body with
  | compensated => rfl
  | _ => simp [compensatedToken, body] at stands

theorem deliveredToken_moves {token : Delivered} {event : Event}
    (stands : deliveredToken event = some token) :
    event.body.resultingState = some .delivered := by
  cases body : event.body with
  | delivered => rfl
  | _ => simp [deliveredToken, body] at stands

theorem settled_again_work {reference : Option String} {reported : Option Reported}
    {token : Settled} :
    Again app t ctx (settledToken · = some token) (settlementWork app ctx reference reported)
      (.settlement (.ofSettlement ctx (.settled token))) := by
  refine again_reachedAt .settled (fun _ => settledToken_moves) fun reached own holds => ?_
  refine again_earned (holds.paid (by decide)) fun paid held => ?_
  rw [recordSettlement_eq]
  refine again_call (Settlement.settled token) _ fun world lifecycle recorded around _ => ?_
  rw [← own.paid paid held] at recorded
  exact settled_again lifecycle recorded

theorem failed_again_work {reference : Option String} {reported : Option Reported}
    {token : SettlementFailed} :
    Again app t ctx (failedToken · = some token) (settlementWork app ctx reference reported)
      (.settlement (.ofSettlement ctx (.failed token))) := by
  refine again_reachedAt .settlementFailed (fun _ => failedToken_moves) fun reached own holds => ?_
  refine again_earned (holds.paid (by decide)) fun paid held => ?_
  rw [recordSettlement_eq]
  refine again_call (Settlement.failed token) _ fun world lifecycle recorded around _ => ?_
  rw [← own.paid paid held] at recorded
  exact failed_again lifecycle recorded

theorem compensationWork_again {reference : Option String} {token : Compensated} :
    Again app t ctx (compensatedToken · = some token) (compensationWork ctx reference)
      (.compensated token.ctx.val .compensated) := by
  refine again_reachedAt .compensated (fun _ => compensatedToken_moves) fun reached own holds => ?_
  refine again_earned (holds.settlementFailed (by decide)) fun failed held => ?_
  rw [compensate_eq]
  refine again_call token _ fun world lifecycle recorded around _ => ?_
  rw [← own.settlementFailed failed held] at recorded
  exact compensated_again lifecycle recorded

theorem deliveryWork_again {receipt : DeliveryReceipt} {token : Delivered} :
    Again app t ctx (deliveredToken · = some token) (deliveryWork ctx receipt)
      (.delivered (.ofToken token)) := by
  refine again_reachedAt .delivered (fun _ => deliveredToken_moves) fun reached own holds => ?_
  refine again_earned (holds.settled (by decide)) fun settled held => ?_
  rw [recordDelivery_eq]
  refine again_call token _ fun world lifecycle recorded around _ => ?_
  rw [← own.settled settled held] at recorded
  exact delivered_again lifecycle recorded

theorem expiryWork_again :
    Again app t ctx (fun event => event.body = .expired) (expiryWork ctx)
      (.expired ctx.val .expired) := by
  refine again_reachedAt .expired (fun event expired => by rw [expired]; rfl) fun reached own _ => ?_
  rw [expire_eq]
  refine again_call () _ fun world lifecycle recorded around _ => ?_
  rw [← own.authorized] at recorded
  exact expired_again lifecycle recorded

/-- The context exists, and its first event names the mandate. -/
theorem authorizeWork_again {mandate : Mandate} {cart : Cart} {requestKey : String}
    {token : Authorized} (verified : mandate.verify app.externals.signatures = .ok ()) :
    Again app t (attempt app.externals mandate cart requestKey)
      (SameMandate mandate (attempt app.externals mandate cart requestKey) token)
      (authorizeWork app mandate cart requestKey) (.authorized (.ofToken token)) := by
  have endures := footed_endures app.externals (attempt app.externals mandate cart requestKey)
    (SameMandate mandate (attempt app.externals mandate cart requestKey) token)
  have called : Answers app.externals app.rail (Footed app.externals
      (attempt app.externals mandate cart requestKey)
      (SameMandate mandate (attempt app.externals mandate cart requestKey) token)) t
      (app.ledger.authorize app.externals mandate cart requestKey) (· = token) := by
    refine (answers_now endures).bind fun now _ => (answers_record endures _).bind ?_
    rintro _ ⟨world, footed, rfl⟩
    obtain ⟨event, listed, own, stands, stored, snapshot, key, body, same, signed⟩ := footed.recorded
    obtain ⟨record, found, -, carries, -⟩ :=
      (Lifecycle.run footed.run).passed listed (by rw [body]; rfl)
    rw [Carries, body, stands, Option.some.injEq] at carries
    have located : world.inner.records.lookup (ContextId.derive app.externals.sha256 mandate.id
      (cart.hash app.externals.sha256) requestKey) = some record := found
    rw [located]
    dsimp only
    unfold Ledger.replay
    rw [verified]
    refine (answers_authorizedMandate endures _).bind ?_
    rintro _ ⟨later, footed, rfl⟩
    obtain ⟨event, listed, -, -, stored, snapshot, key, body, same, signed⟩ := footed.recorded
    have kept := authorizedMandate_again (Lifecycle.run footed.run) footed.unpruned listed body
    rw [show later.inner.authorizedMandate (ContextId.derive app.externals.sha256 mandate.id
      (cart.hash app.externals.sha256) requestKey) = some stored from kept]
    simp only [same, signed, Bool.not_true, Bool.false_eq_true, if_false, ne_eq, not_true]
    exact answers_pure carries.symm
  refine called.ask.bind ?_
  rintro _ rfl
  exact answers_pure rfl

/-- What an answer rests on lasts, and the work that finds it gives the answer again. -/
theorem Rests.again {world : World MockProof Finality} {work : Handler Body} {body : Body}
    (rests : Rests app (fun proof verified => SandboxRail.verifyProof proof = .ok verified) world
      work body)
    (run : Traced.Reachable app.externals world.traced)
    (unpruned : world.inner.events = world.history) :
    ∃ ctx Stands, Footed app.externals ctx Stands world ∧
      ∀ t : Rid, Again app t ctx Stands work body := by
  cases rests with
  | @authorized mandate cart requestKey token verified rests =>
      obtain ⟨event, listed, same⟩ := rests
      have among : event ∈ changes (attempt app.externals mandate cart requestKey)
          world.history := by
        obtain ⟨own, -, _, _, _, opened, -⟩ := same
        exact mem_changes.mpr ⟨listed, own, by rw [opened]; rfl⟩
      exact ⟨_, _, ⟨run, unpruned, event, among, same⟩, fun _ => authorizeWork_again verified⟩
  | paid rail earned checked same =>
      exact ⟨_, _, ⟨run, unpruned, earned⟩, fun _ => paymentWork_again rail checked same⟩
  | settled earned => exact ⟨_, _, ⟨run, unpruned, earned⟩, fun _ => settled_again_work⟩
  | settlementFailed earned => exact ⟨_, _, ⟨run, unpruned, earned⟩, fun _ => failed_again_work⟩
  | compensated earned => exact ⟨_, _, ⟨run, unpruned, earned⟩, fun _ => compensationWork_again⟩
  | delivered earned => exact ⟨_, _, ⟨run, unpruned, earned⟩, fun _ => deliveryWork_again⟩
  | expired earned => exact ⟨_, _, ⟨run, unpruned, earned⟩, fun _ => expiryWork_again⟩

end Again

section Retries

variable {Rid : Type} [DecidableEq Rid] {app : App} {capacity : Nat}
  {service later : Service Rid}

/-- What the rail says of a proof, it says at any time. -/
def Honest : Exchange (Op MockProof Finality) Op.Answer → Prop
  | ⟨.verifyProof _ proof _, answer⟩ => answer = SandboxRail.verifyProof proof
  | _ => True

theorem honest_of_exec {externals : Externals} {rail : SandboxRail} {before after : Station}
    {op : Op MockProof Finality} {answer : op.Answer}
    (executed : before.Exec externals rail op answer after) : Honest ⟨op, answer⟩ := by
  cases op with
  | verifyProof id proof expected => exact executed.speaks.1
  | _ => trivial

omit [DecidableEq Rid] in
theorem observes_honest {externals : Externals} {rail : SandboxRail} {t : Rid} {α : Type}
    (program : Program (Op MockProof Finality) Op.Answer α) (station : Station) :
    program.Observes (semantics Rid externals rail) (lasting Rid fun _ => True) t
      (fun seen _ _ => ∀ exchange ∈ seen, Honest exchange) station := by
  induction program generalizing station with
  | done value => exact List.forall_mem_nil _
  | call op next ih =>
      rw [Program.observes_call]
      intro before _ _ answer after executed
      refine ⟨⟨trivial, fun _ _ => trivial⟩, (ih answer after).mono ?_⟩
      intro seen value last honest
      exact List.forall_mem_cons.mpr ⟨honest_of_exec executed, honest⟩

theorem App.Reachable.honest (reached : app.Reachable capacity service) {rid : Rid} {task : Task}
    (returned : service.Returned rid task) {proof : MockProof} {verified : VerifiedProof}
    (told : ToldOf task.exchanges proof verified) :
    SandboxRail.verifyProof proof = .ok verified := by
  have governed : Service.Governed app (lasting Rid fun _ => True)
      (fun _ task _ => ∀ exchange ∈ task.exchanges, Honest exchange) := by
    refine ⟨fun _ _ => trivial, fun _ _ _ _ _ _ honest => honest, ?_⟩
    intro http work admitted rid station _
    rw [Serve.task, Program.keeps_map]
    exact observes_honest work.run station
  obtain ⟨id, expected, listed⟩ := told
  have honest := (reached.keeps governed trivial).returned returned _ listed
  exact Eq.symm honest

/-- An answer that reports a step rests on it in every later state. -/
theorem App.Reachable.rests (reached : app.Reachable capacity service) {rid : Rid} {task : Task}
    {body : Body} (returned : service.Returned rid task) (granted : task.outcome = .ok body)
    (step : body.isStep = true) :
    ∃ work, app.admit task.http = .ok work ∧
      Rests app (fun proof verified => SandboxRail.verifyProof proof = .ok verified)
        service.tasks.shared.world work body := by
  have kept := App.Reachable.assured
    (fun task world => ∃ work, app.admit task.http = .ok work ∧
      ∀ body, task.outcome = .ok body → body.isStep = true →
        Rests app (ToldOf task.exchanges) world work body) ?_ ?_ reached
  · obtain ⟨work, admitted, rests⟩ := kept.returned returned
    exact ⟨work, admitted, (rests body granted step).mono fun _ _ => reached.honest returned⟩
  · rintro task before after grown ⟨work, admitted, rests⟩
    exact ⟨work, admitted, fun body granted step => (rests body granted step).later grown.grown⟩
  · intro http work admitted t world
    exact (App.admit_works admitted).founds.mono fun _ _ _ rests => ⟨work, admitted, rests⟩

theorem App.Reachable.admitted (reached : app.Reachable capacity service) {rid : Rid} {task : Task}
    (returned : service.Returned rid task) : ∃ work, app.admit task.http = .ok work := by
  have kept := App.Reachable.assured (fun task _ => ∃ work, app.admit task.http = .ok work)
    (fun _ _ _ _ admitted => admitted)
    (fun http work admitted t world => (observes_any work.run).mono fun _ _ _ _ => ⟨work, admitted⟩)
    reached
  exact kept.returned returned

theorem App.Reachable.unpruned (reached : app.Reachable capacity service) :
    Traced.Reachable app.externals service.tasks.shared.world.traced ∧
      service.tasks.shared.world.inner.events = service.tasks.shared.world.history := by
  have run := reachable_world reached.tasks
  exact ⟨reachable_traced (reachable_of_unpruned run), (steps_unpruned (steps_of_reachable run)).2 rfl⟩

/-- A request that arrives while something lasts is answered as its work answers while it
lasts. -/
theorem App.Reachable.answers_later (reached : app.Reachable capacity service)
    {Lasts : World MockProof Finality → Prop} (endures : Endures app.externals Lasts)
    (lasts : Lasts service.tasks.shared.world) {work : Handler Body} {Good : Body → Prop}
    {again : Rid} {retry : Task} (admitted : app.admit retry.http = .ok work)
    (answers : ∀ t : Rid, Answers app.externals app.rail Lasts t work Good)
    (fresh : service.requests again = .absent)
    (steps : Relation.ReflTransGen (Service.Step app) service later)
    (returned : later.Returned again retry) :
    (∃ body, retry.outcome = .ok body ∧ Good body) ∧
      ∀ exchange ∈ retry.exchanges, Silent app.externals exchange := by
  have governed : Service.Governed app (lasting Rid Lasts)
      (fun rid task _ => service.requests rid = .absent → task.http = retry.http →
        (∃ body, task.outcome = .ok body ∧ Good body) ∧
          ∀ exchange ∈ task.exchanges, Silent app.externals exchange) := by
    refine ⟨fun _ _ => trivial, fun _ _ _ _ _ _ alike => alike, ?_⟩
    intro http other accepted rid station _
    rw [Serve.task, Program.keeps_map]
    by_cases repeated : http = retry.http
    · subst repeated
      cases admitted.symm.trans accepted
      exact Program.Keeps.mono (answers rid station) fun _ _ answered _ _ => answered
    · exact (keeps_lasting endures other.run.observe station).mono
        fun _ _ _ _ repeats => absurd repeats repeated
  have kept : service.Kept app (lasting Rid Lasts)
      (fun rid task _ => service.requests rid = .absent → task.http = retry.http →
        (∃ body, task.outcome = .ok body ∧ Good body) ∧
          ∀ exchange ∈ task.exchanges, Silent app.externals exchange) := by
    obtain ⟨running, accounts⟩ := reached.accounts
    refine ⟨⟨lasts, fun _ _ => trivial, ?_⟩, ?_⟩
    · intro rid program runs
      refine (keeps_lasting endures program _).mono fun _ _ _ absent => ?_
      rw [accounts.idle absent] at runs
      cases runs
    · intro rid task finished absent
      rw [absent] at finished
      cases finished
  exact (App.Reachable.keeps_on governed reached kept steps).returned returned fresh rfl

/-- Whoever sends a request again after its work has returned a step of the lifecycle gets the
same answer, whatever else the service does meanwhile, and the store is not written to. -/
theorem retries_answer_alike (reached : app.Reachable capacity service) {first again : Rid}
    {task retry : Task} {body : Body} (returned : service.Returned first task)
    (granted : task.outcome = .ok body) (step : body.isStep = true)
    (fresh : service.requests again = .absent)
    (steps : Relation.ReflTransGen (Service.Step app) service later)
    (retried : later.Returned again retry) (same : retry.http = task.http) :
    retry.outcome = .ok body ∧
      ∀ exchange ∈ retry.exchanges, ∀ before after : World MockProof Finality,
        before.Exec app.externals exchange.1 exchange.2 after → after.inner = before.inner := by
  obtain ⟨work, admitted, rests⟩ := reached.rests returned granted step
  obtain ⟨run, unpruned⟩ := reached.unpruned
  obtain ⟨ctx, Stands, footed, answers⟩ := rests.again run unpruned
  rw [← same] at admitted
  obtain ⟨⟨_, answered, rfl⟩, silent⟩ := reached.answers_later (footed_endures _ ctx Stands) footed
    admitted answers fresh steps retried
  exact ⟨answered, silent⟩

end Retries

theorem retries_answer_alike_settled :
    ∃ task retry body, (Sample.app.served 4096 Sample.purchase).Returned 2 task ∧
      (Sample.app.served 4096 (Sample.settle 20 (some 3) :: Sample.purchase)).Returned 3 retry ∧
      task.outcome = .ok body ∧ body.isStep = true ∧ retry.outcome = .ok body ∧
      ∀ exchange ∈ retry.exchanges, ∀ before after : World MockProof Finality,
        before.Exec Sample.app.externals exchange.1 exchange.2 after →
        after.inner = before.inner := by
  have settled : ((Sample.app.served 4096 Sample.purchase).requests 2).task?.any
      (fun task => task.outcome.toOption.any Body.isStep) = true := by decide +kernel
  have returned : ((Sample.app.served 4096
      (Sample.settle 20 (some 3) :: Sample.purchase)).requests 3).task?.isSome = true := by
    decide +kernel
  obtain ⟨task, answered, step⟩ := (Option.any_eq_true _ _).mp settled
  obtain ⟨retry, reanswered⟩ := Option.isSome_iff_exists.mp returned
  cases outcome : task.outcome with
  | error error => simp [outcome, Except.toOption] at step
  | ok body =>
      have step : body.isStep = true := by simpa [outcome, Except.toOption] using step
      have finished := Phase.eq_finished answered
      have refinished := Phase.eq_finished reanswered
      have reached : Sample.app.Reachable 4096 (Sample.app.served 4096 Sample.purchase) :=
        App.served_reachable _
      have alike := retries_answer_alike reached (.inr finished) outcome step
        (Sample.app.served_absent Sample.purchase le_rfl)
        (reached.serve_steps (Sample.app.served_absent Sample.purchase le_rfl) _) (.inr refinished)
        ((Service.serve_http refinished).trans (Service.serve_http finished).symm)
      exact ⟨task, retry, body, .inr finished, .inr refinished, outcome, step, alike⟩

end MandateLedger.Serve
