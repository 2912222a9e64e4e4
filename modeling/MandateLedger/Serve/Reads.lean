import MandateLedger.Memory.Chains
import MandateLedger.Memory.Succession
import MandateLedger.Serve.Outcomes
import MandateLedger.Serve.Retries

namespace MandateLedger.Serve

open MandateLedger.Core MandateLedger.Data MandateLedger.Memory MandateLedger.Process
  MandateLedger.Engine MandateLedger.Adapters

/-- The context an answer is about, unless it says nothing of one that lasts. -/
def Body.ctx? : Body → Option String
  | .authorized response => some response.ctx
  | .paid response => some response.ctx
  | .settlement response => if response.state = .pending then none else some response.ctx
  | .compensated ctx _ => some ctx
  | .delivered response => some response.ctx
  | .expired ctx _ => some ctx
  | .context response => some response.ctx
  | .evidence bundle => some bundle.ctx.val
  | .signedEvidence signed => some signed.bundle.ctx.val
  | .revoked .. => none

/-- The bundle that was exported. -/
def Body.bundle? : Body → Option EvidenceBundle
  | .evidence bundle => some bundle
  | .signedEvidence signed => some signed.bundle
  | _ => none

/-- The events of a context, as its chain holds them. -/
def ofContext (ctx : ContextId) (events : List Event) : List Event :=
  events.filter fun event => event.ctx = ctx

/-- The events show that the answer about the context was right. -/
inductive Attests (events : List Event) (ctx : ContextId) : Body → Prop where
  | authorized {token : Authorized}
      (earned : ∃ event ∈ changes ctx events, authorizedToken event = some token) :
      Attests events ctx (.authorized (.ofToken token))
  | paid {token : Paid} (earned : ∃ event ∈ changes ctx events, paidToken event = some token) :
      Attests events ctx (.paid (.ofToken token))
  | settled {token : Settled}
      (earned : ∃ event ∈ changes ctx events, settledToken event = some token) :
      Attests events ctx (.settlement (.ofSettlement ctx (.settled token)))
  | settlementFailed {token : SettlementFailed}
      (earned : ∃ event ∈ changes ctx events, failedToken event = some token) :
      Attests events ctx (.settlement (.ofSettlement ctx (.failed token)))
  | compensated {token : Compensated}
      (earned : ∃ event ∈ changes ctx events, compensatedToken event = some token) :
      Attests events ctx (.compensated token.ctx.val .compensated)
  | delivered {token : Delivered}
      (earned : ∃ event ∈ changes ctx events, deliveredToken event = some token) :
      Attests events ctx (.delivered (.ofToken token))
  | expired (earned : ∃ event ∈ changes ctx events, event.body = .expired) :
      Attests events ctx (.expired ctx.val .expired)
  | context {record : Record} {beginning : List Event} (earlier : beginning <+: events)
      (folds : replayRecord (changes ctx beginning) = some record) :
      Attests events ctx (.context (.ofRecord record))
  | exported {body : Body} {bundle : EvidenceBundle} (exports : body.bundle? = some bundle)
      (own : bundle.ctx = ctx) (filled : bundle.events ≠ [])
      (among : bundle.events <+: ofContext ctx events) :
      Attests events ctx body

section Attests

variable {events : List Event} {ctx : ContextId} {body : Body}

theorem changes_ofContext (ctx : ContextId) (events : List Event) :
    changes ctx (ofContext ctx events) = changes ctx events := by
  unfold changes ofContext
  rw [List.filter_filter]
  apply List.filter_congr
  rintro event -
  by_cases own : event.ctx = ctx <;> simp [own]

theorem ofContext_ofContext (ctx : ContextId) (events : List Event) :
    ofContext ctx (ofContext ctx events) = ofContext ctx events := by
  unfold ofContext
  rw [List.filter_filter]
  simp

/-- The chain of the context attests as much as the whole log. -/
theorem Attests.chain (attests : Attests events ctx body) :
    Attests (ofContext ctx events) ctx body := by
  have kept := changes_ofContext ctx events
  cases attests with
  | authorized earned => exact .authorized (kept ▸ earned)
  | paid earned => exact .paid (kept ▸ earned)
  | settled earned => exact .settled (kept ▸ earned)
  | settlementFailed earned => exact .settlementFailed (kept ▸ earned)
  | compensated earned => exact .compensated (kept ▸ earned)
  | delivered earned => exact .delivered (kept ▸ earned)
  | expired earned => exact .expired (kept ▸ earned)
  | @context record beginning earlier folds =>
      rw [← changes_ofContext] at folds
      exact .context (earlier.filter _) folds
  | exported exports own filled among =>
      exact .exported exports own filled ((ofContext_ofContext ctx events).symm ▸ among)

/-- What is attested once stays attested. -/
theorem Attests.later {more : List Event} (grown : events <+: more)
    (attests : Attests events ctx body) : Attests more ctx body := by
  have kept : ∀ {Stands : Event → Prop}, (∃ event ∈ changes ctx events, Stands event) →
      ∃ event ∈ changes ctx more, Stands event := by
    rintro Stands ⟨event, listed, stands⟩
    exact ⟨event, changes_subset grown ctx listed, stands⟩
  cases attests with
  | authorized earned => exact .authorized (kept earned)
  | paid earned => exact .paid (kept earned)
  | settled earned => exact .settled (kept earned)
  | settlementFailed earned => exact .settlementFailed (kept earned)
  | compensated earned => exact .compensated (kept earned)
  | delivered earned => exact .delivered (kept earned)
  | expired earned => exact .expired (kept earned)
  | context earlier folds => exact .context (earlier.trans grown) folds
  | exported exports own filled among =>
      exact .exported exports own filled (among.trans (grown.filter _))

theorem ctx_of_token {α : Type} {token : Event → Option α} {value : α} (name : α → ContextId)
    (earned : ∃ event ∈ changes ctx events, token event = some value)
    (own : ∀ event, token event = some value → name value = event.ctx) : name value = ctx := by
  obtain ⟨event, listed, holds⟩ := earned
  exact (own event holds).trans (mem_changes.mp listed).2.1

theorem compensatedToken_ctx {event : Event} {token : Compensated}
    (holds : compensatedToken event = some token) : token.ctx = event.ctx := by
  cases body : event.body with
  | compensated reference =>
      simp only [compensatedToken, body, Option.some.injEq] at holds
      rw [← holds]
  | _ => simp [compensatedToken, body] at holds

theorem deliveredToken_ctx {event : Event} {token : Delivered}
    (holds : deliveredToken event = some token) : token.ctx = event.ctx := by
  cases body : event.body with
  | delivered receipt =>
      simp only [deliveredToken, body, Option.some.injEq] at holds
      rw [← holds]
  | _ => simp [deliveredToken, body] at holds

/-- The answer names the context. -/
theorem Attests.ctx?_eq (attests : Attests events ctx body) : body.ctx? = some ctx.val := by
  cases attests with
  | authorized earned =>
      rw [← ctx_of_token Authorized.ctx earned]
      · rfl
      · intro event holds
        obtain ⟨_, _, _, -, rfl⟩ := authorizedToken_eq_some.mp holds
        rfl
  | paid earned =>
      rw [← ctx_of_token Paid.ctx earned]
      · rfl
      · intro event holds
        obtain ⟨_, _, _, _, _, -, rfl⟩ := paidToken_eq_some.mp holds
        rfl
  | settled | settlementFailed | expired => rfl
  | compensated earned =>
      rw [← ctx_of_token Compensated.ctx earned fun _ => compensatedToken_ctx]
      rfl
  | delivered earned =>
      rw [← ctx_of_token Delivered.ctx earned fun _ => deliveredToken_ctx]
      rfl
  | @context record beginning earlier folds =>
      rw [← ctx_of_token Authorized.ctx (replayRecord_provenance _ record folds).opened]
      · rfl
      · intro event holds
        obtain ⟨_, _, _, -, same⟩ := authorizedToken_eq_some.mp holds
        rw [same]
  | @exported _ bundle exports own filled among =>
      rw [← own]
      cases body with
      | evidence | signedEvidence =>
          cases exports
          rfl
      | _ => cases exports

/-- An answer that rests on a step is attested by its event. -/
theorem Rests.attests {app : App} {Verified : MockProof → VerifiedProof → Prop}
    {world : World MockProof Finality} {work : Handler Body}
    (rests : Rests app Verified world work body) : ∃ ctx, Attests world.history ctx body := by
  cases rests with
  | authorized verified rests =>
      obtain ⟨event, past, own, stands, _, _, _, opened, -⟩ := rests
      exact ⟨_, .authorized ⟨event, mem_changes.mpr ⟨past, own, by rw [opened]; rfl⟩, stands⟩⟩
  | paid rail earned checked same => exact ⟨_, .paid earned⟩
  | settled earned => exact ⟨_, .settled earned⟩
  | settlementFailed earned => exact ⟨_, .settlementFailed earned⟩
  | compensated earned => exact ⟨_, .compensated earned⟩
  | delivered earned => exact ⟨_, .delivered earned⟩
  | expired earned => exact ⟨_, .expired earned⟩

end Attests

section Reports

variable {Rid : Type} {app : App} {t : Rid} {station : Station}

/-- The log is never pruned, and what it holds stays. -/
def recording (Rid : Type) (externals : Externals) : Discipline Rid Station where
  Inv station := Traced.Reachable externals station.world.traced ∧
    station.world.inner.events = station.world.history
  Rely _ before after := before.world.acts <+: after.world.acts
  Idle _ _ := True
  refl _ _ := List.prefix_refl _
  trans first second := first.trans second
  idle_stable _ _ := trivial

theorem Station.Exec.recording {externals : Externals} {rail : SandboxRail} {before after : Station}
    {op : Op MockProof Finality} {answer : op.Answer}
    (executed : before.Exec externals rail op answer after)
    (holds : (recording Rid externals).Inv before) :
    (Serve.recording Rid externals).Permits t before after :=
  ⟨⟨executed.world.traced holds.1, executed.world.unpruned holds.2⟩,
    fun _ _ => executed.world.grows⟩

theorem observes_recording {externals : Externals} {rail : SandboxRail} {α : Type}
    (program : Program (Op MockProof Finality) Op.Answer α) :
    program.Observes (semantics Rid externals rail) (recording Rid externals) t
      (fun _ _ _ => True) station := by
  induction program generalizing station with
  | done value => trivial
  | call op next ih =>
      rw [Program.observes_call]
      intro before _ holds answer after executed
      exact ⟨executed.recording holds, ih answer⟩

/-- An answer with something read is attested when it is given. -/
abbrev Recounts (app : App) (t : Rid) (work : Handler Body) (station : Station) : Prop :=
  work.run.Observes (semantics Rid app.externals app.rail) (recording Rid app.externals) t
    (fun _ outcome after => ∀ body, outcome = .ok body → body.isReport = true →
      ∃ ctx, Attests after.world.history ctx body) station

/-- What a call returns, and where it leaves the store. -/
abbrev Recalls {α : Type} (app : App) (t : Rid) (call : Call MockProof Finality α)
    (Good : α → Station → Prop) (station : Station) : Prop :=
  call.run.Observes (semantics Rid app.externals app.rail) (recording Rid app.externals) t
    (fun _ => Ends Good fun _ _ => True) station

theorem recalls_record (ctx : ContextId) :
    Recalls app t (Ledger.record ctx)
      (fun found after => found = replayRecord (changes ctx after.world.history)) station := by
  refine (Program.observes_call _ _).mpr ?_
  intro before _ holds answer after executed
  refine ⟨executed.recording holds, ?_⟩
  obtain ⟨rfl, same⟩ := executed.world
  have folded := ((Lifecycle.run holds.1).contexts ctx).folded
  change before.world.inner.records.lookup ctx = replayRecord (changes ctx before.world.history)
    at folded
  rw [← same] at folded
  exact same ▸ folded

theorem recalls_events {α : Type} {ctx : ContextId} {Good : α → Station → Prop}
    {rest : List Event → Call MockProof Finality α}
    (continues : ∀ after, Recalls app t (rest (ofContext ctx after.world.history)) Good after) :
    Recalls app t (Ledger.events ctx >>= rest) Good station := by
  refine (Program.observes_call _ _).mpr ?_
  intro before _ holds answer after executed
  refine ⟨executed.recording holds, ?_⟩
  obtain ⟨rfl, same⟩ := executed.world
  have chained : before.world.inner.chain ctx = ofContext ctx after.world.history := by
    have indexed := Inner.chain_eq (Lifecycle.run holds.1).indexed ctx
    change before.world.inner.chain ctx = before.world.inner.events.filter _ at indexed
    rw [indexed, same, holds.2]
    rfl
  have continued := continues after
  rw [← chained] at continued
  exact continued

theorem recalls_evidence (ctx : ContextId) :
    Recalls app t (Ledger.evidence ctx)
      (fun found after => ∀ bundle, found = some bundle →
        bundle.ctx = ctx ∧ bundle.events ≠ [] ∧
          bundle.events <+: ofContext ctx after.world.history) station := by
  refine recalls_events fun read => ?_
  split
  · intro bundle absent
    cases absent
  · next filled =>
    refine (Program.observes_call _ _).mpr ?_
    intro before grown holds now after executed
    refine ⟨executed.recording holds, ?_⟩
    rintro _ ⟨rfl⟩
    have later : read.world.history <+: after.world.history :=
      World.history_grows (grown.trans executed.world.grows)
    exact ⟨rfl, filled, later.filter _⟩

theorem recounts_ask {α : Type} {call : Call MockProof Finality α} {rest : α → Handler Body}
    {Good : α → Station → Prop} (called : Recalls app t call Good station)
    (continues : ∀ value after, Good value after → Recounts app t (rest value) after) :
    Recounts app t (ask call >>= rest) station := by
  unfold Recounts
  rw [ask_bind_run, Program.observes_bind]
  refine called.mono ?_
  intro seen result after ends
  cases result with
  | ok value => exact continues value after ends
  | error error =>
      intro body failed
      cases failed

theorem recounts_throw (error : ApiError) : Recounts app t (throw error) station := by
  intro body failed
  cases failed

theorem statusWork_recounts (ctx : ContextId) : Recounts app t (statusWork ctx) station := by
  refine recounts_ask (recalls_record ctx) fun found after folds => ?_
  cases found with
  | none => exact recounts_throw _
  | some record =>
      rintro _ ⟨rfl⟩ -
      exact ⟨ctx, .context (List.prefix_refl _) folds.symm⟩

theorem evidenceWork_recounts (ctx : ContextId) :
    Recounts app t (evidenceWork app ctx) station := by
  refine recounts_ask (recalls_evidence ctx) fun found after exported => ?_
  cases found with
  | none => exact recounts_throw _
  | some bundle =>
      obtain ⟨own, filled, among⟩ := exported bundle rfl
      dsimp only
      split
      · rintro _ ⟨rfl⟩ -
        exact ⟨ctx, .exported rfl own filled among⟩
      · split
        · next signed signs =>
            rintro _ ⟨rfl⟩ -
            obtain ⟨bytes, -, returned⟩ := bind_eq_ok.mp signs
            cases pure_eq_ok.mp returned
            exact ⟨ctx, .exported rfl own filled among⟩
        · exact recounts_throw _

theorem App.Works.recounts {work : Handler Body} (works : app.Works work) :
    Recounts app t work station := by
  by_cases reads : app.Reads work
  · obtain ⟨ctx, rfl⟩ | ⟨ctx, rfl⟩ := reads
    · exact statusWork_recounts ctx
    · exact evidenceWork_recounts ctx
  · refine ((observes_recording work.run).yields works.yields).mono ?_
    rintro seen outcome after ⟨fits, -⟩ body returned report
    exact absurd (fits.2 body returned report) reads

end Reports

section Readers

variable {Rid : Type} [DecidableEq Rid] {app : App} {capacity : Nat} {service later : Service Rid}

/-- What the service has answered about a context, the log attests. -/
theorem App.Reachable.attests (reached : app.Reachable capacity service) {rid : Rid} {task : Task}
    {body : Body} (returned : service.Returned rid task) (granted : task.outcome = .ok body)
    (about : body.ctx?.isSome = true) :
    ∃ ctx, Attests service.tasks.shared.world.history ctx body := by
  have kept : service.Kept app (recording Rid app.externals)
      (fun _ task station => ∀ body, task.outcome = .ok body → body.isReport = true →
        ∃ ctx, Attests station.world.history ctx body) := by
    refine App.Reachable.keeps ⟨fun _ _ => trivial, ?_, ?_⟩ ⟨.refl, rfl⟩ reached
    · intro rid task before after grown _ attested body returned report
      obtain ⟨ctx, attests⟩ := attested body returned report
      exact ⟨ctx, attests.later (World.history_grows grown)⟩
    · intro http work admitted rid station _
      rw [Serve.task, Program.keeps_map]
      exact (App.admit_works admitted).recounts
  by_cases step : body.isStep = true
  · obtain ⟨work, -, rests⟩ := reached.rests returned granted step
    exact rests.attests
  · refine kept.returned returned body granted ?_
    cases body with
    | settlement response => simp_all [Body.isStep, Body.ctx?]
    | revoked => simp [Body.ctx?] at about
    | context | evidence | signedEvidence => rfl
    | _ => exact absurd rfl step

end Readers

/-- The record says what the answer said. -/
def Shows (record : Record) : Body → Prop
  | .authorized response => response = .ofToken (Ledger.authorizedFrom record)
  | .paid response => record.state ∈ past .paid ∧
      ∃ token, Ledger.paidFrom record = .ok token ∧ response = .ofToken token
  | .settlement response =>
      (record.state ∈ past .settled ∧ ∃ token, Ledger.settledFrom record = .ok token ∧
        response = .ofSettlement record.ctx (.settled token)) ∨
      (record.state ∈ past .settlementFailed ∧ ∃ token, Ledger.failedFrom record = .ok token ∧
        response = .ofSettlement record.ctx (.failed token))
  | .compensated ctx state =>
      ctx = record.ctx.val ∧ state = .compensated ∧ record.state = .compensated
  | .delivered response => record.state = .delivered ∧
      ∃ token, Ledger.deliveredFrom record = .ok token ∧ response = .ofToken token
  | .expired ctx state => ctx = record.ctx.val ∧ state = .expired ∧ record.state = .expired
  | .context response => ∃ earlier, response = .ofRecord earlier ∧ Precedes earlier record
  | .revoked .. | .evidence _ | .signedEvidence _ => False

theorem paidToken_moves {token : Paid} (event : Event) (holds : paidToken event = some token) :
    event.body.resultingState = some .paid := by
  obtain ⟨_, _, _, _, _, body, -⟩ := paidToken_eq_some.mp holds
  rw [body]
  rfl

theorem Attests.shows {traced : Traced} (lifecycle : Lifecycle traced) {ctx : ContextId}
    {body : Body} (attests : Attests traced.history ctx body) (bare : body.bundle? = none) :
    ∃ record, traced.inner.records.lookup ctx = some record ∧ Shows record body := by
  cases attests with
  | authorized earned =>
      obtain ⟨event, listed, holds⟩ := earned
      obtain ⟨_, _, _, body, -⟩ := authorizedToken_eq_some.mp holds
      obtain ⟨record, found, -, carries, -⟩ := lifecycle.passed listed (by rw [body]; rfl)
      rw [Carries, body, holds, Option.some.injEq] at carries
      exact ⟨record, found, by rw [carries]; rfl⟩
  | paid earned =>
      obtain ⟨record, found, -, there, reads⟩ := lifecycle.reads_back earned paidToken_moves
        fun _ _ => Carries.paidFrom
      exact ⟨record, found, there, _, reads, rfl⟩
  | settled earned =>
      obtain ⟨record, found, rfl, there, reads⟩ := lifecycle.reads_back earned
        (fun _ => settledToken_moves) fun _ _ => Carries.settledFrom
      exact ⟨record, found, .inl ⟨there, _, reads, rfl⟩⟩
  | settlementFailed earned =>
      obtain ⟨record, found, rfl, there, reads⟩ := lifecycle.reads_back earned
        (fun _ => failedToken_moves) fun _ _ => Carries.failedFrom
      exact ⟨record, found, .inr ⟨there, _, reads, rfl⟩⟩
  | compensated earned =>
      have own := ctx_of_token Compensated.ctx earned fun _ => compensatedToken_ctx
      obtain ⟨event, listed, holds⟩ := earned
      obtain ⟨record, found, there, -⟩ := lifecycle.passed listed (compensatedToken_moves holds)
      exact ⟨record, found, by rw [own, lifecycle.record_ctx found], rfl,
        List.mem_singleton.mp there⟩
  | delivered earned =>
      obtain ⟨record, found, -, there, reads⟩ := lifecycle.reads_back earned
        (fun _ => deliveredToken_moves) fun _ _ => Carries.deliveredFrom
      exact ⟨record, found, List.mem_singleton.mp there, _, reads, rfl⟩
  | expired earned =>
      obtain ⟨event, listed, expired⟩ := earned
      obtain ⟨record, found, there, -⟩ := lifecycle.passed listed (by rw [expired]; rfl)
      exact ⟨record, found, by rw [lifecycle.record_ctx found], rfl, List.mem_singleton.mp there⟩
  | context earlier folds =>
      obtain ⟨newer, newest, precedes⟩ := lifecycle.succeeds earlier folds
      exact ⟨newer, newest, _, rfl, precedes⟩
  | exported exports own filled among => simp [bare] at exports

/-- The state that the status gives comes after the step. -/
def ContextResponse.HasPassed (response : ContextResponse) (step : PaymentState) : Prop :=
  ∃ state ∈ past step, response.state = .ofPayment state

/-- The status says what the answer said. -/
def ContextResponse.Confirms (response : ContextResponse) : Body → Prop
  | .authorized granted =>
      response.ctx = granted.ctx ∧ response.mandate = granted.mandate ∧
        response.merchant = granted.merchant ∧ response.amount = granted.amount ∧
        response.cartHash = granted.cartHash
  | .paid granted =>
      response.HasPassed .paid ∧ response.ctx = granted.ctx ∧ response.rail = some granted.rail ∧
        response.paymentReference = some granted.reference ∧
        response.idempotencyKey = some granted.idempotencyKey
  | .settlement granted => response.ctx = granted.ctx ∧
      (granted.state = .settled ∧ response.HasPassed .settled ∧
          response.settlementReference = granted.reference ∨
        granted.state = .settlementFailed ∧ response.HasPassed .settlementFailed ∧
          response.failureReason = granted.reason)
  | .compensated ctx _ => response.ctx = ctx ∧ response.state = .compensated
  | .delivered granted =>
      response.ctx = granted.ctx ∧ response.state = .delivered ∧
        response.receiptReference = some granted.receipt
  | .expired ctx _ => response.ctx = ctx ∧ response.state = .expired
  | .context earlier =>
      (response.ctx = earlier.ctx ∧ response.mandate = earlier.mandate ∧
        response.merchant = earlier.merchant ∧ response.amount = earlier.amount ∧
        response.cartHash = earlier.cartHash) ∧
      (∃ step, earlier.state = .ofPayment step ∧ response.HasPassed step) ∧
      (∀ rail ∈ earlier.rail, response.rail = some rail) ∧
      (∀ reference ∈ earlier.paymentReference, response.paymentReference = some reference) ∧
      (∀ key ∈ earlier.idempotencyKey, response.idempotencyKey = some key) ∧
      (∀ reference ∈ earlier.settlementReference, response.settlementReference = some reference) ∧
      (∀ reason ∈ earlier.failureReason, response.failureReason = some reason) ∧
      ∀ reference ∈ earlier.receiptReference, response.receiptReference = some reference
  | .revoked .. | .evidence _ | .signedEvidence _ => False

theorem present_eq_ok {α : Type} {found : Option α} {message : String} {value : α}
    (read : Ledger.present found message = .ok value) : found = some value := by
  cases found with
  | none => cases read
  | some other =>
      cases read
      rfl

theorem Shows.confirms {record : Record} {body : Body} (shows : Shows record body) :
    (ContextResponse.ofRecord record).Confirms body := by
  cases body with
  | authorized granted =>
      cases shows
      exact ⟨rfl, rfl, rfl, rfl, rfl⟩
  | paid granted =>
      obtain ⟨there, token, read, rfl⟩ := shows
      obtain ⟨rail, railed, read⟩ := bind_eq_ok.mp read
      obtain ⟨reference, referenced, read⟩ := bind_eq_ok.mp read
      obtain ⟨key, keyed, read⟩ := bind_eq_ok.mp read
      cases pure_eq_ok.mp read
      exact ⟨⟨_, there, rfl⟩, rfl, present_eq_ok railed, present_eq_ok referenced,
        congrArg (Option.map Hash32.toString) (present_eq_ok keyed)⟩
  | settlement granted =>
      obtain ⟨there, token, read, rfl⟩ | ⟨there, token, read, rfl⟩ := shows
      · obtain ⟨reference, referenced, read⟩ := bind_eq_ok.mp read
        cases pure_eq_ok.mp read
        exact ⟨rfl, .inl ⟨rfl, ⟨_, there, rfl⟩, present_eq_ok referenced⟩⟩
      · obtain ⟨reason, reasoned, read⟩ := bind_eq_ok.mp read
        cases pure_eq_ok.mp read
        exact ⟨rfl, .inr ⟨rfl, ⟨_, there, rfl⟩, present_eq_ok reasoned⟩⟩
  | compensated ctx state =>
      obtain ⟨rfl, -, there⟩ := shows
      exact ⟨rfl, congrArg StepState.ofPayment there⟩
  | delivered granted =>
      obtain ⟨there, token, read, rfl⟩ := shows
      obtain ⟨reference, referenced, read⟩ := bind_eq_ok.mp read
      cases pure_eq_ok.mp read
      exact ⟨rfl, congrArg StepState.ofPayment there, present_eq_ok referenced⟩
  | expired ctx state =>
      obtain ⟨rfl, -, there⟩ := shows
      exact ⟨rfl, congrArg StepState.ofPayment there⟩
  | context response =>
      obtain ⟨earlier, rfl, precedes⟩ := shows
      obtain ⟨ctx, mandate, cart, merchant, amount⟩ := Authorized.mk.inj precedes.opened
      refine ⟨⟨congrArg StringId.val ctx, congrArg StringId.val mandate,
        congrArg StringId.val merchant, congrArg MoneyBody.ofMoney amount,
        congrArg Hash32.toString cart⟩, ⟨earlier.state, rfl, _, precedes.state, rfl⟩, precedes.rail,
        precedes.paymentReference, ?_, precedes.settlementReference, precedes.failureReason,
        precedes.receiptReference⟩
      intro key keyed
      obtain ⟨hash, held, rfl⟩ := Option.map_eq_some_iff.mp keyed
      exact congrArg (Option.map Hash32.toString) (precedes.idempotencyKey hash held)
  | revoked | evidence | signedEvidence => exact shows.elim

/-- A store that was never pruned and that attests an answer. -/
structure Attested (externals : Externals) (ctx : ContextId) (body : Body)
    (world : World MockProof Finality) : Prop where
  run : Traced.Reachable externals world.traced
  unpruned : world.inner.events = world.history
  attests : Attests world.history ctx body

theorem attested_endures (externals : Externals) (ctx : ContextId) (body : Body) :
    Endures externals (Attested externals ctx body) := by
  intro before after op answer executed attested
  exact ⟨executed.traced attested.run, executed.unpruned attested.unpruned,
    attested.attests.later (World.history_grows executed.grows)⟩

theorem Endures.later {Rid : Type} [DecidableEq Rid] {app : App} {service after : Service Rid}
    {Lasts : World MockProof Finality → Prop} (endures : Endures app.externals Lasts)
    (steps : Relation.ReflTransGen (Service.Step app) service after)
    (lasts : Lasts service.tasks.shared.world) : Lasts after.tasks.shared.world := by
  induction steps with
  | refl => exact lasts
  | tail _ stepped ih =>
      cases stepped with
      | work _ op _ answer station _ executed => exact endures _ _ op answer executed.world ih
      | reject | busy | start | finish | panic | timeout | abandon => exact ih

section Routes

variable {Rid : Type} {app : App} {ctx : ContextId} {body : Body}

theorem App.admit_route {http : Http} {route : Route} {work : Handler Body}
    (admitted : app.admit http = .ok work) (asks : http.route = .ok route) :
    route.handle app = .ok work := by
  obtain ⟨-, admitted⟩ := check_bind_eq_ok.mp admitted
  rw [asks] at admitted
  exact admitted

theorem context_val (ctx : ContextId) : context ctx.val = .ok ctx := by
  rw [context, StringId.new_val]
  rfl

section Later

variable [DecidableEq Rid] {capacity : Nat} {service later : Service Rid} {first again : Rid}
  {task reader : Task} {name : String} {route : String → Route} {work : ContextId → Handler Body}

/-- Who asks for the context of an answer asks for one that the log attests the answer of. -/
theorem App.Reachable.asked_later (reached : app.Reachable capacity service)
    (returned : service.Returned first task) (granted : task.outcome = .ok body)
    (about : body.ctx? = some name) (steps : Relation.ReflTransGen (Service.Step app) service later)
    (read : later.Returned again reader) (asks : reader.http.route = .ok (route name))
    (handles : ∀ ctx, (route ctx.val).handle app = .ok (work ctx)) :
    ∃ ctx : ContextId, ctx.val = name ∧ app.admit reader.http = .ok (work ctx) ∧
      Attested app.externals ctx body service.tasks.shared.world := by
  obtain ⟨ctx, attests⟩ := reached.attests returned granted (by rw [about]; rfl)
  obtain ⟨run, unpruned⟩ := reached.unpruned
  obtain ⟨accepted, admitted⟩ := App.Reachable.admitted (reached.trans steps) read
  have named : name = ctx.val := Option.some.inj (about.symm.trans attests.ctx?_eq)
  subst named
  cases (handles ctx).symm.trans (App.admit_route admitted asks)
  exact ⟨ctx, rfl, admitted, run, unpruned, attests⟩

/-- A route that reads a context, asked after the service has answered about the context. -/
theorem App.Reachable.reads_later (reached : app.Reachable capacity service)
    (returned : service.Returned first task) (granted : task.outcome = .ok body)
    (about : body.ctx? = some name) (fresh : service.requests again = .absent)
    (steps : Relation.ReflTransGen (Service.Step app) service later)
    (read : later.Returned again reader) {Good : ContextId → Body → Prop}
    (asks : reader.http.route = .ok (route name))
    (handles : ∀ ctx, (route ctx.val).handle app = .ok (work ctx))
    (answers : ∀ (ctx : ContextId) (t : Rid), Answers app.externals app.rail
      (Attested app.externals ctx body) t (work ctx) (Good ctx)) :
    ∃ ctx answer, ctx.val = name ∧ reader.outcome = .ok answer ∧ Good ctx answer := by
  obtain ⟨ctx, named, admitted, attested⟩ :=
    reached.asked_later returned granted about steps read asks handles
  obtain ⟨⟨answer, answered, good⟩, -⟩ := reached.answers_later
    (attested_endures app.externals ctx body) attested admitted (answers ctx) fresh steps read
  exact ⟨ctx, answer, named, answered, good⟩

end Later

end Routes

section Status

variable {Rid : Type} [DecidableEq Rid] {app : App} {body : Body} {capacity : Nat}
  {service current after : Service Rid} {rid : Rid} {http : Http} {ctx : ContextId}

/-- What a status request is answered with, by what the store holds. -/
def statusOutcome : Option Record → Outcome
  | some record => .ok (.context (.ofRecord record))
  | none => .error (.notFound "no such context")

theorem task_statusWork (http : Http) (ctx : ContextId) :
    ∃ next, task http (statusWork ctx) = .call (.record ctx) next ∧
      ∀ found, ∃ exchanges, next (.ok found) = .done ⟨http, exchanges, statusOutcome found⟩ := by
  refine ⟨_, rfl, ?_⟩
  rintro (_ | record) <;> exact ⟨_, rfl⟩

/-- The task was answered with the record that the store held at a moment since `service`. -/
def HasRead (app : App) (ctx : ContextId) (service current : Service Rid) (task : Task) : Prop :=
  ∃ middle, Relation.ReflTransGen (Service.Step app) service middle ∧
    Relation.ReflTransGen (Service.Step app) middle current ∧
    task.outcome = statusOutcome (middle.tasks.shared.world.inner.records.lookup ctx)

/-- Where the work of a request stands, if it is the status request: it is about to read, or
has read. -/
def Stands (app : App) (ctx : ContextId) (http : Http) (service current : Service Rid)
    (program : Program (Op MockProof Finality) Op.Answer Task) : Prop :=
  ∃ named, program.Yields (fun task => task.http = named) ∧ (named = http →
    program = task http (statusWork ctx) ∨
      ∃ task, program = .done task ∧ HasRead app ctx service current task)

/-- What has become of a status request that was not there in `service`. -/
structure Follows (app : App) (ctx : ContextId) (rid : Rid) (http : Http)
    (service current : Service Rid) : Prop where
  passed : Relation.ReflTransGen (Service.Step app) service current
  running : ∀ program, current.tasks.threads rid = some program →
    Stands app ctx http service current program
  finished : ∀ task, current.requests rid = .finished task → task.http = http →
    HasRead app ctx service current task

theorem HasRead.step {task : Task} (read : HasRead app ctx service current task)
    (stepped : Service.Step app current after) : HasRead app ctx service after task := by
  obtain ⟨middle, earlier, later, answered⟩ := read
  exact ⟨middle, earlier, later.tail stepped, answered⟩

theorem Stands.step {program : Program (Op MockProof Finality) Op.Answer Task}
    (stands : Stands app ctx http service current program)
    (stepped : Service.Step app current after) : Stands app ctx http service after program := by
  obtain ⟨named, yields, reads⟩ := stands
  refine ⟨named, yields, fun asked => ?_⟩
  obtain begun | ⟨task, done, read⟩ := reads asked
  · exact .inl begun
  · exact .inr ⟨task, done, read.step stepped⟩

/-- A task that has returned to the status request has read. -/
theorem Stands.hasRead {task : Task} (stands : Stands app ctx http service current (.done task))
    (asked : task.http = http) : HasRead app ctx service current task := by
  obtain ⟨named, yields, reads⟩ := stands
  obtain begun | ⟨_, same, read⟩ := reads (yields.symm.trans asked)
  · obtain ⟨_, whole, -⟩ := task_statusWork http ctx
    cases begun.trans whole
  · cases same
    exact read

/-- The one operation of the work reads the record. -/
theorem Stands.work {op : Op MockProof Finality} {answer : op.Answer}
    {next : op.Answer → Program (Op MockProof Finality) Op.Answer Task} {station : Station}
    (passed : Relation.ReflTransGen (Service.Step app) service current)
    (stands : Stands app ctx http service current (.call op next))
    (executed : current.tasks.shared.Exec app.externals app.rail op answer station)
    (stepped : Service.Step app current after) :
    Stands app ctx http service after (next answer) := by
  obtain ⟨named, yields, reads⟩ := stands
  refine ⟨named, yields answer, fun asked => ?_⟩
  obtain begun | ⟨task, done, -⟩ := reads asked
  · obtain ⟨continued, whole, answers⟩ := task_statusWork http ctx
    cases begun.trans whole
    obtain ⟨rfl, -⟩ := executed.world
    obtain ⟨exchanges, done⟩ := answers (current.tasks.shared.world.inner.records.lookup ctx)
    exact .inr ⟨_, done, current, passed, .single stepped, rfl⟩
  · cases done

theorem Follows.begin (reached : app.Reachable capacity service)
    (fresh : service.requests rid = .absent) : Follows app ctx rid http service service := by
  obtain ⟨running, accounts⟩ := reached.accounts
  refine ⟨.refl, ?_, ?_⟩
  · intro program runs
    rw [accounts.idle fresh] at runs
    cases runs
  · intro task finished
    rw [fresh] at finished
    cases finished

/-- The threads are those of before, but for one. -/
theorem Follows.running_update (follows : Follows app ctx rid http service current)
    (stepped : Service.Step app current after) (other : Rid)
    (thread : Option (Program (Op MockProof Finality) Op.Answer Task))
    (own : ∀ program, rid = other → thread = some program →
      Stands app ctx http service after program)
    (program : Program (Op MockProof Finality) Op.Answer Task)
    (running : Function.update current.tasks.threads other thread rid = some program) :
    Stands app ctx http service after program := by
  by_cases same : rid = other
  · subst same
    rw [Function.update_self] at running
    exact own program rfl running
  · rw [Function.update_of_ne same] at running
    exact (follows.running program running).step stepped

theorem Follows.step (admitted : app.admit http = .ok (statusWork ctx))
    (follows : Follows app ctx rid http service current)
    (stepped : Service.Step app current after) : Follows app ctx rid http service after := by
  refine ⟨follows.passed.tail stepped, ?_, ?_⟩
  · have updated := follows.running_update stepped
    have kept := fun program running => (follows.running program running).step stepped
    cases stepped with
    | reject | busy | timeout | abandon => exact kept
    | finish other | panic other =>
        refine updated other _ ?_
        intro program _ none
        cases none
    | start other asked work left fresh accepted permit =>
        refine updated other _ ?_
        rintro program - ⟨rfl⟩
        refine ⟨asked, ?_, ?_⟩
        · rw [task, Program.yields_map]
          exact Program.yields_all (fun _ => rfl) _
        · rintro rfl
          cases admitted.symm.trans accepted
          exact .inl rfl
    | work other op next answer station running executed =>
        refine updated other _ ?_
        rintro program rfl ⟨rfl⟩
        exact (follows.running _ running).work follows.passed executed
          (.work rid op next answer station running executed)
  · intro task finished asked
    obtain before | ⟨done, -⟩ := stepped.finished finished
    · exact (follows.finished task before asked).step stepped
    · exact ((follows.running _ done).hasRead asked).step stepped

/-- A status request is answered with what the store holds at a moment between its arrival and
its answer. -/
theorem App.Reachable.status_read (reached : app.Reachable capacity service)
    (fresh : service.requests rid = .absent)
    (steps : Relation.ReflTransGen (Service.Step app) service after) {reader : Task}
    (admitted : app.admit reader.http = .ok (statusWork ctx))
    (read : after.Returned rid reader) : HasRead app ctx service after reader := by
  have follows : Follows app ctx rid reader.http service after := by
    clear read
    induction steps with
    | refl => exact .begin reached fresh
    | tail _ stepped ih => exact ih.step admitted stepped
  obtain running | finished := read
  · exact (follows.running _ running).hasRead rfl
  · exact follows.finished reader finished rfl

/-- Whatever the service has answered about a context, a status that is asked for later is a
`200` with the record that the store holds then, and says so too: the step is there, with what
the answer said of it, and of two statuses the later one takes nothing back. -/
theorem status_reads_back (reached : app.Reachable capacity service) {first : Rid}
    {task reader : Task} {name : String} (returned : service.Returned first task)
    (granted : task.outcome = .ok body) (about : body.ctx? = some name)
    (bare : body.bundle? = none) (fresh : service.requests rid = .absent)
    (steps : Relation.ReflTransGen (Service.Step app) service after)
    (read : after.Returned rid reader)
    (asks : reader.http.route = .ok (.contextStatus name)) :
    ∃ ctx : ContextId, ctx.val = name ∧ ∃ middle record,
      Relation.ReflTransGen (Service.Step app) service middle ∧
      Relation.ReflTransGen (Service.Step app) middle after ∧
      middle.tasks.shared.world.inner.records.lookup ctx = some record ∧ Shows record body ∧
      respond reader.outcome = ⟨200, false, false, .body (.context (.ofRecord record))⟩ ∧
      (ContextResponse.ofRecord record).Confirms body := by
  have handles : ∀ ctx : ContextId,
      (Route.contextStatus ctx.val).handle app = .ok (statusWork ctx) := by
    intro ctx
    rw [Route.handle, contextStatus, context_val]
    rfl
  obtain ⟨ctx, named, admitted, attested⟩ :=
    reached.asked_later returned granted about steps read asks handles
  obtain ⟨middle, earlier, later, answered⟩ := reached.status_read fresh steps admitted read
  -- by then the log attests the answer still
  have still := (attested_endures app.externals ctx body).later earlier attested
  obtain ⟨record, found, shows⟩ := still.attests.shows (Lifecycle.run still.run) bare
  have stored : middle.tasks.shared.world.inner.records.lookup ctx = some record := found
  rw [stored] at answered
  exact ⟨ctx, named, middle, record, earlier, later, stored, shows, by rw [answered]; rfl,
    shows.confirms⟩

end Status

/-- The settlement of a purchase has been answered. -/
theorem Sample.purchase_answered :
    ∃ task body, (Sample.app.served 4096 Sample.purchase).requests 2 = .finished task ∧
      task.outcome = .ok body ∧ body.ctx? = some Sample.ctx ∧ body.bundle? = none := by
  have settled : ((Sample.app.served 4096 Sample.purchase).requests 2).task?.any
      (fun task => task.outcome.toOption.any fun body =>
        body.ctx? = some Sample.ctx && body.bundle?.isNone) = true := by decide +kernel
  obtain ⟨task, answered, named⟩ := (Option.any_eq_true _ _).mp settled
  cases outcome : task.outcome with
  | error error => simp [outcome, Except.toOption] at named
  | ok body =>
      simp only [outcome, Except.toOption, Option.any_some, Bool.and_eq_true, decide_eq_true_eq,
        Option.isNone_iff_eq_none] at named
      exact ⟨task, body, Phase.eq_finished answered, outcome, named⟩

/-- A route that reads, after the purchase. -/
def Sample.reading (route : Route) : Service Nat :=
  Sample.app.served 4096 ((⟨20⟩, Sample.keyed route) :: Sample.purchase)

theorem Sample.reading_answered {route : Route}
    (answered : ((Sample.reading route).requests 3).task?.isSome = true) :
    ∃ reader, (Sample.reading route).requests 3 = .finished reader ∧
      reader.http.route = .ok route ∧
      Relation.ReflTransGen (Service.Step Sample.app) (Sample.app.served 4096 Sample.purchase)
        (Sample.reading route) := by
  obtain ⟨reader, read⟩ := Option.isSome_iff_exists.mp answered
  have finished := Phase.eq_finished read
  refine ⟨reader, finished, by rw [Service.serve_http finished]; rfl, ?_⟩
  exact App.Reachable.serve_steps (App.served_reachable _)
    (Sample.app.served_absent Sample.purchase le_rfl) _

theorem status_reads_back_settled :
    ∃ task body reader, (Sample.app.served 4096 Sample.purchase).Returned 2 task ∧
      task.outcome = .ok body ∧ body.ctx? = some Sample.ctx ∧
      (Sample.reading (.contextStatus Sample.ctx)).Returned 3 reader ∧
      ∃ ctx : ContextId, ctx.val = Sample.ctx ∧ ∃ middle record,
        Relation.ReflTransGen (Service.Step Sample.app) (Sample.app.served 4096 Sample.purchase)
          middle ∧
        Relation.ReflTransGen (Service.Step Sample.app) middle
          (Sample.reading (.contextStatus Sample.ctx)) ∧
        middle.tasks.shared.world.inner.records.lookup ctx = some record ∧ Shows record body ∧
        respond reader.outcome = ⟨200, false, false, .body (.context (.ofRecord record))⟩ ∧
        (ContextResponse.ofRecord record).Confirms body := by
  obtain ⟨task, body, finished, granted, about, bare⟩ := Sample.purchase_answered
  obtain ⟨reader, read, asks, steps⟩ :=
    Sample.reading_answered (show ((Sample.reading (.contextStatus Sample.ctx)).requests
      3).task?.isSome = true by decide +kernel)
  exact ⟨task, body, reader, .inr finished, granted, about, .inr read,
    status_reads_back (App.served_reachable _) (.inr finished) granted about bare
      (Sample.app.served_absent Sample.purchase le_rfl) steps (.inr read) asks⟩

section Evidence

variable {Rid : Type} {app : App} {body : Body} {ctx : ContextId}

/-- What a third party does with the evidence it is given. -/
def Body.Verifies (app : App) : Body → Prop
  | .evidence bundle => bundle.verify app.externals = .ok ()
  | .signedEvidence signed => signed.verify app.externals app.signing = .ok ()
  | _ => False

/-- The answer is the bundle itself, or the bundle signed with the service's key. -/
def Body.Exports (app : App) (bundle : EvidenceBundle) (answer : Body) : Prop :=
  match app.evidenceKey with
  | none => answer = .evidence bundle
  | some key => ∃ signed, bundle.sign app.signing key = .ok signed ∧
      signed.signer = app.signing.verifyingKey key ∧ answer = .signedEvidence signed

theorem changes_subset_ofContext (ctx : ContextId) (events : List Event) :
    changes ctx events ⊆ ofContext ctx events := by
  intro event listed
  obtain ⟨among, own, -⟩ := mem_changes.mp listed
  simp [ofContext, among, own]

/-- Something attests an answer. -/
theorem Attests.nonempty {events : List Event} (attests : Attests events ctx body) :
    ofContext ctx events ≠ [] := by
  have listed : ∀ {Stands : Event → Prop}, (∃ event ∈ changes ctx events, Stands event) →
      ofContext ctx events ≠ [] := by
    rintro Stands ⟨event, listed, -⟩
    exact List.ne_nil_of_mem (changes_subset_ofContext ctx events listed)
  cases attests with
  | authorized earned => exact listed earned
  | paid earned => exact listed earned
  | settled earned => exact listed earned
  | settlementFailed earned => exact listed earned
  | compensated earned => exact listed earned
  | delivered earned => exact listed earned
  | expired earned => exact listed earned
  | context earlier folds =>
      obtain ⟨event, first, holds⟩ := (replayRecord_provenance _ _ folds).opened
      exact List.ne_nil_of_mem
        (changes_subset_ofContext ctx events (changes_subset earlier ctx first))
  | exported exports own filled among =>
      intro empty
      rw [empty] at among
      exact filled (List.prefix_nil.mp among)

theorem Attested.chain_eq {externals : Externals} {world : World MockProof Finality}
    (attested : Attested externals ctx body world) :
    world.inner.chain ctx = ofContext ctx world.history := by
  have indexed := Inner.chain_eq (Lifecycle.run attested.run).indexed ctx
  rw [← attested.unpruned]
  exact indexed

theorem answers_evidence {t : Rid} :
    Answers app.externals app.rail (Attested app.externals ctx body) t
      (Ledger.evidence ctx : Call MockProof Finality (Option EvidenceBundle))
      (fun found => ∃ bundle, found = some bundle ∧ bundle.ctx = ctx ∧
        bundle.verify app.externals = .ok () ∧ Attests bundle.events ctx body) := by
  have endures := attested_endures app.externals ctx body
  refine (answers_events endures ctx).bind ?_
  rintro _ ⟨world, attested, rfl⟩
  have attests := attested.attests.chain
  have filled := attested.attests.nonempty
  have intact := (Chained.run attested.run).chain_intact ctx
  rw [← attested.chain_eq] at attests filled
  rw [if_neg filled]
  refine (answers_now endures).bind fun now _ => answers_pure ?_
  exact ⟨_, rfl, rfl, verify_eq_ok.mpr ⟨rfl, filled, intact⟩, attests⟩

theorem evidenceWork_answers {t : Rid} (genuine : app.signing.Genuine app.externals.signatures)
    (encodes : ∀ bundle, ∃ bytes, app.signing.canonicalBundle bundle = .ok bytes) :
    Answers app.externals app.rail (Attested app.externals ctx body) t (evidenceWork app ctx)
      (fun read => read.Verifies app ∧
        ∃ bundle, read.Exports app bundle ∧ bundle.ctx = ctx ∧ Attests bundle.events ctx body) := by
  refine answers_evidence.ask.bind ?_
  rintro _ ⟨bundle, rfl, own, verified, attests⟩
  unfold Body.Exports
  cases exporter : app.evidenceKey with
  | none =>
      dsimp only
      exact answers_pure ⟨verified, bundle, rfl, own, attests⟩
  | some key =>
      dsimp only
      obtain ⟨bytes, encoded⟩ := encodes bundle
      cases signs : bundle.sign app.signing key with
      | error error => simp [EvidenceBundle.sign, encoded] at signs
      | ok signed =>
          obtain ⟨-, signer, accepted⟩ := EvidenceBundle.sign_verify genuine signs verified
          exact answers_pure ⟨accepted, bundle, ⟨signed, signs, signer, rfl⟩, own, attests⟩

/-- The evidence of a context, asked for after the service has answered about the context, is
a `200` that is signed if the service has a key, verifies offline and holds what the answer
said. -/
theorem evidence_reads_back [DecidableEq Rid] {capacity : Nat} {service later : Service Rid}
    (genuine : app.signing.Genuine app.externals.signatures)
    (encodes : ∀ bundle, ∃ bytes, app.signing.canonicalBundle bundle = .ok bytes)
    (reached : app.Reachable capacity service) {first again : Rid} {task reader : Task}
    {name : String} (returned : service.Returned first task) (granted : task.outcome = .ok body)
    (about : body.ctx? = some name) (fresh : service.requests again = .absent)
    (steps : Relation.ReflTransGen (Service.Step app) service later)
    (read : later.Returned again reader) (asks : reader.http.route = .ok (.evidence name)) :
    ∃ answer bundle, respond reader.outcome = ⟨200, false, false, .body answer⟩ ∧
      answer.Verifies app ∧ answer.Exports app bundle ∧ bundle.ctx.val = name ∧
      Attests bundle.events bundle.ctx body := by
  have handles : ∀ ctx, (Route.evidence ctx.val).handle app = .ok (evidenceWork app ctx) := by
    intro ctx
    rw [Route.handle, evidence, context_val]
    rfl
  obtain ⟨ctx, answer, named, answered, verifies, bundle, exported, rfl, attests⟩ :=
    reached.reads_later returned granted about fresh steps read asks handles
      fun _ _ => evidenceWork_answers genuine encodes
  exact ⟨answer, bundle, by rw [answered]; rfl, verifies, exported, named, attests⟩

end Evidence

theorem evidence_reads_back_settled :
    ∃ task body reader answer bundle, (Sample.app.served 4096 Sample.purchase).Returned 2 task ∧
      task.outcome = .ok body ∧ body.ctx? = some Sample.ctx ∧
      (Sample.reading (.evidence Sample.ctx)).Returned 3 reader ∧
      respond reader.outcome = ⟨200, false, false, .body answer⟩ ∧ answer.Verifies Sample.app ∧
      answer.Exports Sample.app bundle ∧ bundle.ctx.val = Sample.ctx ∧
      Attests bundle.events bundle.ctx body := by
  obtain ⟨task, body, finished, granted, about, -⟩ := Sample.purchase_answered
  obtain ⟨reader, read, asks, steps⟩ :=
    Sample.reading_answered (show ((Sample.reading (.evidence Sample.ctx)).requests
      3).task?.isSome = true by decide +kernel)
  have genuine : Sample.app.signing.Genuine Sample.app.externals.signatures := by
    intro key bytes
    simp [Sample.app, Core.Sample.externals]
  obtain ⟨answer, bundle, exported⟩ := evidence_reads_back genuine (fun _ => ⟨_, rfl⟩)
    (App.served_reachable _) (.inr finished) granted about
    (Sample.app.served_absent Sample.purchase le_rfl) steps (.inr read) asks
  exact ⟨task, body, reader, answer, bundle, .inr finished, granted, about, .inr read, exported⟩

end MandateLedger.Serve
