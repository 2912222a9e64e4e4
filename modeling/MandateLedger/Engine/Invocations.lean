import MandateLedger.Engine.Clients
import MandateLedger.Engine.Refusals
import MandateLedger.Process.Observed

namespace MandateLedger.Engine

open MandateLedger.Core MandateLedger.Data MandateLedger.Memory MandateLedger.Process

variable {Proof Evidence Tid α : Type}

structure Invocation (Proof Evidence : Type) where
  request : Request Proof Evidence
  exchanges : List (Exchange (Op Proof Evidence) Op.Answer)
  response : Response

/-- The program of a call, with the exchanges reported. -/
def invoke (externals : Externals) (request : Request Proof Evidence) :
    Program (Op Proof Evidence) Op.Answer (Invocation Proof Evidence) :=
  (fun seen => ⟨request, seen.1, seen.2⟩) <$> (request.program externals).observe

def Invocations (externals : Externals) (ledgers : Set Ledger)
    (program : Program (Op Proof Evidence) Op.Answer (Invocation Proof Evidence)) : Prop :=
  ∃ request : Request Proof Evidence, (∀ ledger ∈ request.ledger?, ledger ∈ ledgers) ∧
    program = invoke externals request

theorem invoke_erase (externals : Externals) (request : Request Proof Evidence) :
    Invocation.response <$> invoke externals request = request.program externals := by
  rw [invoke, ← comp_map]
  exact Program.observe_erase _

section Runs

variable [DecidableEq Tid] {externals : Externals} {ledgers : Set Ledger}

/-- Without the reports, a run of invocations is a run of the calls. -/
theorem reachable_erase
    {config : Config Tid (World Proof Evidence) (Op Proof Evidence) Op.Answer
      (Invocation Proof Evidence)}
    (reached : Process.Reachable (semantics Tid externals) (Invocations externals ledgers)
      World.empty config) :
    Reachable externals ledgers (config.map Invocation.response) := by
  refine reached.map ?_
  intro program allowed
  obtain ⟨request, named, rfl⟩ := allowed
  exact ⟨request, named, invoke_erase externals request⟩

end Runs

theorem World.Exec.grows {externals : Externals} {world after : World Proof Evidence}
    {op : Op Proof Evidence} {answer : op.Answer}
    (executed : world.Exec externals op answer after) : world.acts <+: after.acts := by
  cases executed.leaves with
  | reads | revokes => exact List.prefix_refl _
  | appends | verifies | judges => exact List.prefix_append _ _

/-- What every program over the operations keeps. -/
def growing (Tid : Type) (externals : Externals) : Discipline Tid (World Proof Evidence) where
  Inv world := Traced.Reachable externals world.traced
  Rely _ before after := before.acts <+: after.acts
  Idle _ _ := True
  refl := acts_refl
  trans := @acts_trans Proof Evidence Tid
  idle_stable _ _ := trivial

theorem growing_sound (externals : Externals) :
    (growing Tid externals : Discipline Tid (World Proof Evidence)).Sound
      (semantics Tid externals) where
  env := by
    intro before after moved reached
    obtain ⟨instant, rfl⟩ := moved
    exact ⟨reached.tail (.prune before.traced instant), fun _ => List.prefix_refl _⟩
  halt := by
    intro t before after stopped reached
    cases stopped
    exact ⟨⟨reached, fun _ _ => List.prefix_refl _⟩, trivial⟩

/-- A later state of the store's runs. -/
structure Later (externals : Externals) (world later : World Proof Evidence) : Prop where
  grown : world.acts <+: later.acts
  reached : Traced.Reachable externals later.traced

theorem World.history_grows {world later : World Proof Evidence} (grown : world.acts <+: later.acts) :
    world.history <+: later.history := by
  obtain ⟨rest, same⟩ := grown
  exact ⟨rest.filterMap Act.event?, by rw [World.history, World.history, ← same, List.filterMap_append]⟩

/-- What the call was told, and what it leaves, when it returns among others. -/
abbrev Ensures (externals : Externals) (t : Tid) (call : Call Proof Evidence α)
    (Post : List (Exchange (Op Proof Evidence) Op.Answer) → Except LedgerError α →
      World Proof Evidence → Prop) (world : World Proof Evidence) : Prop :=
  call.run.Observes (semantics Tid externals) (growing Tid externals) t Post world

section Rules

variable {externals : Externals} {t : Tid} {world : World Proof Evidence}
  {Post : List (Exchange (Op Proof Evidence) Op.Answer) → Except LedgerError α →
    World Proof Evidence → Prop}

theorem observes_op {op : Op Proof Evidence}
    {next : op.Answer → Program (Op Proof Evidence) Op.Answer (Except LedgerError α)}
    (continues : ∀ before, Later externals world before → ∀ answer after,
      before.Exec externals op answer after → Later externals before after →
      (next answer).Observes (semantics Tid externals) (growing Tid externals) t
        (fun seen => Post (⟨op, answer⟩ :: seen)) after) :
    (Program.call op next).Observes (semantics Tid externals) (growing Tid externals) t Post
      world := by
  rw [Program.observes_call]
  intro before grown reached answer after executed
  have later : Later externals before after := ⟨executed.grows, executed.traced reached⟩
  exact ⟨⟨later.reached, fun _ _ => later.grown⟩,
    continues before ⟨grown, reached⟩ answer after executed later⟩

theorem ensures_pure {value : α} (ends : Post [] (.ok value) world) :
    Ensures externals t (pure value : Call Proof Evidence α) Post world := ends

theorem ensures_throw {error : LedgerError} (ends : Post [] (.error error) world) :
    Ensures externals t (throw error : Call Proof Evidence α) Post world := ends

theorem ensures_now {rest : Timestamp → Call Proof Evidence α}
    (continues : ∀ now before, Later externals world before →
      Ensures externals t (rest now) (fun seen => Post (⟨.now, now⟩ :: seen)) before) :
    Ensures externals t (Ledger.now >>= rest) Post world := by
  refine observes_op ?_
  intro before later answer after executed _
  cases executed
  exact continues answer before later

theorem ensures_record {ctx : ContextId} {rest : Option Record → Call Proof Evidence α}
    (continues : ∀ before, Later externals world before →
      Ensures externals t (rest (before.inner.records.lookup ctx))
        (fun seen => Post (⟨.record ctx, .ok (before.inner.records.lookup ctx)⟩ :: seen)) before) :
    Ensures externals t (Ledger.record ctx >>= rest) Post world := by
  refine observes_op ?_
  intro before later answer after executed _
  obtain ⟨rfl, rfl⟩ := executed
  exact continues _ later

theorem ensures_authorizedMandate {ctx : ContextId} {rest : Option Mandate → Call Proof Evidence α}
    (continues : ∀ before, Later externals world before →
      Ensures externals t (rest (before.inner.authorizedMandate ctx))
        (fun seen => Post
          (⟨.authorizedMandate ctx, .ok (before.inner.authorizedMandate ctx)⟩ :: seen)) before) :
    Ensures externals t (Ledger.authorizedMandate ctx >>= rest) Post world := by
  refine observes_op ?_
  intro before later answer after executed _
  obtain ⟨rfl, rfl⟩ := executed
  exact continues _ later

theorem ensures_isRevoked {mandate : MandateId} {rest : Bool → Call Proof Evidence α}
    (continues : ∀ before, Later externals world before → ∀ revoked,
      Ensures externals t (rest revoked)
        (fun seen => Post (⟨.isRevoked mandate, .ok revoked⟩ :: seen)) before) :
    Ensures externals t (Ledger.isRevoked mandate >>= rest) Post world := by
  refine observes_op ?_
  intro before later answer after executed _
  obtain ⟨rfl, rfl⟩ := executed
  exact continues _ later _

/-- An append fails, is refused, or writes its event. -/
theorem ensures_tryAppend {ctx : ContextId} {now : Timestamp} {body : EventBody}
    {rest : Except StoreError AppendOutcome → Call Proof Evidence α}
    (fails : ∀ before, Later externals world before → ∀ error,
      before.inner.append externals ctx now body = (.error error, before.inner) →
      Ensures externals t (rest (.error error))
        (fun seen => Post (⟨.append ctx now body, .error error⟩ :: seen)) before)
    (refuses : ∀ before, Later externals world before → ∀ outcome,
      outcome.refuses body = true →
      Ensures externals t (rest (.ok outcome))
        (fun seen => Post (⟨.append ctx now body, .ok outcome⟩ :: seen)) before)
    (writes : ∀ before after, Later externals world before → Later externals before after →
      ∀ event tables, before.inner.Writes externals.decimals ctx now body tables →
      event.ctx = ctx → event.body = body →
      after = ⟨tables.log event, before.acts ++ [.appended event]⟩ →
      Ensures externals t (rest (.ok (.appended event)))
        (fun seen => Post (⟨.append ctx now body, .ok (.appended event)⟩ :: seen)) after) :
    Ensures externals t (Ledger.tryAppend ctx now body >>= rest) Post world := by
  refine observes_op ?_
  intro before later answer after executed further
  obtain ⟨error, appended, failed⟩ | ⟨outcome, appended, refused⟩ |
    ⟨event, tables, written, built, appended⟩ := before.append_cases externals ctx now body
  · obtain ⟨rfl, rfl⟩ := Prod.mk.inj (executed.trans appended)
    exact fails _ later error failed
  · obtain ⟨rfl, rfl⟩ := Prod.mk.inj (executed.trans appended)
    exact refuses _ later outcome refused
  · obtain ⟨-, own, -, -, same, -⟩ := Event.new_eq_ok built
    obtain ⟨rfl, rfl⟩ := Prod.mk.inj (executed.trans appended)
    exact writes before _ later further event tables written own same rfl

theorem ensures_append {ctx : ContextId} {now : Timestamp} {body : EventBody}
    {rest : AppendOutcome → Call Proof Evidence α}
    (fails : ∀ before, Later externals world before → ∀ error,
      Post [⟨.append ctx now body, .error error⟩] (.error (.store error)) before)
    (refuses : ∀ before, Later externals world before → ∀ outcome,
      outcome.refuses body = true →
      Ensures externals t (rest outcome)
        (fun seen => Post (⟨.append ctx now body, .ok outcome⟩ :: seen)) before)
    (writes : ∀ before after, Later externals world before → Later externals before after →
      ∀ event tables, before.inner.Writes externals.decimals ctx now body tables →
      event.ctx = ctx → event.body = body →
      after = ⟨tables.log event, before.acts ++ [.appended event]⟩ →
      Ensures externals t (rest (.appended event))
        (fun seen => Post (⟨.append ctx now body, .ok (.appended event)⟩ :: seen)) after) :
    Ensures externals t (Ledger.append ctx now body >>= rest) Post world := by
  have same : (Ledger.append ctx now body >>= rest : Call Proof Evidence α) =
      Ledger.tryAppend ctx now body >>= fun
        | .ok outcome => rest outcome
        | .error error => throw (.store error) := by
    refine congrArg ExceptT.mk (congrArg (Program.call _) (funext fun answer => ?_))
    cases answer <;> rfl
  rw [same]
  exact ensures_tryAppend (fun before later error _ => fails before later error) refuses writes

/-- Whenever the operation gets this answer, the store changes only so. -/
def Leaves (externals : Externals) (change : Inner → Inner → Prop)
    (exchange : Exchange (Op Proof Evidence) Op.Answer) : Prop :=
  ∀ before after : World Proof Evidence,
    before.Exec externals exchange.1 exchange.2 after → change before.inner after.inner

abbrev Silent (externals : Externals) (exchange : Exchange (Op Proof Evidence) Op.Answer) : Prop :=
  Leaves externals (fun before after => after = before) exchange

theorem Silent.untouched {exchange : Exchange (Op Proof Evidence) Op.Answer}
    (silent : Silent externals exchange) : Leaves externals Untouched exchange := by
  intro before after executed
  rw [silent before after executed]
  exact ⟨rfl, rfl, rfl, rfl, rfl, rfl⟩

theorem silent_now (now : Timestamp) :
    Silent externals (⟨.now, now⟩ : Exchange (Op Proof Evidence) Op.Answer) := by
  intro before after executed
  exact congrArg World.inner executed

theorem silent_record (ctx : ContextId) (answer : Except StoreError (Option Record)) :
    Silent externals (⟨.record ctx, answer⟩ : Exchange (Op Proof Evidence) Op.Answer) := by
  intro before after executed
  exact congrArg World.inner executed.2

theorem silent_authorizedMandate (ctx : ContextId) (answer : Except StoreError (Option Mandate)) :
    Silent externals (⟨.authorizedMandate ctx, answer⟩ : Exchange (Op Proof Evidence) Op.Answer) := by
  intro before after executed
  exact congrArg World.inner executed.2

theorem silent_isRevoked (mandate : MandateId) (answer : Except StoreError Bool) :
    Silent externals (⟨.isRevoked mandate, answer⟩ : Exchange (Op Proof Evidence) Op.Answer) := by
  intro before after executed
  exact congrArg World.inner executed.2

theorem silent_append (ctx : ContextId) (now : Timestamp) (body : EventBody)
    (answer : Except StoreError AppendOutcome)
    (unwritten : ∀ event, answer ≠ .ok (.appended event)) :
    Silent externals (⟨.append ctx now body, answer⟩ : Exchange (Op Proof Evidence) Op.Answer) := by
  intro before after executed
  obtain ⟨error, appended, -⟩ | ⟨outcome, appended, -⟩ | ⟨event, tables, -, -, appended⟩ :=
    before.append_cases externals ctx now body
  · exact congrArg World.inner (Prod.mk.inj (executed.trans appended)).2
  · exact congrArg World.inner (Prod.mk.inj (executed.trans appended)).2
  · exact absurd (Prod.mk.inj (executed.trans appended)).1 (unwritten event)

theorem untouched_denied {ctx : ContextId} {now : Timestamp} {stage : Stage} {reason : DenyReason}
    {detail : String} {answer : Except StoreError AppendOutcome} :
    Leaves externals Untouched (⟨.append ctx now (.denied stage reason detail), answer⟩ :
      Exchange (Op Proof Evidence) Op.Answer) := by
  intro before after executed
  have kept : after.inner =
      (before.inner.append externals ctx now (.denied stage reason detail)).2 :=
    congrArg (fun pair => pair.2.inner) executed
  rw [kept]
  obtain ⟨-, appended⟩ | ⟨-, ⟨cause, appended⟩ | ⟨event, -, appended⟩⟩ :=
    before.inner.append_denied externals ctx now stage reason detail
  · rw [appended]
    exact ⟨rfl, rfl, rfl, rfl, rfl, rfl⟩
  · rw [appended]
    exact ⟨rfl, rfl, rfl, rfl, rfl, rfl⟩
  · rw [appended]
    exact ⟨rfl, rfl, rfl, rfl, rfl, rfl⟩

/-- A refusal is an error, and writes at most itself. -/
theorem ensures_deny {ctx : ContextId} {now : Timestamp} {stage : Stage} {reason : DenyReason}
    {detail : String}
    (ends : ∀ exchange error after, Leaves externals Untouched exchange →
      Post [exchange] (.error error) after) :
    Ensures externals t (Ledger.deny ctx now stage reason detail : Call Proof Evidence α) Post
      world := by
  refine ensures_append ?_ ?_ ?_
  · intro before later error
    exact ends _ _ _ untouched_denied
  · intro before later outcome refused
    cases outcome <;> exact ends _ _ _ untouched_denied
  · intro before after later further event tables writes own same kept
    exact ends _ _ _ untouched_denied

theorem ensures_plan {ctx : ContextId} {now : Timestamp} {plan : Plan α}
    {Good : α → World Proof Evidence → Prop}
    (answers : ∀ value, plan = .answer value → Good value world)
    (submits : ∀ submission, plan = .submit submission → ∀ after event,
      Later externals world after → event ∈ after.history → event.ctx = ctx →
      event.body = submission.body → Good submission.value after) :
    Ensures externals t (plan.call ctx now) (fun _ => Ends Good fun _ _ => True) world := by
  cases plan with
  | answer value => exact ensures_pure (answers value rfl)
  | corrupt message => exact ensures_throw trivial
  | unavailable detail => exact ensures_throw trivial
  | refuse refusal => exact ensures_deny fun _ _ _ _ => trivial
  | submit submission =>
      refine ensures_append (fun _ _ _ => trivial) ?_ ?_
      · intro before later outcome refused
        obtain ⟨refusal, handled⟩ := submission.handled outcome refused
        rw [Plan.conclude_refused refused handled]
        exact ensures_deny fun _ _ _ _ => trivial
      · intro before after later further event tables writes own same kept
        refine submits submission rfl after event
          ⟨later.grown.trans further.grown, further.reached⟩ ?_ own same
        rw [kept, World.history]
        simp [Act.event?]

end Rules

/-- What the rail was asked and answered on the way to a plan. -/
def Consult.told (around : Surroundings Proof Evidence) :
    Consult Proof Evidence α → List (Exchange (Op Proof Evidence) Op.Answer)
  | .outright _ => []
  | .verify rail proof expected _ =>
      [⟨.verifyProof rail proof expected, around.verify rail proof expected⟩]
  | .judge rail evidence expected _ =>
      [⟨.checkFinality rail evidence expected, around.judge rail evidence expected⟩]

/-- The record a decision rests on is one it has read, and the event it submits is
in the past when it returns. -/
theorem Decision.ensures {externals : Externals} {t : Tid} {world : World Proof Evidence}
    (decision : Decision Proof Evidence α)
    {Good : List (Exchange (Op Proof Evidence) Op.Answer) → α → World Proof Evidence → Prop}
    (answers : ∀ around read later value, Traced.Reachable externals read.traced →
      Later externals read later →
      (decision.decide (read.inner.records.lookup decision.ctx)).resolve around = .answer value →
      Good ((decision.decide (read.inner.records.lookup decision.ctx)).told around) value later)
    (submits : ∀ around read later submission event, Traced.Reachable externals read.traced →
      Later externals read later →
      (decision.decide (read.inner.records.lookup decision.ctx)).resolve around =
        .submit submission →
      event ∈ later.history → event.ctx = decision.ctx → event.body = submission.body →
      Good ((decision.decide (read.inner.records.lookup decision.ctx)).told around)
        submission.value later) :
    Ensures externals t decision.call
      (fun seen => Ends (fun value after => ∃ told, told ⊆ seen ∧ Good told value after)
        fun _ _ => True) world := by
  refine ensures_now fun now first _ => ensures_record fun read looked => ?_
  -- the plan, once the rail has given the answers of `around`
  have planned : ∀ (around : Surroundings Proof Evidence) later, Later externals read later →
      Ensures externals t (((decision.decide (read.inner.records.lookup decision.ctx)).resolve
          around).call decision.ctx now)
        (fun _ => Ends
          (Good ((decision.decide (read.inner.records.lookup decision.ctx)).told around))
          fun _ _ => True) later := by
    intro around later further
    refine ensures_plan ?_ ?_
    · intro value decided
      exact answers around read later value looked.reached further decided
    · intro submission decided after event grown past own body
      exact submits around read after submission event looked.reached
        ⟨further.grown.trans grown.grown, grown.reached⟩ decided past own body
  cases consulted : decision.decide (read.inner.records.lookup decision.ctx) with
  | outright plan =>
      rw [consulted] at planned
      refine (planned ⟨now, fun _ _ _ => .error (.unavailable ""),
        fun _ _ _ => .error (.unavailable "")⟩ read ⟨List.prefix_refl _, looked.reached⟩).mono ?_
      intro seen result after ends
      cases result with
      | ok value => exact ⟨_, List.nil_subset _, ends⟩
      | error error => trivial
  | verify rail proof expected next =>
      rw [consulted] at planned
      refine observes_op fun before later answer after executed further => ?_
      refine (planned ⟨now, fun _ _ _ => answer, fun _ _ _ => .error (.unavailable "")⟩ after
        ⟨later.grown.trans further.grown, further.reached⟩).mono ?_
      intro seen result final ends
      cases result with
      | ok value => exact ⟨_, by simp [Consult.told], ends⟩
      | error error => trivial
  | judge rail evidence expected next =>
      rw [consulted] at planned
      refine observes_op fun before later answer after executed further => ?_
      refine (planned ⟨now, fun _ _ _ => .error (.unavailable ""), fun _ _ _ => answer⟩ after
        ⟨later.grown.trans further.grown, further.reached⟩).mono ?_
      intro seen result final ends
      cases result with
      | ok value => exact ⟨_, by simp [Consult.told], ends⟩
      | error error => trivial

section Finished

variable {externals : Externals} {ledgers : Set Ledger} {t : Tid} {world : World Proof Evidence}

theorem observes_respond {β : Type} {program : Program (Op Proof Evidence) Op.Answer β}
    {respond : β → Response}
    {Post : List (Exchange (Op Proof Evidence) Op.Answer) → Response → World Proof Evidence → Prop}
    (observed : program.Observes (semantics Tid externals) (growing Tid externals) t
      (fun seen result => Post seen (respond result)) world) :
    (program >>= fun result => pure (respond result)).Observes (semantics Tid externals)
      (growing Tid externals) t Post world := by
  rw [Program.observes_bind]
  refine observed.mono ?_
  intro seen result after ends
  rw [Program.pure_eq, Program.observes_done, List.append_nil]
  exact ends

theorem observes_any {β : Type} (program : Program (Op Proof Evidence) Op.Answer β) :
    program.Observes (semantics Tid externals) (growing Tid externals) t (fun _ _ _ => True)
      world := by
  refine Program.keeps_any ?_ _
  intro before op answer after reached executed
  exact ⟨World.Exec.traced executed reached, fun _ _ => World.Exec.grows executed⟩

/-- What every call ensures holds of the invocations that have returned. -/
theorem reachable_ensured [DecidableEq Tid]
    {Post : Invocation Proof Evidence → World Proof Evidence → Prop}
    (stable : ∀ invocation before after, Later externals before after →
      Post invocation before → Post invocation after)
    (ensures : ∀ (request : Request Proof Evidence) (t : Tid) (world : World Proof Evidence),
      (request.program externals).Observes (semantics Tid externals) (growing Tid externals) t
        (fun seen response => Post ⟨request, seen, response⟩) world)
    {config : Config Tid (World Proof Evidence) (Op Proof Evidence) Op.Answer
      (Invocation Proof Evidence)}
    (reached : Process.Reachable (semantics Tid externals) (Invocations externals ledgers)
      World.empty config) {t : Tid} {invocation : Invocation Proof Evidence}
    (returned : config.threads t = some (.done invocation)) : Post invocation config.shared := by
  have kept : config.Kept (semantics Tid externals) (growing Tid externals) (fun _ => Post) := by
    refine Process.Reachable.keeps (growing_sound externals) ?_ ?_ ?_ (fun _ => trivial) reached
    · intro t invocation before after grown run
      exact stable invocation before after ⟨grown, run⟩
    · intro program allowed t world _ _
      obtain ⟨request, -, rfl⟩ := allowed
      rw [invoke, Program.keeps_map]
      exact ensures request t world
    · exact .refl
  exact kept.running t _ returned

end Finished

end MandateLedger.Engine
