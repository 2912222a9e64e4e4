import MandateLedger.Engine.Failures
import MandateLedger.Serve.Refinement

namespace MandateLedger.Serve

open MandateLedger.Core MandateLedger.Data MandateLedger.Memory MandateLedger.Process
  MandateLedger.Engine MandateLedger.Adapters

variable {Rid α β : Type} {externals : Externals} {t : Rid} {world : World MockProof Finality}

/-- What the work was told, and what it leaves, when it returns among others. -/
abbrev Assures (externals : Externals) (t : Rid) (work : Handler α)
    (Post : List (Exchange (Op MockProof Finality) Op.Answer) → Except ApiError α →
      World MockProof Finality → Prop) (world : World MockProof Finality) : Prop :=
  work.run.Observes (Engine.semantics Rid externals) (growing Rid externals) t Post world

section Rules

variable {Post : List (Exchange (Op MockProof Finality) Op.Answer) → Except ApiError β →
  World MockProof Finality → Prop}

theorem assures_ask {call : Call MockProof Finality α} {rest : α → Handler β}
    (called : Ensures externals t call
      (fun seen => Ends
        (fun value after => Assures externals t (rest value) (fun more => Post (seen ++ more)) after)
        fun error after => Post seen (.error (.ofLedger error)) after) world) :
    Assures externals t (ask call >>= rest) Post world := by
  unfold Assures
  rw [ask_bind_run, Program.observes_bind]
  refine called.mono ?_
  intro seen result after ends
  cases result with
  | ok value => exact ends
  | error error =>
      rw [Program.observes_done, List.append_nil]
      exact ends

theorem assures_return {value : α}
    {Post : List (Exchange (Op MockProof Finality) Op.Answer) → Except ApiError α →
      World MockProof Finality → Prop} (ends : Post [] (.ok value) world) :
    Assures externals t (return value : Handler α) Post world := ends

end Rules

/-- The work fails without having changed anything. -/
abbrev Cautious (externals : Externals) (t : Rid) (work : Handler α)
    (world : World MockProof Finality) : Prop :=
  Assures externals t work (fun seen outcome _ => Harmless externals seen outcome) world

/-- A call, and an answer made of what it returned. -/
theorem cautious_call {call : Call MockProof Finality α} {answer : α → β}
    (careful : Careful externals t call world) :
    Cautious externals t (do return answer (← ask call)) world := by
  refine assures_ask (careful.mono ?_)
  intro seen result after harmless
  cases result with
  | ok value =>
      dsimp only [Ends]
      exact assures_return (harmless_ok (answer value))
  | error error =>
      intro _ _
      exact harmless error rfl

/-- A call that only reads, and what is done with the result. -/
theorem cautious_read {call : Call MockProof Finality α} {rest : α → Handler β}
    (reads : Reads externals t call world)
    (continues : ∀ value before, Cautious externals t (rest value) before) :
    Cautious externals t (ask call >>= rest) world := by
  refine assures_ask (reads.mono ?_)
  intro seen result after silent
  cases result with
  | ok value =>
      dsimp only [Ends]
      refine (continues value after).mono ?_
      intro more outcome _ harmless error failed exchange listed
      obtain first | second := List.mem_append.mp listed
      · exact (silent exchange first).untouched
      · exact harmless error failed exchange second
  | error error =>
      intro _ _ exchange listed
      exact (silent exchange listed).untouched

theorem cautious_throw (error : ApiError) :
    Cautious externals t (throw error : Handler β) world := by
  intro _ _
  exact List.forall_mem_nil _

theorem cautious_return (value : β) :
    Cautious externals t (return value : Handler β) world := harmless_ok value

theorem cautious_reachedAt {ctx : ContextId} {stage : Stage} {rest : Reached → Handler β}
    (continues : ∀ reached before, Cautious externals t (rest reached) before) :
    Cautious externals t (reachedAt ctx stage >>= rest) world := by
  unfold reachedAt
  rw [bind_assoc]
  refine cautious_read (reads_reached ctx) fun found before => ?_
  cases found with
  | none => exact cautious_throw _
  | some reached => exact continues reached before

theorem cautious_earned {ctx : ContextId} {stage : Stage} {state : PaymentState} {needs : String}
    {token : Option α} {rest : α → Handler β}
    (continues : ∀ value, Cautious externals t (rest value) world) :
    Cautious externals t (earned ctx stage state needs token >>= rest) world := by
  cases token with
  | none => exact cautious_throw _
  | some value => exact continues value

theorem App.Works.cautious {app : App} {work : Handler Body} (works : app.Works work) :
    Cautious app.externals t work world := by
  cases works with
  | authorize mandate cart requestKey => exact cautious_call (authorize_careful _ _ _ _)
  | payment ctx proof =>
      refine cautious_reachedAt fun reached before => cautious_call ?_
      rw [recordPayment_eq]
      exact Decision.careful _
  | settlement ctx reference reported =>
      refine cautious_reachedAt fun reached before => cautious_earned fun paid => cautious_call ?_
      rw [recordSettlement_eq]
      exact Decision.careful _
  | compensation ctx reference =>
      refine cautious_reachedAt fun reached before => cautious_earned fun failed => cautious_call ?_
      rw [compensate_eq]
      exact Decision.careful _
  | delivery ctx receipt =>
      refine cautious_reachedAt fun reached before => cautious_earned fun settled => cautious_call ?_
      rw [recordDelivery_eq]
      exact Decision.careful _
  | expiry ctx =>
      refine cautious_reachedAt fun reached before => cautious_call ?_
      rw [expire_eq]
      exact Decision.careful _
  | revocation mandate => exact cautious_call (revoke_careful mandate)
  | status ctx =>
      refine cautious_read (reads_record ctx) fun found before => ?_
      cases found with
      | none => exact cautious_throw _
      | some record => exact cautious_return _
  | evidence ctx =>
      refine cautious_read (reads_evidence ctx) fun found before => ?_
      cases found with
      | none => exact cautious_throw _
      | some bundle =>
          dsimp only
          split
          · exact cautious_return _
          · split
            · exact cautious_return _
            · exact cautious_throw _

section Requests

variable [DecidableEq Rid] {app : App} {capacity : Nat} {service : Service Rid}

/-- What the work of every request assures, and the past does not undo, holds of the requests
that were answered with it. -/
theorem App.Reachable.assured (Post : Task → World MockProof Finality → Prop)
    (stable : ∀ task before after, Later app.externals before after →
      Post task before → Post task after)
    (assures : ∀ http work, app.admit http = .ok work → ∀ (t : Rid) world,
      Assures app.externals t work (fun seen outcome => Post ⟨http, seen, outcome⟩) world)
    (reached : app.Reachable capacity service) :
    service.Kept app ((growing Rid app.externals).pull Station.world)
      (fun _ task station => Post task station.world) := by
  refine App.Reachable.keeps ⟨fun _ _ => trivial, ?_, ?_⟩ .refl reached
  · intro rid task before after grown run
    exact stable task _ _ ⟨grown, run⟩
  · intro http work admitted rid station _
    have kept : (task http work).Keeps (Engine.semantics Rid app.externals)
        (growing Rid app.externals) rid Post station.world := by
      rw [task, Program.keeps_map]
      exact assures http work admitted rid station.world
    exact kept.pull Station.world fun _ _ _ _ _ executed => executed.world

/-- Work that ends in an error has changed nothing, whether or not its request still waits for
it: each operation of the work left the tables as they were, and at most added a refusal to the
log. -/
theorem errors_change_nothing (reached : app.Reachable capacity service) {rid : Rid} {task : Task}
    {error : ApiError} (returned : service.Returned rid task)
    (failed : task.outcome = .error error) :
    ∀ exchange ∈ task.exchanges, ∀ before after : World MockProof Finality,
      before.Exec app.externals exchange.1 exchange.2 after →
      Untouched before.inner after.inner ∧ RefusedAtMost before.inner after.inner := by
  have kept := App.Reachable.assured
    (fun task _ => Harmless app.externals task.exchanges task.outcome)
    (fun _ _ _ _ harmless => harmless)
    (fun _ _ admitted _ _ => (App.admit_works admitted).cautious) reached
  intro exchange listed before after executed
  have untouched := kept.returned returned error failed exchange listed before after executed
  exact ⟨untouched, executed.refusedAtMost untouched⟩

end Requests

/-- The rail rejects a proof, and the ledger refuses and records that. -/
theorem errors_change_nothing_refused :
    ∃ task error, (Sample.app.served 4096 (Sample.payment "pay-1" false)).Returned 1 task ∧
      task.outcome = .error error ∧
      ∀ exchange ∈ task.exchanges, ∀ before after : World MockProof Finality,
        before.Exec Sample.app.externals exchange.1 exchange.2 after →
        Untouched before.inner after.inner ∧ RefusedAtMost before.inner after.inner := by
  have refused : ((Sample.app.served 4096 (Sample.payment "pay-1" false)).requests 1).task?.any
      (fun task => !task.outcome.isOk) = true := by decide +kernel
  obtain ⟨task, answered, failed⟩ := (Option.any_eq_true _ _).mp refused
  cases outcome : task.outcome with
  | ok body => simp [outcome, Except.isOk, Except.toBool] at failed
  | error error =>
      have returned : (Sample.app.served 4096 (Sample.payment "pay-1" false)).Returned 1 task :=
        .inr (Phase.eq_finished answered)
      exact ⟨task, error, returned, outcome,
        errors_change_nothing (App.served_reachable _) returned outcome⟩

end MandateLedger.Serve
