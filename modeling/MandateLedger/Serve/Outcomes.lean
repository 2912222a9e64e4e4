import MandateLedger.Serve.Refinement

namespace MandateLedger.Serve

open MandateLedger.Core MandateLedger.Data MandateLedger.Process MandateLedger.Adapters

/-- The answer was read from the store. -/
def Body.isReport : Body → Bool
  | .context _ | .evidence _ | .signedEvidence _ => true
  | .authorized _ | .paid _ | .settlement _ | .compensated .. | .delivered _ | .expired ..
  | .revoked .. => false

/-- The work of `context_status` or of `evidence`. -/
def App.Reads (app : App) (work : Handler Body) : Prop :=
  (∃ ctx, work = statusWork ctx) ∨ ∃ ctx, work = evidenceWork app ctx

/-- An outcome that the work of a handler can have, if it may answer with what it read. -/
def Fitting (mayReport : Prop) (outcome : Outcome) : Prop :=
  outcome ≠ .error .unauthorized ∧
    ∀ body, outcome = .ok body → body.isReport = true → mayReport

section Rules

variable {mayReport : Prop} {α : Type}

theorem fitting_error {error : ApiError} (other : error ≠ .unauthorized) :
    Fitting mayReport (.error error) := by
  refine ⟨?_, ?_⟩
  · rintro ⟨rfl⟩
    exact other rfl
  · intro body failed
    cases failed

theorem fitting_step {body : Body} (step : body.isReport = false) :
    Fitting mayReport (.ok body) := by
  refine ⟨nofun, ?_⟩
  rintro _ ⟨rfl⟩ report
  rw [step] at report
  cases report

theorem fitting_report {body : Body} (reports : mayReport) : Fitting mayReport (.ok body) :=
  ⟨nofun, fun _ _ _ => reports⟩

theorem ofLedger_ne_unauthorized (error : LedgerError) : ApiError.ofLedger error ≠ .unauthorized := by
  cases error <;> exact nofun

theorem yields_ask {call : Call MockProof Finality α} {rest : α → Handler Body}
    (continues : ∀ value, (rest value).run.Yields (Fitting mayReport)) :
    (ask call >>= rest).run.Yields (Fitting mayReport) := by
  rw [ask_bind_run, Program.yields_bind]
  refine Program.yields_all ?_ call.run
  intro result
  cases result with
  | ok value => exact continues value
  | error error => exact fitting_error (ofLedger_ne_unauthorized error)

theorem yields_reachedAt {ctx : ContextId} {stage : Stage} {rest : Reached → Handler Body}
    (continues : ∀ reached, (rest reached).run.Yields (Fitting mayReport)) :
    (reachedAt ctx stage >>= rest).run.Yields (Fitting mayReport) := by
  unfold reachedAt
  rw [bind_assoc]
  refine yields_ask fun found => ?_
  cases found with
  | none => exact fitting_error nofun
  | some reached => exact continues reached

theorem yields_earned {ctx : ContextId} {stage : Stage} {state : PaymentState} {needs : String}
    {token : Option α} {rest : α → Handler Body}
    (continues : ∀ value, (rest value).run.Yields (Fitting mayReport)) :
    (earned ctx stage state needs token >>= rest).run.Yields (Fitting mayReport) := by
  cases token with
  | none => exact fitting_error nofun
  | some value => exact continues value

end Rules

theorem App.Works.yields {app : App} {work : Handler Body} (works : app.Works work) :
    work.run.Yields (Fitting (app.Reads work)) := by
  cases works with
  | authorize mandate cart requestKey => exact yields_ask fun _ => fitting_step rfl
  | payment ctx proof =>
      exact yields_reachedAt fun _ => yields_ask fun _ => fitting_step rfl
  | settlement ctx reference reported =>
      exact yields_reachedAt fun _ => yields_earned fun _ => yields_ask fun _ => fitting_step rfl
  | compensation ctx reference =>
      exact yields_reachedAt fun _ => yields_earned fun _ => yields_ask fun _ => fitting_step rfl
  | delivery ctx receipt =>
      exact yields_reachedAt fun _ => yields_earned fun _ => yields_ask fun _ => fitting_step rfl
  | expiry ctx => exact yields_reachedAt fun _ => yields_ask fun _ => fitting_step rfl
  | revocation mandate => exact yields_ask fun _ => fitting_step rfl
  | status ctx =>
      refine yields_ask fun found => ?_
      cases found with
      | none => exact fitting_error nofun
      | some record => exact fitting_report (.inl ⟨ctx, rfl⟩)
  | evidence ctx =>
      refine yields_ask fun found => ?_
      cases found with
      | none => exact fitting_error nofun
      | some bundle =>
          dsimp only
          split
          · exact fitting_report (.inr ⟨ctx, rfl⟩)
          · split
            · exact fitting_report (.inr ⟨ctx, rfl⟩)
            · exact fitting_error nofun

end MandateLedger.Serve
