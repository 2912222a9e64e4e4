import MandateLedger.Serve.Service

namespace MandateLedger.Serve

open MandateLedger.Core MandateLedger.Data MandateLedger.Memory MandateLedger.Process
  MandateLedger.Engine MandateLedger.Adapters

/-- The work a request can ask for. -/
inductive App.Works (app : App) : Handler Body → Prop where
  | authorize (mandate : Mandate) (cart : Cart) (requestKey : String) :
      Works app (authorizeWork app mandate cart requestKey)
  | payment (ctx : ContextId) (proof : MockProof) : Works app (paymentWork app ctx proof)
  | settlement (ctx : ContextId) (reference : Option String) (reported : Option Reported) :
      Works app (settlementWork app ctx reference reported)
  | compensation (ctx : ContextId) (reference : Option String) :
      Works app (compensationWork ctx reference)
  | delivery (ctx : ContextId) (receipt : DeliveryReceipt) : Works app (deliveryWork ctx receipt)
  | expiry (ctx : ContextId) : Works app (expiryWork ctx)
  | revocation (mandate : MandateId) : Works app (revocationWork mandate)
  | status (ctx : ContextId) : Works app (statusWork ctx)
  | evidence (ctx : ContextId) : Works app (evidenceWork app ctx)

variable {app : App}

theorem Route.handle_works {route : Route} {work : Handler Body}
    (handled : route.handle app = .ok work) : app.Works work := by
  cases route with
  | authorize request =>
      obtain ⟨-, handled⟩ := check_bind_eq_ok.mp handled
      obtain ⟨mandate, -, handled⟩ := bind_eq_ok.mp handled
      obtain ⟨native, -, handled⟩ := bind_eq_ok.mp handled
      obtain ⟨cart, -, ends⟩ := bind_eq_ok.mp handled
      cases pure_eq_ok.mp ends
      exact .authorize mandate cart request.requestKey
  | payment text proof =>
      obtain ⟨ctx, -, handled⟩ := bind_eq_ok.mp handled
      obtain ⟨proof, -, ends⟩ := bind_eq_ok.mp handled
      cases pure_eq_ok.mp ends
      exact .payment ctx proof
  | settlement text finality =>
      obtain ⟨ctx, -, handled⟩ := bind_eq_ok.mp handled
      obtain ⟨⟨reference, reported⟩, -, ends⟩ := bind_eq_ok.mp handled
      cases pure_eq_ok.mp ends
      exact .settlement ctx reference reported
  | compensation text request =>
      obtain ⟨ctx, -, handled⟩ := bind_eq_ok.mp handled
      obtain ⟨-, ends⟩ := check_bind_eq_ok.mp handled
      cases pure_eq_ok.mp ends
      exact .compensation ctx request.reference
  | delivery text receipt =>
      obtain ⟨ctx, -, handled⟩ := bind_eq_ok.mp handled
      obtain ⟨receipt, -, ends⟩ := bind_eq_ok.mp handled
      cases pure_eq_ok.mp ends
      exact .delivery ctx receipt
  | expiry text =>
      obtain ⟨ctx, -, ends⟩ := bind_eq_ok.mp handled
      cases pure_eq_ok.mp ends
      exact .expiry ctx
  | revocation text =>
      obtain ⟨mandate, -, ends⟩ := bind_eq_ok.mp handled
      cases pure_eq_ok.mp ends
      exact .revocation mandate
  | contextStatus text =>
      obtain ⟨ctx, -, ends⟩ := bind_eq_ok.mp handled
      cases pure_eq_ok.mp ends
      exact .status ctx
  | evidence text =>
      obtain ⟨ctx, -, ends⟩ := bind_eq_ok.mp handled
      cases pure_eq_ok.mp ends
      exact .evidence ctx

theorem App.admit_works {http : Http} {work : Handler Body}
    (admitted : app.admit http = .ok work) : app.Works work := by
  obtain ⟨-, admitted⟩ := check_bind_eq_ok.mp admitted
  obtain ⟨route, -, handled⟩ := bind_eq_ok.mp admitted
  exact Route.handle_works handled

/-- The operation only looks at a record. -/
def IsRecord (op : Op MockProof Finality) : Prop := ∃ ctx, op = .record ctx

/-- The work makes calls of the service's ledger, one after the other. -/
abbrev Sequenced {α : Type} (app : App) (work : Handler α) : Prop :=
  Sequence (Calls app.externals {app.ledger}) IsRecord work.run

section Sequences

variable {α β : Type}

theorem sequenced_return (value : α) : Sequenced app (return value : Handler α) := .done _

theorem sequenced_throw (error : ApiError) : Sequenced app (throw error : Handler α) := .done _

theorem ask_bind_run (call : Call MockProof Finality α) (rest : α → Handler β) :
    (ask call >>= rest).run = call.run >>= fun result =>
      match result with
      | .ok value => (rest value).run
      | .error error => .done (.error (.ofLedger error)) := by
  rw [Fallible.run_bind, ask, ExceptT.run_mk, map_eq_pure_bind, bind_assoc]
  refine bind_congr fun result => ?_
  cases result <;> rfl

theorem sequenced_ask (request : Request MockProof Finality)
    (tell : Except LedgerError α → Response) {call : Call MockProof Finality α}
    {rest : α → Handler β} (named : ∀ ledger ∈ request.ledger?, ledger = app.ledger)
    (program : request.program app.externals = tell <$> call.run)
    (tells : Function.Injective tell) (continues : ∀ value, Sequenced app (rest value)) :
    Sequenced app (ask call >>= rest) := by
  have : Nonempty (Except LedgerError α) := ⟨.error (.railUnavailable "")⟩
  unfold Sequenced
  rw [ask_bind_run]
  refine Sequence.of_map (Function.leftInverse_invFun tells) ⟨request, named, program.symm⟩ ?_
  intro result
  cases result with
  | ok value => exact continues value
  | error error => exact .done _

theorem sequenced_record (ctx : ContextId) {rest : Option Record → Handler β}
    (continues : ∀ record, Sequenced app (rest record)) :
    Sequenced app (ask (Ledger.record ctx) >>= rest) := by
  unfold Sequenced
  rw [ask_bind_run]
  refine .read ⟨ctx, rfl⟩ fun answer => ?_
  cases answer with
  | ok record => exact continues record
  | error error => exact .done _

theorem sequenced_reachedAt (ctx : ContextId) (stage : Stage) {rest : Reached → Handler β}
    (continues : ∀ reached, Sequenced app (rest reached)) :
    Sequenced app (reachedAt ctx stage >>= rest) := by
  unfold reachedAt
  rw [bind_assoc]
  refine sequenced_ask (.reached ctx) .reached (by simp [Request.ledger?]) rfl ?_ ?_
  · intro first second same
    exact Response.reached.inj same
  · intro found
    cases found with
    | none => exact sequenced_throw _
    | some reached => exact continues reached

theorem sequenced_earned {ctx : ContextId} {stage : Stage} {state : PaymentState} {needs : String}
    {token : Option α} {rest : α → Handler β} (continues : ∀ value, Sequenced app (rest value)) :
    Sequenced app (earned ctx stage state needs token >>= rest) := by
  cases token with
  | none => exact sequenced_throw _
  | some value => exact continues value

theorem App.Works.sequenced {work : Handler Body} (works : app.Works work) :
    Sequenced app work := by
  cases works with
  | authorize mandate cart requestKey =>
      refine sequenced_ask (.authorize app.ledger mandate cart requestKey) .authorize
        (by simp [Request.ledger?]) rfl ?_ fun _ => sequenced_return _
      exact fun _ _ same => Response.authorize.inj same
  | payment ctx proof =>
      refine sequenced_reachedAt ctx .payment fun reached => ?_
      refine sequenced_ask (.recordPayment app.ledger reached.authorized proof) .recordPayment
        (by simp [Request.ledger?]) rfl ?_ fun _ => sequenced_return _
      exact fun _ _ same => Response.recordPayment.inj same
  | settlement ctx reference reported =>
      refine sequenced_reachedAt ctx .settlement fun reached => sequenced_earned fun paid => ?_
      refine sequenced_ask (.recordSettlement app.ledger paid
        ⟨reference.getD paid.reference, reported⟩) .recordSettlement
        (by simp [Request.ledger?]) rfl ?_ fun _ => sequenced_return _
      exact fun _ _ same => Response.recordSettlement.inj same
  | compensation ctx reference =>
      refine sequenced_reachedAt ctx .compensation fun reached => sequenced_earned fun failed => ?_
      refine sequenced_ask (.compensate failed reference) .compensate
        (by simp [Request.ledger?]) rfl ?_ fun _ => sequenced_return _
      exact fun _ _ same => Response.compensate.inj same
  | delivery ctx receipt =>
      refine sequenced_reachedAt ctx .delivery fun reached => sequenced_earned fun settled => ?_
      refine sequenced_ask (.recordDelivery settled receipt) .recordDelivery
        (by simp [Request.ledger?]) rfl ?_ fun _ => sequenced_return _
      exact fun _ _ same => Response.recordDelivery.inj same
  | expiry ctx =>
      refine sequenced_reachedAt ctx .expiry fun reached => ?_
      refine sequenced_ask (.expire reached.authorized) .expire
        (by simp [Request.ledger?]) rfl ?_ fun _ => sequenced_return _
      exact fun _ _ same => Response.expire.inj same
  | revocation mandate =>
      refine sequenced_ask (.revoke mandate) .revoke
        (by simp [Request.ledger?]) rfl ?_ fun _ => sequenced_return _
      exact fun _ _ same => Response.revoke.inj same
  | status ctx =>
      refine sequenced_record ctx fun found => ?_
      cases found with
      | none => exact sequenced_throw _
      | some record => exact sequenced_return _
  | evidence ctx =>
      refine sequenced_ask (.evidence ctx) .evidence (by simp [Request.ledger?]) rfl ?_ ?_
      · exact fun _ _ same => Response.evidence.inj same
      · intro found
        cases found with
        | none => exact sequenced_throw _
        | some bundle =>
            dsimp only
            split
            · exact sequenced_return _
            · split
              · exact sequenced_return _
              · exact sequenced_throw _

end Sequences

section Runs

variable {Rid : Type} [DecidableEq Rid] {capacity : Nat} {service : Service Rid}

theorem App.Reachable.calls (reached : app.Reachable capacity service) :
    ∃ calls : Config Rid (World MockProof Finality) (Op MockProof Finality) Op.Answer Response,
      Process.Reachable (unpruned Rid app.externals) (Calls app.externals {app.ledger})
        World.empty calls ∧
      calls.shared = service.tasks.shared.world := by
  have run : Process.Reachable (unpruned Rid app.externals)
      (fun program => ∃ work, app.Works work ∧ program = work.run) World.empty
      (Config.map Task.outcome ⟨service.tasks.shared.world, service.tasks.threads⟩) := by
    refine (reachable_world reached.tasks).map ?_
    rintro _ ⟨http, work, admitted, rfl⟩
    exact ⟨work, App.admit_works admitted, task_erase http work⟩
  have quiet : ∀ t before op answer after, IsRecord op →
      (unpruned Rid app.externals).exec t before op answer after → after = before := by
    rintro t before _ answer after ⟨ctx, rfl⟩ executed
    exact executed.2
  have made : ∀ program : Program (Op MockProof Finality) Op.Answer Outcome,
      (∃ work, app.Works work ∧ program = work.run) →
      Sequence (Calls app.externals {app.ledger}) IsRecord program := by
    rintro _ ⟨work, works, rfl⟩
    exact works.sequenced
  obtain ⟨calls, run, same, -⟩ := run.sequence made quiet fun _ _ => rfl
  exact ⟨calls, run, same⟩

/-- Whatever requests arrive and whatever becomes of them, the store is as calls of the
one ledger leave it. -/
theorem service_refines_ledger (reached : app.Reachable capacity service) :
    ∃ calls : Config Rid (World MockProof Finality) (Op MockProof Finality) Op.Answer Response,
      Engine.Reachable app.externals {app.ledger} calls ∧
      calls.shared = service.tasks.shared.world := by
  obtain ⟨calls, run, same⟩ := reached.calls
  exact ⟨calls, reachable_of_unpruned run, same⟩

end Runs

theorem service_refines_ledger_purchase :
    ∃ calls : Config Nat (World MockProof Finality) (Op MockProof Finality) Op.Answer Response,
      Engine.Reachable Sample.app.externals {Sample.app.ledger} calls ∧
      calls.shared = (Sample.app.served 4096 Sample.purchase).tasks.shared.world :=
  service_refines_ledger (App.served_reachable Sample.purchase)

end MandateLedger.Serve
