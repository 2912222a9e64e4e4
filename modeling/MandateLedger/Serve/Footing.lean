import MandateLedger.Serve.Effects

namespace MandateLedger.Serve

open MandateLedger.Core MandateLedger.Data MandateLedger.Memory MandateLedger.Process
  MandateLedger.Engine MandateLedger.Adapters

/-- The tokens are those of one context. -/
structure Own (ctx : ContextId) (reached : Reached) : Prop where
  authorized : reached.authorized.ctx = ctx
  paid : ∀ token, reached.paid = some token → token.ctx = ctx
  settled : ∀ token, reached.settled = some token → token.ctx = ctx
  settlementFailed : ∀ token, reached.settlementFailed = some token → token.ctx = ctx

theorem earned_eq_some {α : Type} {condition : Bool} {read : Except LedgerError α} {value : α}
    (held : Ledger.earned condition read = .ok (some value)) : read = .ok value := by
  unfold Ledger.earned at held
  split at held
  · obtain ⟨token, read, same⟩ := bind_eq_ok.mp held
    cases pure_eq_ok.mp same
    exact read
  · cases held

theorem reachedFrom_own {ctx : ContextId} {record : Record} {reached : Reached}
    (own : record.ctx = ctx) (read : Ledger.reachedFrom ctx record = .ok reached) :
    Own ctx reached := by
  obtain ⟨paid, paidRead, read⟩ := bind_eq_ok.mp read
  obtain ⟨settled, settledRead, read⟩ := bind_eq_ok.mp read
  obtain ⟨failed, failedRead, read⟩ := bind_eq_ok.mp read
  obtain ⟨delivered, -, read⟩ := bind_eq_ok.mp read
  cases pure_eq_ok.mp read
  refine ⟨own, ?_, ?_, ?_⟩
  · rintro token rfl
    obtain ⟨_, -, rest⟩ := bind_eq_ok.mp (earned_eq_some paidRead)
    obtain ⟨_, -, rest⟩ := bind_eq_ok.mp rest
    obtain ⟨_, -, rest⟩ := bind_eq_ok.mp rest
    cases pure_eq_ok.mp rest
    exact own
  · rintro token rfl
    obtain ⟨_, -, rest⟩ := bind_eq_ok.mp (earned_eq_some settledRead)
    cases pure_eq_ok.mp rest
    exact own
  · rintro token rfl
    obtain ⟨_, -, rest⟩ := bind_eq_ok.mp (earned_eq_some failedRead)
    cases pure_eq_ok.mp rest
    exact own

/-- The answer reports a step of the lifecycle that has been made. -/
def Body.isStep : Body → Bool
  | .authorized _ | .paid _ | .compensated .. | .delivered _ | .expired .. => true
  | .settlement response => response.state ≠ .pending
  | .revoked .. | .context _ | .evidence _ | .signedEvidence _ => false

/-- What the answer of some work rests on, and for a payment which proof the rail has
verified. -/
inductive Rests (app : App) (Verified : MockProof → VerifiedProof → Prop)
    (world : World MockProof Finality) : Handler Body → Body → Prop where
  | authorized {mandate : Mandate} {cart : Cart} {requestKey : String} {token : Authorized}
      (verified : mandate.verify app.externals.signatures = .ok ())
      (rests : ∃ event ∈ world.history,
        SameMandate mandate (attempt app.externals mandate cart requestKey) token event) :
      Rests app Verified world (authorizeWork app mandate cart requestKey)
        (.authorized (.ofToken token))
  | paid {ctx : ContextId} {proof : MockProof} {token : Paid} {verified : VerifiedProof}
      (rail : token.rail = app.ledger.railId) (earned : Earns ctx paidToken token world)
      (checked : Verified proof verified) (same : verified.reference = token.reference) :
      Rests app Verified world (paymentWork app ctx proof) (.paid (.ofToken token))
  | settled {ctx : ContextId} {reference : Option String} {reported : Option Reported}
      {token : Settled} (earned : Earns ctx settledToken token world) :
      Rests app Verified world (settlementWork app ctx reference reported)
        (.settlement (.ofSettlement ctx (.settled token)))
  | settlementFailed {ctx : ContextId} {reference : Option String} {reported : Option Reported}
      {token : SettlementFailed} (earned : Earns ctx failedToken token world) :
      Rests app Verified world (settlementWork app ctx reference reported)
        (.settlement (.ofSettlement ctx (.failed token)))
  | compensated {ctx : ContextId} {reference : Option String} {token : Compensated}
      (earned : Earns ctx compensatedToken token world) :
      Rests app Verified world (compensationWork ctx reference)
        (.compensated token.ctx.val .compensated)
  | delivered {ctx : ContextId} {receipt : DeliveryReceipt} {token : Delivered}
      (earned : Earns ctx deliveredToken token world) :
      Rests app Verified world (deliveryWork ctx receipt) (.delivered (.ofToken token))
  | expired {ctx : ContextId}
      (earned : ∃ event ∈ changes ctx world.history, event.body = .expired) :
      Rests app Verified world (expiryWork ctx) (.expired ctx.val .expired)

section Rests

variable {app : App} {Verified Weaker : MockProof → VerifiedProof → Prop}
  {world after : World MockProof Finality} {work : Handler Body} {body : Body}

/-- The past does not go away. -/
theorem Rests.later (grown : world.acts <+: after.acts)
    (rests : Rests app Verified world work body) : Rests app Verified after work body := by
  cases rests with
  | authorized verified rests =>
      obtain ⟨event, past, same⟩ := rests
      exact .authorized verified ⟨event, (World.history_grows grown).subset past, same⟩
  | paid rail earned checked same => exact .paid rail (earned.later grown) checked same
  | settled earned => exact .settled (earned.later grown)
  | settlementFailed earned => exact .settlementFailed (earned.later grown)
  | compensated earned => exact .compensated (earned.later grown)
  | delivered earned => exact .delivered (earned.later grown)
  | expired earned =>
      obtain ⟨event, listed, expired⟩ := earned
      exact .expired ⟨event, changes_later grown listed, expired⟩

theorem Rests.mono (implied : ∀ proof verified, Verified proof verified → Weaker proof verified)
    (rests : Rests app Verified world work body) : Rests app Weaker world work body := by
  cases rests with
  | authorized verified rests => exact .authorized verified rests
  | paid rail earned checked same => exact .paid rail earned (implied _ _ checked) same
  | settled earned => exact .settled earned
  | settlementFailed earned => exact .settlementFailed earned
  | compensated earned => exact .compensated earned
  | delivered earned => exact .delivered earned
  | expired earned => exact .expired earned

end Rests

section Handlers

variable {Rid β : Type} {app : App} {t : Rid} {world : World MockProof Finality}
  {externals : Externals}

/-- The rail has verified the proof, as the work was told. -/
def ToldOf (exchanges : List (Exchange (Op MockProof Finality) Op.Answer)) (proof : MockProof)
    (verified : VerifiedProof) : Prop :=
  ∃ id expected, ⟨.verifyProof id proof expected, .ok verified⟩ ∈ exchanges

theorem ToldOf.mono {fewer more : List (Exchange (Op MockProof Finality) Op.Answer)}
    {proof : MockProof} {verified : VerifiedProof} (among : fewer ⊆ more)
    (told : ToldOf fewer proof verified) : ToldOf more proof verified := by
  obtain ⟨id, expected, listed⟩ := told
  exact ⟨id, expected, among listed⟩

/-- Something that can be said of what the work returns, when it has been told this much. -/
abbrev Affirms (externals : Externals) (t : Rid) (work : Handler Body)
    (Said : List (Exchange (Op MockProof Finality) Op.Answer) → Body →
      World MockProof Finality → Prop) (world : World MockProof Finality) : Prop :=
  Assures externals t work
    (fun seen outcome after => ∀ body, outcome = .ok body → Said seen body after) world

/-- The more the work was told, the more can be said. -/
def Mounts (Said : List (Exchange (Op MockProof Finality) Op.Answer) → Body →
    World MockProof Finality → Prop) : Prop :=
  ∀ fewer all body after, fewer ⊆ all → Said fewer body after → Said all body after

section Rules

variable {Said : List (Exchange (Op MockProof Finality) Op.Answer) → Body →
  World MockProof Finality → Prop}

theorem affirms_throw (error : ApiError) : Affirms externals t (throw error) Said world := by
  intro body failed
  cases failed

theorem affirms_return {body : Body} (said : Said [] body world) :
    Affirms externals t (return body) Said world := by
  rintro _ ⟨rfl⟩
  exact said

theorem affirms_earned {α : Type} {ctx : ContextId} {stage : Stage} {state : PaymentState}
    {needs : String} {token : Option α} {rest : α → Handler Body}
    (continues : ∀ value, token = some value → Affirms externals t (rest value) Said world) :
    Affirms externals t (earned ctx stage state needs token >>= rest) Said world := by
  cases token with
  | none => exact affirms_throw _
  | some value => exact continues value rfl

/-- The call that decides, and the answer made of what it returned. -/
theorem affirms_call {α : Type} {call : Call MockProof Finality α} {answer : α → Body}
    {Good : List (Exchange (Op MockProof Finality) Op.Answer) → α →
      World MockProof Finality → Prop}
    (called : Ensures externals t call (fun seen => Ends (Good seen) fun _ _ => True) world)
    (said : ∀ seen value after, Good seen value after → Said seen (answer value) after) :
    Affirms externals t (do return answer (← ask call)) Said world := by
  refine assures_ask (called.mono ?_)
  intro seen result after ends
  cases result with
  | error error =>
      intro body failed
      cases failed
  | ok value =>
      dsimp only [Ends]
      refine assures_return ?_
      rintro _ ⟨rfl⟩
      rw [List.append_nil]
      exact said seen value after ends

variable (more : Mounts Said)
include more

/-- A call, whatever it returns. -/
theorem affirms_ask {α : Type} {call : Call MockProof Finality α} {rest : α → Handler Body}
    (continues : ∀ value before, Affirms externals t (rest value) Said before) :
    Affirms externals t (ask call >>= rest) Said world := by
  refine assures_ask ((observes_any call.run).mono ?_)
  intro seen result after _
  cases result with
  | error error =>
      intro body failed
      cases failed
  | ok value =>
      dsimp only [Ends]
      refine (continues value after).mono ?_
      intro rest outcome later affirmed body returned
      exact more _ _ body _ (List.subset_append_right _ _) (affirmed body returned)

/-- The tokens are read off the record of the context. -/
theorem affirms_reachedAt {ctx : ContextId} {stage : Stage} {rest : Reached → Handler Body}
    (continues : ∀ reached before, Own ctx reached → Affirms externals t (rest reached) Said before) :
    Affirms externals t (reachedAt ctx stage >>= rest) Said world := by
  unfold reachedAt
  rw [bind_assoc]
  refine assures_ask (ensures_record fun before later => ?_)
  cases found : before.inner.records.lookup ctx with
  | none =>
      refine ensures_pure ?_
      intro body failed
      cases failed
  | some record =>
      have own := (Lifecycle.run later.reached).record_ctx found
      dsimp only
      cases read : Ledger.reachedFrom ctx record with
      | error error =>
          refine ensures_throw ?_
          intro body failed
          cases failed
      | ok reached =>
          refine ensures_pure ?_
          dsimp only [Ends]
          refine (continues reached before (reachedFrom_own own read)).mono ?_
          intro seen outcome after affirmed body returned
          exact more _ _ body _ (List.subset_append_right _ _) (affirmed body returned)

end Rules

/-- An answer that reports a step rests on it. -/
abbrev Founds (app : App) (t : Rid) (whole : Handler Body) (work : Handler Body)
    (world : World MockProof Finality) : Prop :=
  Affirms app.externals t work
    (fun seen body after => body.isStep = true → Rests app (ToldOf seen) after whole body) world

theorem rests_mounts {whole : Handler Body} :
    Mounts fun seen body after =>
      body.isStep = true → Rests app (ToldOf seen) after whole body := by
  intro fewer all body after among rests step
  exact (rests step).mono fun _ _ => ToldOf.mono among

/-- An answer that reports no step. -/
theorem founds_return {whole : Handler Body} {body : Body} (other : body.isStep = false) :
    Founds app t whole (return body) world := by
  refine affirms_return fun step => ?_
  rw [other] at step
  cases step

theorem App.Works.founds {work : Handler Body} (works : app.Works work) :
    Founds app t work work world := by
  cases works with
  | authorize mandate cart requestKey =>
      have called : Ensures app.externals t
          (app.ledger.authorize app.externals mandate cart requestKey)
          (fun _ => Ends (fun token after => mandate.verify app.externals.signatures = .ok () ∧
            ∃ event ∈ after.history,
              SameMandate mandate (attempt app.externals mandate cart requestKey) token event)
            fun _ _ => True) world := by
        refine (authorize_ensures app.ledger).mono ?_
        intro seen result after ends
        cases result with
        | error error => trivial
        | ok token =>
            obtain ⟨-, verified, event, first, stands, body⟩ | ⟨-, replayed⟩ := ends
            · obtain ⟨past, own, -⟩ := mem_changes.mp (List.mem_of_head? first)
              exact ⟨verified, event, past, own, stands, mandate, _, _, body, ReflBEq.rfl, rfl⟩
            · exact ⟨replayed.verified, replayed.rests⟩
      exact affirms_call called fun _ _ _ rests _ => .authorized rests.1 rests.2
  | payment ctx proof =>
      refine affirms_reachedAt rests_mounts fun reached before own => ?_
      rw [recordPayment_eq]
      refine affirms_call (payment_founded app.ledger reached.authorized proof) ?_
      intro seen token after founded _
      obtain ⟨rail, earned, opening, -, recorded, verified, same, told⟩ := founded
      rw [own.authorized] at earned
      exact .paid rail earned ⟨_, _, told⟩ same
  | settlement ctx reference reported =>
      refine affirms_reachedAt rests_mounts fun reached before own => affirms_earned fun paid held => ?_
      rw [recordSettlement_eq]
      refine affirms_call (settlement_founded app.ledger paid _) ?_
      intro seen value after founded step
      rw [own.paid paid held] at founded
      cases value with
      | settled token => exact .settled (founded.1 token rfl)
      | failed token => exact .settlementFailed (founded.2 token rfl)
      | pending reason => cases step
  | compensation ctx reference =>
      refine affirms_reachedAt rests_mounts fun reached before own => affirms_earned fun failed held => ?_
      rw [compensate_eq]
      refine affirms_call (compensation_founded failed reference) ?_
      intro seen token after earned _
      rw [own.settlementFailed failed held] at earned
      exact .compensated earned
  | delivery ctx receipt =>
      refine affirms_reachedAt rests_mounts fun reached before own => affirms_earned fun settled held => ?_
      rw [recordDelivery_eq]
      refine affirms_call (delivery_founded settled receipt) ?_
      intro seen token after earned _
      rw [own.settled settled held] at earned
      exact .delivered earned
  | expiry ctx =>
      refine affirms_reachedAt rests_mounts fun reached before own => ?_
      rw [expire_eq]
      refine affirms_call (expiry_founded reached.authorized) ?_
      intro seen _ after earned _
      rw [own.authorized] at earned
      exact .expired earned
  | revocation mandate => exact affirms_ask rests_mounts fun _ _ => founds_return rfl
  | status ctx =>
      refine affirms_ask rests_mounts fun found before => ?_
      cases found with
      | none => exact affirms_throw _
      | some record => exact founds_return rfl
  | evidence ctx =>
      refine affirms_ask rests_mounts fun found before => ?_
      cases found with
      | none => exact affirms_throw _
      | some bundle =>
          dsimp only
          split
          · exact founds_return rfl
          · split
            · exact founds_return rfl
            · exact affirms_throw _

end Handlers

end MandateLedger.Serve
