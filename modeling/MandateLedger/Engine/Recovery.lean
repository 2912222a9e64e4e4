import MandateLedger.Engine.Budget
import MandateLedger.Engine.Payments
import MandateLedger.Engine.Refusals

namespace MandateLedger.Engine

open MandateLedger.Core MandateLedger.Data MandateLedger.Memory MandateLedger.Process

variable {Proof Evidence α : Type}

inductive Move (Proof Evidence : Type) where
  | call (around : Surroundings Proof Evidence) (request : Request Proof Evidence)
  | prune (before : Timestamp)

namespace World

variable (externals : Externals) (world : World Proof Evidence)

def move : Move Proof Evidence → World Proof Evidence
  | .call around request => (world.complete externals around (request.program externals)).2
  | .prune before => world.prune before

def moves (moves : List (Move Proof Evidence)) : World Proof Evidence :=
  moves.foldl (move externals) world

end World

theorem Reachable.moves {externals : Externals} {world : World Proof Evidence}
    (reached : Reachable externals Set.univ
      (⟨world, fun _ : Unit => none⟩ : Config Unit (World Proof Evidence) (Op Proof Evidence)
        Op.Answer Response))
    (moves : List (Move Proof Evidence)) :
    Reachable externals Set.univ
      (⟨world.moves externals moves, fun _ : Unit => none⟩ : Config Unit (World Proof Evidence)
        (Op Proof Evidence) Op.Answer Response) := by
  induction moves generalizing world with
  | nil => exact reached
  | cons move rest ih =>
      cases move with
      | call around request =>
          exact ih (reached.serve () rfl [(around, request)] fun _ _ _ _ => Set.mem_univ _)
      | prune before => exact ih (reached.step (.env _ ⟨before, rfl⟩))

section Runs

variable (externals : Externals) (moves : List (Move Proof Evidence))

theorem moves_run :
    Traced.Reachable externals (World.empty.moves externals moves).traced ∧
      NonnegativeHistory (World.empty.moves externals moves).history := by
  obtain ⟨run, each⟩ := (reachable_kept (Reachable.moves .initial moves)).inv
  exact ⟨run, nonnegative_history each⟩

end Runs

/-- A plan that does not give up on the store and submits what the machine allows. -/
structure Plan.Sound (inner : Inner) (ctx : ContextId) (plan : Plan α) : Prop where
  uncorrupt : ∀ message, plan ≠ .corrupt message
  legal : ∀ submission, plan = .submit submission → ∀ target,
    submission.body.resultingState = some target →
      checkTransition (inner.records.lookup ctx) ctx target = .ok ()

/-- `StoreError::Corrupt` and `StoreError::IllegalTransition`. -/
def Internal (error : LedgerError) : Prop :=
  (∃ message, error = .store (.corrupt message)) ∨
    ∃ ctx source target, error = .store (.illegalTransition ctx source target)

section Sound

variable {externals : Externals} {around : Surroundings Proof Evidence} {traced : Traced}
  {ctx : ContextId}

theorem Refused.not_internal {refusal : Refusal} {error : LedgerError} {after : Traced}
    (refused : Refused ctx traced refusal error after) : ¬ Internal error := by
  cases refused <;> simp [Internal]

/-- With the releases covered, a sound plan runs into no internal error. -/
theorem Outcome.not_internal {now : Timestamp} {plan : Plan α} {result : Except LedgerError α}
    {after : Traced} (outcome : Outcome externals ctx now traced plan result after)
    (sound : plan.Sound traced.inner ctx)
    (releases : ∀ record, traced.inner.records.lookup ctx = some record →
      record.state.isLive = true → ∃ next, releaseFrom externals.decimals
        (traced.inner.reserved.lookup record.mandateId) record.mandateId record.amount = .ok next)
    {error : LedgerError} (returned : failure result = some error) : ¬ Internal error := by
  cases outcome with
  | answered value => cases returned
  | corrupt message => exact absurd rfl (sound.uncorrupt message)
  | unavailable detail =>
      cases returned
      simp [Internal]
  | refused refused =>
      cases returned
      exact refused.not_internal
  | submitted => cases returned
  | declined refuses answered refused =>
      cases returned
      exact refused.not_internal
  | @failed submission cause failed =>
      cases returned
      obtain ⟨target, moves, illegal⟩ | ⟨money, rfl⟩ | ⟨canonicalize, rfl⟩ |
        ⟨record, target, found, moves, giving, legal, given⟩ := Inner.append_error failed
      · rw [sound.legal submission rfl target moves] at illegal
        cases illegal
      · simp [Internal]
      · simp [Internal]
      · obtain ⟨next, covered⟩ := releases record found (PaymentState.isLive_of_giving legal giving).1
        rw [covered] at given
        cases given

theorem legal_of_state {record : Option Record} {state target : PaymentState}
    (current : record.map Record.state = some state)
    (legal : state.canTransitionTo target = true) : checkTransition record ctx target = .ok () := by
  obtain ⟨stored, rfl, rfl⟩ := Option.map_eq_some_iff.mp current
  exact checkTransition_eq_ok.mpr (.inr ⟨stored, rfl, legal⟩)

theorem present_corrupt {text : Option String} {message reason : String} {answer : String → α}
    (corrupt : Plan.present text message answer = .corrupt reason) : text = none := by
  cases text with
  | none => rfl
  | some text => cases corrupt

variable (lifecycle : Lifecycle traced)
include lifecycle

theorem paid_fields {record : Record} {rail : String}
    (found : traced.inner.records.lookup ctx = some record) (railed : record.rail = some rail) :
    record.paymentReference ≠ none ∧ record.idempotencyKey ≠ none := by
  obtain ⟨none, -⟩ | ⟨event, listed, token, stands, rails, references, keyed⟩ :=
    (lifecycle.provenance found).paid
  · rw [railed] at none
    cases none
  · simp [references, keyed]

theorem payment_sound (ledger : Ledger) (auth : Authorized) (proof : Proof) :
    (((payment externals ledger auth proof : Decision Proof Evidence Paid).decide
      (traced.inner.records.lookup auth.ctx)).resolve around).Sound traced.inner auth.ctx := by
  constructor
  · intro message corrupt
    cases found : traced.inner.records.lookup auth.ctx with
    | none =>
        rw [found] at corrupt
        cases corrupt
    | some record =>
        rw [found] at corrupt
        simp only [payment, Consult.resolve, paymentPlan] at corrupt
        split at corrupt
        · cases corrupt
        · cases corrupt
        · split at corrupt
          · split at corrupt
            · next same =>
                split at corrupt
                · next keyless => exact (paid_fields lifecycle found same.1).2 keyless
                · cases corrupt
            · cases corrupt
          · split at corrupt <;> cases corrupt
  · intro submission submits target moves
    obtain ⟨current, _, _, _, _, _, body, -⟩ := payment_submits submits
    rw [body] at moves
    cases moves
    exact legal_of_state current rfl

theorem settlement_sound (ledger : Ledger) (paid : Paid) (evidence : Evidence) :
    (((settlement externals ledger paid evidence : Decision Proof Evidence Settlement).decide
      (traced.inner.records.lookup paid.ctx)).resolve around).Sound traced.inner paid.ctx := by
  constructor
  · intro message corrupt
    cases found : traced.inner.records.lookup paid.ctx with
    | none =>
        rw [found] at corrupt
        cases corrupt
    | some record =>
        have settled : record.state ∈ past .settled → record.settlementReference ≠ none := by
          intro there missing
          obtain ⟨value, read⟩ := lifecycle.reads found (fun _ => Carries.settledFrom) there
          rw [Ledger.settledFrom, missing] at read
          cases read
        have failed : record.state ∈ past .settlementFailed → record.failureReason ≠ none := by
          intro there missing
          obtain ⟨value, read⟩ := lifecycle.reads found (fun _ => Carries.failedFrom) there
          rw [Ledger.failedFrom, missing] at read
          cases read
        rw [found] at corrupt
        simp only [settlement] at corrupt
        split at corrupt
        · split at corrupt
          · cases corrupt
          · next railed =>
              split at corrupt
              · next missing =>
                  exact (paid_fields lifecycle found (Decidable.not_not.mp railed)).1 missing
              · simp only [Consult.resolve, settlementPlan] at corrupt
                split at corrupt <;> cases corrupt
        · next state => exact settled (by simp [past, state]) (present_corrupt corrupt)
        · next state => exact settled (by simp [past, state]) (present_corrupt corrupt)
        · next state => exact failed (by simp [past, state]) (present_corrupt corrupt)
        · next state => exact failed (by simp [past, state]) (present_corrupt corrupt)
        · cases corrupt
        · cases corrupt
  · intro submission submits target moves
    obtain ⟨current, ⟨_, _, body, -⟩ | ⟨_, _, body, -⟩⟩ := settlement_submits submits
    · rw [body] at moves
      cases moves
      exact legal_of_state current rfl
    · rw [body] at moves
      cases moves
      exact legal_of_state current rfl

theorem delivery_sound (settled : Settled) (receipt : DeliveryReceipt) :
    (((delivery settled receipt : Decision Proof Evidence Delivered).decide
      (traced.inner.records.lookup settled.ctx)).resolve around).Sound traced.inner settled.ctx := by
  constructor
  · intro message corrupt
    cases found : traced.inner.records.lookup settled.ctx with
    | none =>
        rw [found] at corrupt
        cases corrupt
    | some record =>
        rw [found] at corrupt
        simp only [delivery] at corrupt
        split at corrupt
        · cases corrupt
        · next state =>
            obtain ⟨value, read⟩ :=
              lifecycle.reads found (fun _ => Carries.deliveredFrom) (by simp [past, state])
            rw [Ledger.deliveredFrom, present_corrupt corrupt] at read
            cases read
        · cases corrupt
  · intro submission submits target moves
    obtain ⟨current, body, -⟩ := delivery_submits submits
    rw [body] at moves
    cases moves
    exact legal_of_state current rfl

theorem authorize_sound (ledger : Ledger) (mandate : Mandate) (cart : Cart) (requestKey : String)
    (now : Timestamp) :
    (authorizePlan externals ledger mandate cart requestKey now traced.inner).Sound traced.inner
      (attempt externals mandate cart requestKey) := by
  constructor
  · intro message corrupt
    unfold authorizePlan at corrupt
    dsimp only at corrupt
    split at corrupt
    · next record found =>
        unfold replayPlan at corrupt
        split at corrupt
        · cases corrupt
        · split at corrupt
          · next missing =>
              split at corrupt
              · cases corrupt
              · next unfinished =>
                  obtain ⟨event, -, signed, cart, key, -, stored⟩ | ⟨-, terminal⟩ :=
                    lifecycle.authorizedMandate found
                  · rw [missing] at stored
                    cases stored
                  · exact unfinished terminal
          · split at corrupt
            · cases corrupt
            · split at corrupt <;> cases corrupt
    · unfold freshPlan at corrupt
      split at corrupt
      · cases corrupt
      · split at corrupt
        · cases corrupt
        · split at corrupt
          · cases corrupt
          · split at corrupt <;> cases corrupt
  · intro submission submits target moves
    obtain ⟨absent, rfl⟩ := authorize_submits submits
    cases moves
    rw [absent]
    rfl

end Sound

section Plain

variable {around : Surroundings Proof Evidence} {inner : Inner}

theorem compensation_sound (failed : SettlementFailed) (reference : Option String) :
    (((compensation failed reference : Decision Proof Evidence Compensated).decide
      (inner.records.lookup failed.ctx)).resolve around).Sound inner failed.ctx := by
  constructor
  · intro message corrupt
    cases found : inner.records.lookup failed.ctx with
    | none =>
        rw [found] at corrupt
        cases corrupt
    | some record =>
        rw [found] at corrupt
        simp only [compensation] at corrupt
        split at corrupt <;> cases corrupt
  · intro submission submits target moves
    obtain ⟨current, body, -⟩ := compensation_submits submits
    rw [body] at moves
    cases moves
    exact legal_of_state current rfl

theorem expiry_sound (auth : Authorized) :
    (((expiry auth : Decision Proof Evidence Unit).decide
      (inner.records.lookup auth.ctx)).resolve around).Sound inner auth.ctx := by
  constructor
  · intro message corrupt
    cases found : inner.records.lookup auth.ctx with
    | none =>
        rw [found] at corrupt
        cases corrupt
    | some record =>
        rw [found] at corrupt
        simp only [expiry] at corrupt
        split at corrupt <;> cases corrupt
  · intro submission submits target moves
    obtain ⟨current, body⟩ := expiry_submits submits
    rw [body] at moves
    cases moves
    exact legal_of_state current rfl

end Plain

/-- The response carries the token of a state-changing event. -/
def Stands (response : Response) (event : Event) : Prop :=
  match event.body with
  | .authorized .. => ∃ token, response = .authorize (.ok token) ∧ authorizedToken event = some token
  | .paid .. => ∃ token, response = .recordPayment (.ok token) ∧ paidToken event = some token
  | .settled .. =>
      ∃ token, response = .recordSettlement (.ok (.settled token)) ∧ settledToken event = some token
  | .settlementFailed .. =>
      ∃ token, response = .recordSettlement (.ok (.failed token)) ∧ failedToken event = some token
  | .compensated _ =>
      ∃ token, response = .compensate (.ok token) ∧ compensatedToken event = some token
  | .delivered _ =>
      ∃ token, response = .recordDelivery (.ok token) ∧ deliveredToken event = some token
  | .expired => response = .expire (.ok ())
  | .denied .. => True

/-- A call writes at most one event, and returns its token. -/
def Told (before after : List Event) (response : Response) : Prop :=
  after = before ∨ ∃ event, after = before ++ [event] ∧ Stands response event

theorem Outcome.told {externals : Externals} {ctx : ContextId} {now : Timestamp}
    {before after : Traced} {plan : Plan α} {result : Except LedgerError α}
    {respond : Except LedgerError α → Response}
    (outcome : Outcome externals ctx now before plan result after)
    (stands : ∀ submission event, plan = .submit submission → event.body = submission.body →
      event.ctx = ctx → Stands (respond (.ok submission.value)) event) :
    Told before.history after.history (respond result) := by
  have refusal : ∀ {refusal error response}, Refused ctx before refusal error after →
      Told before.history after.history response := by
    intro refusal error response refused
    cases refused with
    | recorded uncapped own body =>
        refine .inr ⟨_, rfl, ?_⟩
        rw [Stands, body]
        trivial
    | capped full => exact .inl rfl
    | failed cause => exact .inl rfl
  cases outcome with
  | answered value => exact .inl rfl
  | corrupt message => exact .inl rfl
  | unavailable detail => exact .inl rfl
  | refused refused => exact refusal refused
  | declined refuses answered refused => exact refusal refused
  | failed failed => exact .inl rfl
  | @submitted submission logged tables writes built =>
      obtain ⟨-, own, -, -, body, -⟩ := Event.new_eq_ok built
      exact .inr ⟨logged, rfl, stands submission logged rfl body own⟩

section Told

variable {externals : Externals} {world : World Proof Evidence}

theorem complete_told (around : Surroundings Proof Evidence) (run : Traced.Reachable externals world.traced)
    (request : Request Proof Evidence) :
    Told world.history (world.complete externals around (request.program externals)).2.history
      (world.complete externals around (request.program externals)).1 := by
  cases request with
  | authorize ledger mandate cart requestKey =>
      rw [Request.program, World.complete_respond]
      refine (world.complete_authorize externals around ledger mandate cart requestKey).told ?_
      intro submission event submits body own
      obtain ⟨-, rfl⟩ := authorize_submits submits
      have content : event.body = .authorized mandate (cart.snapshot externals.sha256) requestKey :=
        body
      rw [Stands, content]
      exact ⟨_, rfl, by rw [authorizedToken, content, own]; rfl⟩
  | recordPayment ledger auth proof =>
      rw [Request.program, World.complete_respond, recordPayment_eq]
      refine (world.complete_decision externals around (payment externals ledger auth proof)).told ?_
      intro submission event submits body own
      obtain ⟨-, rail, reference, nonce, amount, key, content, value, -⟩ := payment_submits submits
      rw [content] at body
      rw [value, Stands, body]
      exact ⟨_, rfl, by simp [paidToken, body, own, payment]⟩
  | recordSettlement ledger paid evidence =>
      rw [Request.program, World.complete_respond, recordSettlement_eq]
      refine (world.complete_decision externals around
        (settlement externals ledger paid evidence)).told ?_
      intro submission event submits body own
      obtain ⟨-, ⟨rail, reference, content, value⟩ | ⟨rail, reason, content, value⟩⟩ :=
        settlement_submits submits
      · rw [content] at body
        rw [value, Stands, body]
        exact ⟨_, rfl, by simp [settledToken, body, own, settlement]⟩
      · rw [content] at body
        rw [value, Stands, body]
        exact ⟨_, rfl, by simp [failedToken, body, own, settlement]⟩
  | compensate failed reference =>
      rw [Request.program, World.complete_respond, compensate_eq]
      refine (world.complete_decision externals around (compensation failed reference)).told ?_
      intro submission event submits body own
      obtain ⟨-, content, value⟩ := compensation_submits submits
      rw [content] at body
      rw [value, Stands, body]
      exact ⟨_, rfl, by simp [compensatedToken, body, own, compensation]⟩
  | expire auth =>
      rw [Request.program, World.complete_respond, expire_eq]
      refine (world.complete_decision externals around (expiry auth)).told ?_
      intro submission event submits body own
      obtain ⟨-, content⟩ := expiry_submits submits
      rw [content] at body
      rw [Stands, body]
  | recordDelivery settled receipt =>
      rw [Request.program, World.complete_respond, recordDelivery_eq]
      refine (world.complete_decision externals around (delivery settled receipt)).told ?_
      intro submission event submits body own
      obtain ⟨-, content, value⟩ := delivery_submits submits
      rw [content] at body
      rw [value, Stands, body]
      exact ⟨_, rfl, by simp [deliveredToken, body, own, delivery]⟩
  | resume ctx =>
      obtain ⟨-, ⟨resumed, looks⟩, -⟩ := world.complete_queries externals around run ctx
      rw [Request.program, World.complete_respond, looks]
      exact .inl rfl
  | reached ctx =>
      obtain ⟨⟨reached, looks⟩, -⟩ := world.complete_queries externals around run ctx
      rw [Request.program, World.complete_respond, looks]
      exact .inl rfl
  | evidence ctx =>
      obtain ⟨-, -, ⟨bundle, looks⟩⟩ := world.complete_queries externals around run ctx
      rw [Request.program, World.complete_respond, looks]
      exact .inl rfl
  | revoke mandate => exact .inl rfl

theorem World.moves_concat (moves : List (Move Proof Evidence)) (last : Move Proof Evidence) :
    world.moves externals (moves ++ [last]) = (world.moves externals moves).move externals last := by
  simp [World.moves]

/-- A call of the run wrote the event after `front`, and returned its token. -/
def WrittenBy (externals : Externals) (moves : List (Move Proof Evidence)) (front : List Event)
    (event : Event) (told : Response → Prop) : Prop :=
  ∃ earlier around request later, moves = earlier ++ .call around request :: later ∧
    (World.empty.moves externals earlier).history = front ∧
    ((World.empty.moves externals earlier).complete externals around
      (request.program externals)).2.history = front ++ [event] ∧
    told ((World.empty.moves externals earlier).complete externals around
      (request.program externals)).1

/-- Every event of a run was written by one of its calls. -/
theorem moves_told (moves : List (Move Proof Evidence)) {front back : List Event} {event : Event}
    (split : (World.empty.moves externals moves).history = front ++ event :: back) :
    WrittenBy externals moves front event (Stands · event) := by
  induction moves using List.reverseRecOn generalizing back with
  | nil => simp [World.moves, World.empty, World.history] at split
  | append_singleton moves last ih =>
      have before : ∀ {rest}, (World.empty.moves externals moves).history = front ++ event :: rest →
          WrittenBy externals (moves ++ [last]) front event (Stands · event) := by
        intro rest held
        obtain ⟨earlier, around, request, later, same, wrote⟩ := ih held
        exact ⟨earlier, around, request, later ++ [last], by simp [same], wrote⟩
      rw [World.moves_concat] at split
      cases last with
      | prune horizon => exact before split
      | call around request =>
          obtain same | ⟨written, grown, stands⟩ :=
            complete_told around (moves_run externals moves).1 request
          · exact before (same.symm.trans split)
          · have ends := grown.symm.trans split
            obtain rfl | ⟨rest, final, rfl⟩ := List.eq_nil_or_concat' back
            · obtain ⟨rfl, wrote⟩ := List.append_inj' ends rfl
              cases wrote
              exact ⟨moves, around, request, [], rfl, rfl, grown, stands⟩
            · rw [← List.cons_append, ← List.append_assoc] at ends
              exact before (List.append_inj' ends rfl).1

end Told

/-- What the call that wrote an event returned is what `reached` hands out. -/
def Returned (response : Response) (reached : Reached) (event : Event) : Prop :=
  match event.body with
  | .authorized .. => response = .authorize (.ok reached.authorized)
  | .paid .. => ∃ token, response = .recordPayment (.ok token) ∧ reached.paid = some token
  | .settled .. =>
      ∃ token, response = .recordSettlement (.ok (.settled token)) ∧ reached.settled = some token
  | .settlementFailed .. =>
      ∃ token, response = .recordSettlement (.ok (.failed token)) ∧
        reached.settlementFailed = some token
  | .compensated _ => ∃ token, response = .compensate (.ok token) ∧ reached.compensated = some token
  | .delivered _ => ∃ token, response = .recordDelivery (.ok token) ∧ reached.delivered = some token
  | .expired => response = .expire (.ok ()) ∧ reached.expired = true
  | .denied .. => True

theorem Stands.returned {response : Response} {reached : Reached} {events : List Event}
    {event : Event} (stands : Stands response event) (recovers : Recovers events reached)
    (listed : event.body.resultingState.isSome = true → event ∈ events) :
    Returned response reached event := by
  unfold Stands at stands
  unfold Returned
  cases body : event.body with
  | denied => trivial
  | expired =>
      rw [body] at stands listed
      exact ⟨stands, recovers.expired.mpr
        (List.mem_filterMap.mpr ⟨event, listed rfl, by rw [body]; rfl⟩)⟩
  | authorized =>
      rw [body] at stands listed
      obtain ⟨token, returned, held⟩ := stands
      rw [recovers.authorized event (listed rfl) (by rw [body]; rfl)] at held
      cases held
      exact returned
  | paid =>
      rw [body] at stands listed
      obtain ⟨token, returned, held⟩ := stands
      exact ⟨token, returned, (recovers.paid.2 event (listed rfl) (by rw [body]; rfl)).trans held⟩
  | settled =>
      rw [body] at stands listed
      obtain ⟨token, returned, held⟩ := stands
      exact ⟨token, returned, (recovers.settled.2 event (listed rfl) (by rw [body]; rfl)).trans held⟩
  | settlementFailed =>
      rw [body] at stands listed
      obtain ⟨token, returned, held⟩ := stands
      exact ⟨token, returned,
        (recovers.settlementFailed.2 event (listed rfl) (by rw [body]; rfl)).trans held⟩
  | compensated =>
      rw [body] at stands listed
      obtain ⟨token, returned, held⟩ := stands
      exact ⟨token, returned,
        (recovers.compensated.2 event (listed rfl) (by rw [body]; rfl)).trans held⟩
  | delivered =>
      rw [body] at stands listed
      obtain ⟨token, returned, held⟩ := stands
      exact ⟨token, returned,
        (recovers.delivered.2 event (listed rfl) (by rw [body]; rfl)).trans held⟩

section Recovery

variable {externals : Externals} (moves : List (Move Proof Evidence))

/-- No call after the run returns an internal error. -/
theorem complete_not_internal (exact : externals.decimals.Exact)
    (around : Surroundings Proof Evidence) (request : Request Proof Evidence) {error : LedgerError}
    (returned : responseError ((World.empty.moves externals moves).complete externals around
      (request.program externals)).1 = some error) : ¬ Internal error := by
  obtain ⟨run, nonnegative⟩ := moves_run externals moves
  have lifecycle := Lifecycle.run run
  have releases : ∀ ctx record,
      (World.empty.moves externals moves).inner.records.lookup ctx = some record →
      record.state.isLive = true → ∃ next, releaseFrom externals.decimals
        ((World.empty.moves externals moves).inner.reserved.lookup record.mandateId)
        record.mandateId record.amount = .ok next := by
    intro ctx record found live
    have budget := Budget.run exact run
    exact releaseFrom_backed exact budget.total budget.currency le_of_eq
      (fun _ _ => lifecycle.nonnegative_record nonnegative) found live
  cases request with
  | authorize ledger mandate cart requestKey =>
      rw [Request.program, World.complete_respond] at returned
      exact (World.complete_authorize externals _ around ledger mandate cart requestKey).not_internal
        (authorize_sound lifecycle ledger mandate cart requestKey _) (releases _) returned
  | recordPayment ledger auth proof =>
      rw [Request.program, World.complete_respond, recordPayment_eq] at returned
      exact (World.complete_decision externals _ around
        (payment externals ledger auth proof)).not_internal
        (payment_sound lifecycle ledger auth proof) (releases _) returned
  | recordSettlement ledger paid evidence =>
      rw [Request.program, World.complete_respond, recordSettlement_eq] at returned
      exact (World.complete_decision externals _ around
        (settlement externals ledger paid evidence)).not_internal
        (settlement_sound lifecycle ledger paid evidence) (releases _) returned
  | compensate failed reference =>
      rw [Request.program, World.complete_respond, compensate_eq] at returned
      exact (World.complete_decision externals _ around (compensation failed reference)).not_internal
        (compensation_sound failed reference) (releases _) returned
  | expire auth =>
      rw [Request.program, World.complete_respond, expire_eq] at returned
      exact (World.complete_decision externals _ around (expiry auth)).not_internal
        (expiry_sound auth) (releases _) returned
  | recordDelivery settled receipt =>
      rw [Request.program, World.complete_respond, recordDelivery_eq] at returned
      exact (World.complete_decision externals _ around (delivery settled receipt)).not_internal
        (delivery_sound lifecycle settled receipt) (releases _) returned
  | resume ctx =>
      obtain ⟨-, ⟨resumed, looks⟩, -⟩ := World.complete_queries externals _ around run ctx
      rw [Request.program, World.complete_respond, looks] at returned
      cases returned
  | reached ctx =>
      obtain ⟨⟨reached, looks⟩, -⟩ := World.complete_queries externals _ around run ctx
      rw [Request.program, World.complete_respond, looks] at returned
      cases returned
  | evidence ctx =>
      obtain ⟨-, -, ⟨bundle, looks⟩⟩ := World.complete_queries externals _ around run ctx
      rw [Request.program, World.complete_respond, looks] at returned
      cases returned
  | revoke mandate => cases returned

structure Recoverable (externals : Externals) (moves : List (Move Proof Evidence)) : Prop where
  tokens : ∀ ctx record around,
    (World.empty.moves externals moves).inner.records.lookup ctx = some record →
    ∃ reached resumed,
      (World.empty.moves externals moves).complete externals around (Ledger.reached ctx).run =
        (.ok (some reached), World.empty.moves externals moves) ∧
      (World.empty.moves externals moves).complete externals around (Ledger.resume ctx).run =
        (.ok (some resumed), World.empty.moves externals moves) ∧
      Recovers (changes ctx (World.empty.moves externals moves).history) reached ∧
      (states (changes ctx (World.empty.moves externals moves).history)).getLast? =
        some reached.state ∧
      Latest ctx reached resumed ∧
      ∀ front event back,
        (World.empty.moves externals moves).history = front ++ event :: back → event.ctx = ctx →
          WrittenBy externals moves front event fun response => Returned response reached event
  sound : ∀ around request error,
    responseError ((World.empty.moves externals moves).complete externals around
      (Request.program externals request)).1 = some error → ¬ Internal error

theorem moves_recoverable (exact : externals.decimals.Exact) : Recoverable externals moves := by
  refine ⟨?_, fun around request _ => complete_not_internal moves exact around request⟩
  intro ctx record around found
  have lifecycle := Lifecycle.run (moves_run externals moves).1
  obtain ⟨reached, read, current, recovers⟩ := lifecycle.recovers found
  obtain ⟨resumed, resumes, latest⟩ := resumedFrom_latest read
  have last : (some record).map Record.state = _ := found ▸ (lifecycle.contexts ctx).current
  rw [Option.map_some, ← current] at last
  refine ⟨reached, resumed, World.complete_reached externals _ around found read,
    World.complete_resume externals _ around found resumes, recovers, last.symm, latest, ?_⟩
  intro front event back split own
  obtain ⟨earlier, around, request, later, same, before, after, stands⟩ := moves_told moves split
  refine ⟨earlier, around, request, later, same, before, after, stands.returned recovers ?_⟩
  intro changes
  have past : event ∈ (World.empty.moves externals moves).history := by
    rw [split]
    exact List.mem_append_right _ List.mem_cons_self
  exact mem_changes.mpr ⟨past, own, changes⟩

def prunedPurchase : List (Move Adapters.MockProof Adapters.MockFinality) :=
  samplePayment.map (fun call => .call (Adapters.Sample.rail.surroundings ⟨call.1⟩) call.2) ++
    [ .call (Adapters.Sample.rail.surroundings ⟨13⟩)
        (.recordDelivery ⟨Sample.firstCtx, "pay-1@3"⟩ ⟨"parcel-7", .agentReported⟩),
      .prune ⟨20⟩ ]

theorem prunedPurchase_recoverable :
    Sample.externals.decimals.Exact ∧
      ((World.empty.moves Sample.externals prunedPurchase).inner.records.lookup
        Sample.firstCtx).map Record.state = some .delivered ∧
      (World.empty.moves Sample.externals prunedPurchase).inner.events = [] ∧
      Recoverable Sample.externals prunedPurchase :=
  ⟨DecimalOps.aligned_exact, by decide +kernel, by decide +kernel,
    moves_recoverable prunedPurchase DecimalOps.aligned_exact⟩

end Recovery

end MandateLedger.Engine
