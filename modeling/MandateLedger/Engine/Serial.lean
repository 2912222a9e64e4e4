import MandateLedger.Engine.Plans
import MandateLedger.Memory.Chains
import MandateLedger.Memory.Tokens

namespace MandateLedger.Engine

open MandateLedger.Core MandateLedger.Data MandateLedger.Memory MandateLedger.Process

variable {Proof Evidence α : Type}

inductive Refused (ctx : ContextId) (before : Traced) (refusal : Refusal) :
    LedgerError → Traced → Prop where
  | recorded {event : Event} (uncapped : before.inner.denials ctx < denialCap)
      (own : event.ctx = ctx)
      (body : event.body = .denied refusal.stage refusal.reason refusal.detail) :
      Refused ctx before refusal
        (.denied ⟨ctx, refusal.stage, refusal.reason, refusal.detail, true⟩)
        ⟨before.inner.log event, before.history ++ [event]⟩
  | capped (full : denialCap ≤ before.inner.denials ctx) :
      Refused ctx before refusal
        (.denied ⟨ctx, refusal.stage, refusal.reason, refusal.detail, false⟩) before
  | failed (cause : CanonicalizeError) :
      Refused ctx before refusal (.store (.canonicalize cause)) before

inductive Outcome (externals : Externals) (ctx : ContextId) (now : Timestamp) (before : Traced) :
    Plan α → Except LedgerError α → Traced → Prop where
  | answered (value : α) : Outcome externals ctx now before (.answer value) (.ok value) before
  | corrupt (message : String) :
      Outcome externals ctx now before (.corrupt message) (.error (.corrupt message)) before
  | unavailable (detail : String) :
      Outcome externals ctx now before (.unavailable detail) (.error (.railUnavailable detail)) before
  | refused {refusal : Refusal} {error : LedgerError} {after : Traced}
      (refused : Refused ctx before refusal error after) :
      Outcome externals ctx now before (.refuse refusal) (.error error) after
  | submitted {submission : Submission α} {event : Event} {tables : Inner}
      (writes : before.inner.Writes externals.decimals ctx now submission.body tables)
      (built : Event.new externals (before.inner.prevHash ctx) (before.inner.lastSeq + 1) ctx now
        submission.body = .ok event) :
      Outcome externals ctx now before (.submit submission) (.ok submission.value)
        ⟨tables.log event, before.history ++ [event]⟩
  | declined {submission : Submission α} {outcome : AppendOutcome} {refusal : Refusal}
      {error : LedgerError} {after : Traced}
      (refuses : outcome.refuses submission.body = true)
      (answered : submission.refused outcome = .ok refusal)
      (refused : Refused ctx before refusal error after) :
      Outcome externals ctx now before (.submit submission) (.error error) after
  | failed {submission : Submission α} {error : StoreError}
      (failed : before.inner.append externals ctx now submission.body =
        (.error error, before.inner)) :
      Outcome externals ctx now before (.submit submission) (.error (.store error)) before

namespace World

variable {externals : Externals} {world : World Proof Evidence}
  {around : Surroundings Proof Evidence} {ctx : ContextId} {now : Timestamp}

theorem append_cases (externals : Externals) (world : World Proof Evidence) (ctx : ContextId)
    (now : Timestamp) (body : EventBody) :
    (∃ error, world.append externals ctx now body = (.error error, world) ∧
      world.inner.append externals ctx now body = (.error error, world.inner)) ∨
    (∃ outcome, world.append externals ctx now body = (.ok outcome, world) ∧
      outcome.refuses body = true) ∨
    ∃ event tables, world.inner.Writes externals.decimals ctx now body tables ∧
      Event.new externals (world.inner.prevHash ctx) (world.inner.lastSeq + 1) ctx now body =
        .ok event ∧
      world.append externals ctx now body =
        (.ok (.appended event), ⟨tables.log event, world.acts ++ [.appended event]⟩) := by
  unfold append
  obtain ⟨result, appended, refusal⟩ | ⟨event, tables, writes, built, appended⟩ :=
    world.inner.append_cases externals ctx now body
  · have same : (⟨world.inner, world.acts ++ ((appendedEvent result).map Act.appended).toList⟩ :
        World Proof Evidence) = world := by
      simp [appendedEvent_of_refusal refusal]
    cases result with
    | error error => exact .inl ⟨error, by simp [appended, same], appended⟩
    | ok outcome => exact .inr (.inl ⟨outcome, by simp [appended, same], refusal outcome rfl⟩)
  · exact .inr (.inr ⟨event, tables, writes, built, by rw [appended]; rfl⟩)

theorem traced_append (world : World Proof Evidence) (inner : Inner) (event : Event) :
    (⟨inner, world.acts ++ [.appended event]⟩ : World Proof Evidence).traced =
      ⟨inner, world.history ++ [event]⟩ := by
  simp [traced, history, Act.event?]

@[simp] theorem complete_append (body : EventBody) :
    world.complete externals around (Ledger.append ctx now body).run =
      (((world.append externals ctx now body).1.mapError .store :
        Except LedgerError AppendOutcome), (world.append externals ctx now body).2) := rfl

theorem complete_refusal (externals : Externals) (world : World Proof Evidence)
    (around : Surroundings Proof Evidence) (α : Type) (ctx : ContextId) (now : Timestamp)
    (refusal : Refusal) :
    ∃ error, (world.complete externals around
        (Plan.deny ctx now refusal : Call Proof Evidence α).run).1 = .error error ∧
      Refused ctx world.traced refusal error
        (world.complete externals around
          (Plan.deny ctx now refusal : Call Proof Evidence α).run).2.traced := by
  unfold Plan.deny Ledger.deny
  rw [complete_bind, complete_append]
  obtain ⟨full, appended⟩ | ⟨uncapped, ⟨cause, appended⟩ | ⟨event, built, appended⟩⟩ :=
    world.inner.append_denied externals ctx now refusal.stage refusal.reason refusal.detail
  · have answered : world.append externals ctx now
        (.denied refusal.stage refusal.reason refusal.detail) = (.ok .denialsCapped, world) := by
      simp [append, appended, appendedEvent]
    rw [answered]
    exact ⟨_, rfl, .capped full⟩
  · have answered : world.append externals ctx now
        (.denied refusal.stage refusal.reason refusal.detail) =
        (.error (.canonicalize cause), world) := by
      simp [append, appended, appendedEvent]
    rw [answered]
    exact ⟨_, rfl, .failed cause⟩
  · have answered : world.append externals ctx now
        (.denied refusal.stage refusal.reason refusal.detail) =
        (.ok (.appended event),
          ⟨world.inner.log event, world.acts ++ [.appended event]⟩) := by
      simp [append, appended, appendedEvent]
    obtain ⟨-, own, -, -, body, -⟩ := Event.new_eq_ok built
    rw [answered]
    refine ⟨_, rfl, ?_⟩
    dsimp only [mapError_ok, mapError_error]
    rw [complete_throw, traced_append]
    exact .recorded uncapped own body

theorem complete_plan (externals : Externals) (world : World Proof Evidence)
    (around : Surroundings Proof Evidence) (ctx : ContextId) (now : Timestamp) (plan : Plan α) :
    Outcome externals ctx now world.traced plan
      (world.complete externals around (plan.call ctx now : Call Proof Evidence α).run).1
      (world.complete externals around (plan.call ctx now : Call Proof Evidence α).run).2.traced := by
  cases plan with
  | answer value => exact .answered value
  | corrupt message => exact .corrupt message
  | unavailable detail => exact .unavailable detail
  | refuse refusal =>
      obtain ⟨error, returned, refused⟩ :=
        complete_refusal externals world around α ctx now refusal
      change Outcome _ _ _ _ _ (world.complete externals around (Plan.deny ctx now refusal).run).1 _
      rw [returned]
      exact .refused refused
  | submit submission =>
      rw [Plan.call, complete_bind, complete_append]
      obtain ⟨error, answered, failed⟩ | ⟨outcome, answered, refuses⟩ |
        ⟨event, tables, writes, built, answered⟩ :=
        world.append_cases externals ctx now submission.body
      · rw [answered]
        exact .failed failed
      · obtain ⟨refusal, handled⟩ := submission.handled outcome refuses
        obtain ⟨error, returned, refused⟩ :=
          complete_refusal externals world around α ctx now refusal
        rw [answered]
        dsimp only [mapError_ok, mapError_error]
        rw [Plan.conclude_refused refuses handled, returned]
        exact .declined refuses handled refused
      · rw [answered]
        dsimp only [mapError_ok, mapError_error, Plan.conclude]
        rw [complete_pure, traced_append]
        exact .submitted writes built

end World

/-- The plan, once the rail has answered. -/
def Consult.resolve (around : Surroundings Proof Evidence) : Consult Proof Evidence α → Plan α
  | .outright plan => plan
  | .verify rail proof expected next => next (around.verify rail proof expected)
  | .judge rail evidence expected next => next (around.judge rail evidence expected)

namespace World

variable (externals : Externals) (world : World Proof Evidence)
  (around : Surroundings Proof Evidence)

theorem complete_decision (decision : Decision Proof Evidence α) :
    Outcome externals decision.ctx around.now world.traced
      ((decision.decide (world.inner.records.lookup decision.ctx)).resolve around)
      (world.complete externals around decision.call.run).1
      (world.complete externals around decision.call.run).2.traced := by
  rw [Decision.call, complete_bind, complete_now]
  dsimp only
  rw [complete_bind, complete_record]
  dsimp only
  cases decision.decide (world.inner.records.lookup decision.ctx) with
  | outright plan => exact complete_plan externals world around decision.ctx around.now plan
  | verify rail proof expected next =>
      have planned := complete_plan externals
        (world.saw (.verified rail proof expected (around.verify rail proof expected))) around
        decision.ctx around.now (next (around.verify rail proof expected))
      rw [traced_saw rfl] at planned
      exact planned
  | judge rail evidence expected next =>
      have planned := complete_plan externals
        (world.saw (.judged rail evidence expected (around.judge rail evidence expected))) around
        decision.ctx around.now (next (around.judge rail evidence expected))
      rw [traced_saw rfl] at planned
      exact planned

theorem complete_replay (ctx : ContextId) (now : Timestamp) (record : Record) (mandate : Mandate) :
    world.complete externals around (Ledger.replay externals ctx now record mandate).run =
      world.complete externals around
        ((replayPlan externals record mandate (world.inner.authorizedMandate ctx)).call ctx now).run := by
  unfold Ledger.replay replayPlan
  cases mandate.verify externals.signatures with
  | error error => rfl
  | ok verified =>
      have read : world.complete externals around (Ledger.authorizedMandate ctx).run =
        (.ok (world.inner.authorizedMandate ctx), world) := rfl
      dsimp only
      rw [complete_bind, read]
      cases world.inner.authorizedMandate ctx with
      | none =>
          dsimp only
          split <;> rfl
      | some stored =>
          dsimp only
          split
          · rfl
          · split <;> rfl

/-- Alone, the append of an authorization cannot lose a race. -/
theorem complete_submitAuthorized {ctx : ContextId} {now : Timestamp} {mandate : Mandate}
    {cart : Cart} {requestKey : String} (absent : world.inner.records.lookup ctx = none) :
    world.complete externals around
        (Ledger.submitAuthorized externals ctx now mandate cart requestKey).run =
      world.complete externals around
        ((Plan.submit (authorizedSubmission externals ctx mandate cart requestKey)).call ctx now).run := by
  have read : world.complete externals around (Ledger.tryAppend ctx now
      (.authorized mandate (cart.snapshot externals.sha256) requestKey)).run =
      (.ok (world.append externals ctx now
        (.authorized mandate (cart.snapshot externals.sha256) requestKey)).1,
        (world.append externals ctx now
          (.authorized mandate (cart.snapshot externals.sha256) requestKey)).2) := rfl
  rw [Ledger.submitAuthorized, Plan.call, complete_bind, complete_bind, complete_append, read]
  dsimp only [authorizedSubmission]
  obtain ⟨error, answered, failed⟩ | ⟨outcome, answered, refuses⟩ |
      ⟨event, tables, writes, built, answered⟩ :=
    world.append_cases externals ctx now
      (.authorized mandate (cart.snapshot externals.sha256) requestKey)
  · rw [answered]
    dsimp only [mapError_ok, mapError_error]
    obtain ⟨target, moves, illegal⟩ | ⟨cause, rfl⟩ | ⟨cause, rfl⟩ |
      ⟨record, target, found, -⟩ := Inner.append_error failed
    · cases moves
      rw [absent] at illegal
      cases illegal
    · rfl
    · rfl
    · rw [absent] at found
      cases found
  · rw [answered]
    cases outcome <;> rfl
  · rw [answered]
    rfl

theorem complete_fresh {ledger : Ledger} {ctx : ContextId} {now : Timestamp} {mandate : Mandate}
    {cart : Cart} {requestKey : String} (absent : world.inner.records.lookup ctx = none) :
    world.complete externals around
        (ledger.authorizeFresh externals ctx now mandate cart requestKey).run =
      world.complete externals around
        ((freshPlan externals ledger ctx now mandate cart requestKey
          (decide (mandate.id ∈ world.inner.revoked))).call ctx now).run := by
  unfold Ledger.authorizeFresh freshPlan
  cases mandate.verify externals.signatures with
  | error error => rfl
  | ok verified =>
      have read : world.complete externals around (Ledger.isRevoked mandate.id).run =
        (.ok (decide (mandate.id ∈ world.inner.revoked)), world) := rfl
      dsimp only
      split
      · rfl
      · rw [complete_bind, read]
        dsimp only
        split
        · rfl
        · cases mandate.body.scope.admits cart.claims cart.attestation now with
          | error refusal => rfl
          | ok admitted => exact complete_submitAuthorized externals world around absent

theorem complete_authorize_eq (ledger : Ledger) (mandate : Mandate) (cart : Cart)
    (requestKey : String) :
    world.complete externals around (ledger.authorize externals mandate cart requestKey).run =
      world.complete externals around
        ((authorizePlan externals ledger mandate cart requestKey around.now world.inner).call
          (attempt externals mandate cart requestKey) around.now).run := by
  unfold authorizePlan
  rw [Ledger.authorize, complete_bind, complete_now]
  dsimp only
  rw [complete_bind, complete_record]
  dsimp only [attempt]
  cases found : world.inner.records.lookup (ContextId.derive externals.sha256 mandate.id
      (cart.hash externals.sha256) requestKey) with
  | some record =>
      dsimp only
      rw [complete_replay]
  | none =>
      dsimp only
      rw [complete_fresh externals world around found]

theorem complete_authorize (ledger : Ledger) (mandate : Mandate) (cart : Cart)
    (requestKey : String) :
    Outcome externals (attempt externals mandate cart requestKey) around.now world.traced
      (authorizePlan externals ledger mandate cart requestKey around.now world.inner)
      (world.complete externals around (ledger.authorize externals mandate cart requestKey).run).1
      (world.complete externals around
        (ledger.authorize externals mandate cart requestKey).run).2.traced := by
  rw [complete_authorize_eq]
  exact complete_plan externals world around (attempt externals mandate cart requestKey)
    around.now (authorizePlan externals ledger mandate cart requestKey around.now world.inner)

theorem complete_reached {ctx : ContextId} {record : Record} {reached : Reached}
    (found : world.inner.records.lookup ctx = some record)
    (read : Ledger.reachedFrom ctx record = .ok reached) :
    world.complete externals around (Ledger.reached ctx).run = (.ok (some reached), world) := by
  rw [Ledger.reached, complete_bind, complete_record, found]
  dsimp only
  rw [read]
  rfl

theorem complete_resume {ctx : ContextId} {record : Record} {resumed : Resumed}
    (found : world.inner.records.lookup ctx = some record)
    (read : Ledger.resumedFrom ctx record = .ok resumed) :
    world.complete externals around (Ledger.resume ctx).run = (.ok (some resumed), world) := by
  rw [Ledger.resume, complete_bind, complete_record, found]
  dsimp only
  rw [read]
  rfl

/-- The queries answer in every state of the store's runs. -/
theorem complete_queries (run : Traced.Reachable externals world.traced) (ctx : ContextId) :
    (∃ reached, world.complete externals around (Ledger.reached ctx).run = (.ok reached, world)) ∧
      (∃ resumed, world.complete externals around (Ledger.resume ctx).run = (.ok resumed, world)) ∧
      ∃ bundle, world.complete externals around (Ledger.evidence ctx).run = (.ok bundle, world) := by
  refine ⟨?_, ?_, ?_⟩
  · cases found : world.inner.records.lookup ctx with
    | none =>
        refine ⟨none, ?_⟩
        rw [Ledger.reached, complete_bind, complete_record, found]
        rfl
    | some record =>
        obtain ⟨reached, read, -⟩ := (Lifecycle.run run).recovers found
        exact ⟨_, complete_reached externals world around found read⟩
  · cases found : world.inner.records.lookup ctx with
    | none =>
        refine ⟨none, ?_⟩
        rw [Ledger.resume, complete_bind, complete_record, found]
        rfl
    | some record =>
        obtain ⟨reached, read, -⟩ := (Lifecycle.run run).recovers found
        obtain ⟨resumed, resumes, -⟩ := resumedFrom_latest read
        exact ⟨_, complete_resume externals world around found resumes⟩
  · have events : world.complete externals around (Ledger.events ctx).run =
        (.ok (world.inner.chain ctx), world) := rfl
    rw [Ledger.evidence, complete_bind, events]
    dsimp only
    split
    · exact ⟨none, rfl⟩
    · exact ⟨_, rfl⟩

end World

section Submits

variable {externals : Externals} {around : Surroundings Proof Evidence} {record : Option Record}

theorem present_submits {text : Option String} {message : String} {answer : String → α}
    {submission : Submission α} : Plan.present text message answer ≠ .submit submission := by
  intro same
  cases text <;> cases same

theorem payment_submits {ledger : Ledger} {auth : Authorized} {proof : Proof}
    {submission : Submission Paid}
    (submits : ((payment externals ledger auth proof :
      Decision Proof Evidence Paid).decide record).resolve around = .submit submission) :
    record.map Record.state = some .authorized ∧
      ∃ rail reference nonce amount key,
        submission.body = .paid rail reference nonce amount key ∧
          submission.value = ⟨auth.ctx, rail, reference, key⟩ ∧ rail = ledger.railId ∧
          ∃ found verified, record = some found ∧ verified.reference = reference ∧
            around.verify rail proof (Ledger.paymentExpectation auth.ctx found) = .ok verified := by
  cases record with
  | none => cases submits
  | some record =>
      simp only [payment, Consult.resolve, paymentPlan] at submits
      split at submits
      · cases submits
      · cases submits
      · next verified answered =>
          split at submits
          · split at submits
            · split at submits <;> cases submits
            · cases submits
          · next opened =>
              split at submits
              · cases submits
              · cases submits
                exact ⟨congrArg some (Decidable.not_not.mp opened), _, _, _, _, _, rfl, rfl, rfl,
                  record, verified, rfl, rfl, answered⟩

theorem settlement_submits {ledger : Ledger} {paid : Paid} {evidence : Evidence}
    {submission : Submission Settlement}
    (submits : ((settlement externals ledger paid evidence :
      Decision Proof Evidence Settlement).decide record).resolve around = .submit submission) :
    record.map Record.state = some .paid ∧
      ((∃ rail reference, submission.body = .settled rail reference ∧
        submission.value = .settled ⟨paid.ctx, reference⟩) ∨
      ∃ rail reason, submission.body = .settlementFailed rail reason ∧
        submission.value = .failed ⟨paid.ctx, reason⟩) := by
  cases record with
  | none => cases submits
  | some record =>
      simp only [settlement] at submits
      split at submits
      · next state =>
          split at submits
          · cases submits
          · split at submits
            · cases submits
            · simp only [Consult.resolve, settlementPlan] at submits
              refine ⟨congrArg some state, ?_⟩
              split at submits <;> cases submits
              · exact .inl ⟨_, _, rfl, rfl⟩
              · exact .inr ⟨_, _, rfl, rfl⟩
      · exact absurd submits present_submits
      · exact absurd submits present_submits
      · exact absurd submits present_submits
      · exact absurd submits present_submits
      · cases submits
      · cases submits

theorem compensation_submits {failed : SettlementFailed} {reference : Option String}
    {submission : Submission Compensated}
    (submits : ((compensation failed reference :
      Decision Proof Evidence Compensated).decide record).resolve around = .submit submission) :
    record.map Record.state = some .settlementFailed ∧
      submission.body = .compensated reference ∧ submission.value = ⟨failed.ctx⟩ := by
  cases record with
  | none => cases submits
  | some record =>
      simp only [compensation] at submits
      split at submits <;> cases submits
      next state => exact ⟨congrArg some state, rfl, rfl⟩

theorem expiry_submits {auth : Authorized} {submission : Submission Unit}
    (submits : ((expiry auth : Decision Proof Evidence Unit).decide record).resolve around =
      .submit submission) :
    record.map Record.state = some .authorized ∧ submission.body = .expired := by
  cases record with
  | none => cases submits
  | some record =>
      simp only [expiry] at submits
      split at submits <;> cases submits
      next state => exact ⟨congrArg some state, rfl⟩

theorem delivery_submits {settled : Settled} {receipt : DeliveryReceipt}
    {submission : Submission Delivered}
    (submits : ((delivery settled receipt : Decision Proof Evidence Delivered).decide
      record).resolve around = .submit submission) :
    record.map Record.state = some .settled ∧ submission.body = .delivered receipt ∧
      submission.value = ⟨settled.ctx, receipt.reference⟩ := by
  cases record with
  | none => cases submits
  | some record =>
      simp only [delivery] at submits
      split at submits
      · next state =>
          cases submits
          exact ⟨congrArg some state, rfl, rfl⟩
      · exact absurd submits present_submits
      · cases submits

theorem authorize_submits {ledger : Ledger} {mandate : Mandate} {cart : Cart} {requestKey : String}
    {now : Timestamp} {inner : Inner} {submission : Submission Authorized}
    (submits : authorizePlan externals ledger mandate cart requestKey now inner =
      .submit submission) :
    inner.records.lookup (attempt externals mandate cart requestKey) = none ∧
      submission = authorizedSubmission externals (attempt externals mandate cart requestKey)
        mandate cart requestKey := by
  unfold authorizePlan at submits
  dsimp only at submits
  split at submits
  · unfold replayPlan at submits
    split at submits
    · cases submits
    · split at submits
      · split at submits <;> cases submits
      · split at submits
        · cases submits
        · split at submits <;> cases submits
  · next absent =>
      unfold freshPlan at submits
      split at submits
      · cases submits
      · split at submits
        · cases submits
        · split at submits
          · cases submits
          · split at submits
            · cases submits
            · cases submits
              exact ⟨absent, rfl⟩

end Submits

section Answers

variable {externals : Externals} {around : Surroundings Proof Evidence} {record : Option Record}

theorem present_answers {text : Option String} {message : String} {answer : String → α} {value : α}
    (answers : Plan.present text message answer = .answer value) :
    ∃ found, text = some found ∧ value = answer found := by
  cases text with
  | none => cases answers
  | some found =>
      cases answers
      exact ⟨found, rfl, rfl⟩

theorem payment_answers {ledger : Ledger} {auth : Authorized} {proof : Proof} {value : Paid}
    (answers : ((payment externals ledger auth proof :
      Decision Proof Evidence Paid).decide record).resolve around = .answer value) :
    ∃ found verified key, record = some found ∧ found.state ≠ .authorized ∧
      around.verify ledger.railId proof (Ledger.paymentExpectation auth.ctx found) = .ok verified ∧
      found.rail = some ledger.railId ∧ found.paymentReference = some verified.reference ∧
      found.idempotencyKey = some key ∧
      value = ⟨auth.ctx, ledger.railId, verified.reference, key⟩ := by
  cases record with
  | none => cases answers
  | some record =>
      simp only [payment, Consult.resolve, paymentPlan] at answers
      split at answers
      · cases answers
      · cases answers
      · next verified answered =>
          split at answers
          · next moved =>
              split at answers
              · next same =>
                  split at answers
                  · cases answers
                  · next key keyed =>
                      cases answers
                      exact ⟨record, verified, key, rfl, moved, answered, same.1, same.2, keyed, rfl⟩
              · cases answers
          · split at answers <;> cases answers

theorem settlement_answers {ledger : Ledger} {paid : Paid} {evidence : Evidence}
    {value : Settlement}
    (answers : ((settlement externals ledger paid evidence :
      Decision Proof Evidence Settlement).decide record).resolve around = .answer value) :
    (∃ reason, value = .pending reason) ∨ ∃ found, record = some found ∧
      ((∃ reference, found.state ∈ past .settled ∧ found.settlementReference = some reference ∧
        value = .settled ⟨found.ctx, reference⟩) ∨
      ∃ reason, found.state ∈ past .settlementFailed ∧ found.failureReason = some reason ∧
        value = .failed ⟨found.ctx, reason⟩) := by
  cases record with
  | none => cases answers
  | some record =>
      simp only [settlement] at answers
      split at answers
      · split at answers
        · cases answers
        · split at answers
          · cases answers
          · simp only [Consult.resolve, settlementPlan] at answers
            split at answers <;> cases answers
            exact .inl ⟨_, rfl⟩
      · next state =>
          obtain ⟨reference, referenced, same⟩ := present_answers answers
          exact .inr ⟨record, rfl, .inl ⟨reference, by simp [past, state], referenced, same⟩⟩
      · next state =>
          obtain ⟨reference, referenced, same⟩ := present_answers answers
          exact .inr ⟨record, rfl, .inl ⟨reference, by simp [past, state], referenced, same⟩⟩
      · next state =>
          obtain ⟨reason, given, same⟩ := present_answers answers
          exact .inr ⟨record, rfl, .inr ⟨reason, by simp [past, state], given, same⟩⟩
      · next state =>
          obtain ⟨reason, given, same⟩ := present_answers answers
          exact .inr ⟨record, rfl, .inr ⟨reason, by simp [past, state], given, same⟩⟩
      · cases answers
      · cases answers

theorem compensation_answers {failed : SettlementFailed} {reference : Option String}
    {value : Compensated}
    (answers : ((compensation failed reference :
      Decision Proof Evidence Compensated).decide record).resolve around = .answer value) :
    ∃ found, record = some found ∧ found.state = .compensated ∧ value = ⟨failed.ctx⟩ := by
  cases record with
  | none => cases answers
  | some record =>
      simp only [compensation] at answers
      split at answers <;> cases answers
      next state => exact ⟨record, rfl, state, rfl⟩

theorem expiry_answers {auth : Authorized} {value : Unit}
    (answers : ((expiry auth : Decision Proof Evidence Unit).decide record).resolve around =
      .answer value) : ∃ found, record = some found ∧ found.state = .expired := by
  cases record with
  | none => cases answers
  | some record =>
      simp only [expiry] at answers
      split at answers <;> cases answers
      next state => exact ⟨record, rfl, state⟩

theorem delivery_answers {settled : Settled} {receipt : DeliveryReceipt} {value : Delivered}
    (answers : ((delivery settled receipt : Decision Proof Evidence Delivered).decide
      record).resolve around = .answer value) :
    ∃ found reference, record = some found ∧ found.state = .delivered ∧
      found.receiptReference = some reference ∧ value = ⟨settled.ctx, reference⟩ := by
  cases record with
  | none => cases answers
  | some record =>
      simp only [delivery] at answers
      split at answers
      · cases answers
      · next state =>
          obtain ⟨reference, referenced, same⟩ := present_answers answers
          exact ⟨record, reference, rfl, state, referenced, same⟩
      · cases answers

end Answers

end MandateLedger.Engine
