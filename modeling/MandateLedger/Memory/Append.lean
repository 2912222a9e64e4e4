import MandateLedger.Memory.Store

namespace MandateLedger.Memory

open MandateLedger.Core MandateLedger.Data

namespace Inner

/-- The writes of an append, before the event joins the log. -/
inductive Writes (ops : DecimalOps) (inner : Inner) (ctx : ContextId) (now : Timestamp) :
    EventBody → Inner → Prop where
  | authorized {mandate : Mandate} {cart : CartSnapshot} {requestKey : String} {next : Money}
      (absent : inner.records.lookup ctx = none)
      (active : mandate.body.id ∉ inner.revoked)
      (paced : checkVelocity mandate.body.scope now (inner.countSince mandate.body.id) = none)
      (granted : checkBudget ops mandate.body.scope cart.claims.total
        (inner.reserved.lookup mandate.body.id) = .ok (.granted next)) :
      Writes ops inner ctx now (.authorized mandate cart requestKey)
        ((inner.reserve now (mandate.body.scope.velocity.map Velocity.windowSecs)
          mandate.body.id next).putRecord ctx (Record.opened ctx mandate cart))
  | paid {rail reference nonce : String} {amount : Money} {key : Hash32} {record : Record}
      (found : inner.records.lookup ctx = some record)
      (legal : record.state.canTransitionTo .paid = true)
      (free : ∀ owner, inner.nonces.lookup (rail, nonce) = some owner → owner = ctx) :
      Writes ops inner ctx now (.paid rail reference nonce amount key)
        ((inner.claimNonce (rail, nonce) ctx).putRecord ctx
          (record.advance (.paid rail reference nonce amount key)))
  | moved {body : EventBody} {target : PaymentState} {record : Record}
      (moves : body.resultingState = some target)
      (plain : target = .settled ∨ target = .compensated ∨ target = .delivered)
      (found : inner.records.lookup ctx = some record)
      (legal : record.state.canTransitionTo target = true) :
      Writes ops inner ctx now body (inner.putRecord ctx (record.advance body))
  | released {body : EventBody} {target : PaymentState} {record : Record} {next : Money}
      (moves : body.resultingState = some target)
      (giving : target = .settlementFailed ∨ target = .expired)
      (found : inner.records.lookup ctx = some record)
      (legal : record.state.canTransitionTo target = true)
      (given : releaseFrom ops (inner.reserved.lookup record.mandateId) record.mandateId
        record.amount = .ok next) :
      Writes ops inner ctx now body
        ({ inner with reserved := inner.reserved.insert record.mandateId next }.putRecord ctx
          (record.advance body))
  | denied {stage : Stage} {reason : DenyReason} {detail : String}
      (uncapped : inner.denials ctx < denialCap) :
      Writes ops inner ctx now (.denied stage reason detail) inner

/-- The writes of an append leave the log, the index, the sequence and the
revocations to the commit's last step. -/
theorem Writes.frame {ops : DecimalOps} {inner tables : Inner} {ctx : ContextId}
    {now : Timestamp} {body : EventBody} (writes : inner.Writes ops ctx now body tables) :
    tables.events = inner.events ∧ tables.byCtx = inner.byCtx ∧
      tables.lastSeq = inner.lastSeq ∧ tables.revoked = inner.revoked := by
  cases writes with
  | authorized =>
      simp only [putRecord, reserve, widen]
      split <;> exact ⟨rfl, rfl, rfl, rfl⟩
  | paid => exact ⟨rfl, rfl, rfl, rfl⟩
  | moved => exact ⟨rfl, rfl, rfl, rfl⟩
  | released => exact ⟨rfl, rfl, rfl, rfl⟩
  | denied => exact ⟨rfl, rfl, rfl, rfl⟩

/-- What an append does to the records: a refusal nothing, the first event of a
context opens its record, every other one advances it. -/
theorem Writes.records {ops : DecimalOps} {inner tables : Inner} {ctx : ContextId}
    {now : Timestamp} {body : EventBody} (writes : inner.Writes ops ctx now body tables) :
    (body.resultingState = none ∧ tables.records = inner.records) ∨
    (∃ mandate cart requestKey, body = .authorized mandate cart requestKey ∧
      inner.records.lookup ctx = none ∧
      tables.records = inner.records.insert ctx (Record.opened ctx mandate cart)) ∨
    ∃ target record, body.resultingState = some target ∧ target ≠ .authorized ∧
      inner.records.lookup ctx = some record ∧ record.state.canTransitionTo target = true ∧
      tables.records = inner.records.insert ctx (record.advance body) := by
  cases writes with
  | authorized absent =>
      refine .inr (.inl ⟨_, _, _, rfl, absent, ?_⟩)
      simp only [putRecord, reserve, widen]
      split <;> rfl
  | paid found legal => exact .inr (.inr ⟨_, _, rfl, by decide, found, legal, rfl⟩)
  | moved moves plain found legal =>
      refine .inr (.inr ⟨_, _, moves, ?_, found, legal, rfl⟩)
      rintro rfl
      simp at plain
  | released moves giving found legal =>
      refine .inr (.inr ⟨_, _, moves, ?_, found, legal, rfl⟩)
      rintro rfl
      simp at giving
  | denied => exact .inl ⟨rfl, rfl⟩

theorem Writes.reaches {ops : DecimalOps} {inner tables : Inner} {ctx : ContextId}
    {now : Timestamp} {body : EventBody} {target : PaymentState}
    (writes : inner.Writes ops ctx now body tables) (moves : body.resultingState = some target)
    (later : target ≠ .authorized) :
    ∃ record, tables.records.lookup ctx = some record ∧ record.state = target := by
  obtain ⟨silent, -⟩ | ⟨mandate, cart, requestKey, rfl, -, -⟩ |
    ⟨_, record, -, -, -, -, advanced⟩ := writes.records
  · rw [silent] at moves
    cases moves
  · cases moves
    exact absurd rfl later
  · exact ⟨record.advance body, by rw [advanced, Finmap.lookup_insert],
      Record.advance_state moves later⟩

theorem Writes.other_record {ops : DecimalOps} {inner tables : Inner} {ctx other : ContextId}
    {now : Timestamp} {body : EventBody} (writes : inner.Writes ops ctx now body tables)
    (different : other ≠ ctx) : tables.records.lookup other = inner.records.lookup other := by
  obtain ⟨-, same⟩ | ⟨_, _, _, -, -, same⟩ | ⟨_, _, -, -, -, -, same⟩ := writes.records
  · rw [same]
  all_goals rw [same, Finmap.lookup_insert_of_ne _ different]

section Commit

variable {ops : DecimalOps} {inner : Inner} {ctx : ContextId} {now : Timestamp}
  {body : EventBody} {effects : Effects} {event : Event}

theorem putRecord_putRecord (record next : Record) :
    (inner.putRecord ctx record).putRecord ctx next = inner.putRecord ctx next := by
  simp [putRecord, Finmap.insert_insert]

theorem advanceRecord_putRecord (record : Record) :
    (inner.putRecord ctx record).advanceRecord ctx body =
      inner.putRecord ctx (record.advance body) := by
  have found : (inner.putRecord ctx record).records.lookup ctx = some record :=
    Finmap.lookup_insert _
  rw [advanceRecord, found]
  exact putRecord_putRecord record _

theorem advanceRecord_of_found {record : Record}
    (found : inner.records.lookup ctx = some record) :
    inner.advanceRecord ctx body = inner.putRecord ctx (record.advance body) := by
  rw [advanceRecord, found]

theorem advanceRecord_denied (stage : Stage) (reason : DenyReason) (detail : String) :
    inner.advanceRecord ctx (.denied stage reason detail) = inner := by
  unfold advanceRecord
  cases found : inner.records.lookup ctx with
  | none => rfl
  | some record => simp [putRecord, Record.advance, Table.insert_lookup found]

/-- The two ways the commit of granted effects can end. -/
def Ends (ops : DecimalOps) (inner : Inner) (ctx : ContextId) (now : Timestamp)
    (body : EventBody) (event : Event) (ended : Except StoreError AppendOutcome × Inner) : Prop :=
  (∃ error, ended = (.error error, inner)) ∨
    ∃ tables, inner.Writes ops ctx now body tables ∧
      ended = (.ok (.appended event), tables.log event)

theorem validateAuthorized_commits {mandate : Mandate} {cart : CartSnapshot} {requestKey : String}
    (valid : inner.validateAuthorized ops ctx now mandate cart = .ok (.granted effects))
    (own : event.ctx = ctx) (same : event.body = .authorized mandate cart requestKey) :
    ∃ tables, inner.Writes ops ctx now (.authorized mandate cart requestKey) tables ∧
      inner.commit ops now effects event = (.ok (.appended event), tables.log event) := by
  obtain ⟨transition, rest⟩ := check_bind_eq_ok.mp valid
  have absent := checkTransition_authorized.mp transition
  by_cases revoked : mandate.body.id ∈ inner.revoked
  · rw [if_pos revoked] at rest
    cases rest
  rw [if_neg revoked] at rest
  cases paced : checkVelocity mandate.body.scope now (inner.countSince mandate.body.id) with
  | some outcome =>
      rw [paced] at rest
      cases rest
  | none =>
      rw [paced] at rest
      obtain ⟨verdict, budget, rest⟩ := bind_eq_ok.mp rest
      cases verdict with
      | refused outcome => cases rest
      | granted next =>
          cases rest
          refine ⟨_, .authorized absent revoked paced budget, ?_⟩
          simp [commit, Effects.nothing, own, same, advanceRecord_putRecord, Record.advance]

theorem validatePaid_commits {rail reference nonce : String} {amount : Money} {key : Hash32}
    (valid : inner.validatePaid ctx rail nonce = .ok (.granted effects))
    (own : event.ctx = ctx) (same : event.body = .paid rail reference nonce amount key) :
    ∃ tables, inner.Writes ops ctx now (.paid rail reference nonce amount key) tables ∧
      inner.commit ops now effects event = (.ok (.appended event), tables.log event) := by
  obtain ⟨transition, rest⟩ := check_bind_eq_ok.mp valid
  obtain ⟨record, found, legal⟩ := (checkTransition_advance (by decide)).mp transition
  split at rest
  · cases rest
  · next free =>
      cases rest
      refine ⟨_, .paid found legal ?_, ?_⟩
      · intro owner claimed
        simpa [claimed] using free
      · have kept : (inner.claimNonce (rail, nonce) ctx).records.lookup ctx = some record := found
        simp [commit, Effects.nothing, own, same, advanceRecord_of_found kept]

theorem validateMove_commits {target : PaymentState}
    (valid : inner.validateMove ctx target = .ok (.granted effects))
    (moves : body.resultingState = some target)
    (plain : target = .settled ∨ target = .compensated ∨ target = .delivered)
    (own : event.ctx = ctx) (same : event.body = body) :
    ∃ tables, inner.Writes ops ctx now body tables ∧
      inner.commit ops now effects event = (.ok (.appended event), tables.log event) := by
  obtain ⟨transition, rest⟩ := check_bind_eq_ok.mp valid
  have later : target ≠ .authorized := by rintro rfl; simp at plain
  obtain ⟨record, found, legal⟩ := (checkTransition_advance later).mp transition
  cases rest
  refine ⟨_, .moved moves plain found legal, ?_⟩
  simp [commit, Effects.nothing, own, same, advanceRecord_of_found found]

theorem validateRelease_ends {target : PaymentState}
    (valid : inner.validateRelease ctx target = .ok (.granted effects))
    (moves : body.resultingState = some target)
    (giving : target = .settlementFailed ∨ target = .expired)
    (own : event.ctx = ctx) (same : event.body = body) :
    (∃ error record, inner.records.lookup ctx = some record ∧
      record.state.canTransitionTo target = true ∧
      releaseFrom ops (inner.reserved.lookup record.mandateId) record.mandateId record.amount =
        .error error ∧
      inner.commit ops now effects event = (.error error, inner)) ∨
    ∃ tables, inner.Writes ops ctx now body tables ∧
      inner.commit ops now effects event = (.ok (.appended event), tables.log event) := by
  obtain ⟨transition, rest⟩ := check_bind_eq_ok.mp valid
  have later : target ≠ .authorized := by rintro rfl; simp at giving
  obtain ⟨record, found, legal⟩ := (checkTransition_advance later).mp transition
  rw [found] at rest
  cases rest
  cases given : releaseFrom ops (inner.reserved.lookup record.mandateId) record.mandateId
      record.amount with
  | error error =>
      refine .inl ⟨error, record, found, legal, given, ?_⟩
      simp [commit, Effects.nothing, release, given]
  | ok next =>
      refine .inr ⟨_, .released moves giving found legal given, ?_⟩
      have kept : { inner with reserved := inner.reserved.insert record.mandateId next
          }.records.lookup ctx = some record := found
      simp [commit, Effects.nothing, release, given, own, same, advanceRecord_of_found kept,
        pure, Except.pure]

theorem validateDenied_commits {stage : Stage} {reason : DenyReason} {detail : String}
    (valid : inner.validateDenied ctx = .ok (.granted effects))
    (own : event.ctx = ctx) (same : event.body = .denied stage reason detail) :
    ∃ tables, inner.Writes ops ctx now (.denied stage reason detail) tables ∧
      inner.commit ops now effects event = (.ok (.appended event), tables.log event) := by
  unfold validateDenied at valid
  split at valid
  · cases valid
  · next uncapped =>
      cases valid
      refine ⟨_, .denied (Nat.lt_of_not_le uncapped), ?_⟩
      simp [commit, Effects.nothing, own, same, advanceRecord_denied]

theorem validate_ends (valid : inner.validate ops ctx now body = .ok (.granted effects))
    (own : event.ctx = ctx) (same : event.body = body) :
    Ends ops inner ctx now body event (inner.commit ops now effects event) := by
  have gives : ∀ {target : PaymentState}, body.resultingState = some target →
      target = .settlementFailed ∨ target = .expired →
      inner.validateRelease ctx target = .ok (.granted effects) →
      Ends ops inner ctx now body event (inner.commit ops now effects event) := by
    intro target moves giving valid
    obtain ⟨error, -, -, -, -, failed⟩ | committed := validateRelease_ends valid moves giving own same
    · exact .inl ⟨error, failed⟩
    · exact .inr committed
  cases body with
  | authorized mandate cart requestKey => exact .inr (validateAuthorized_commits valid own same)
  | paid rail reference nonce amount key => exact .inr (validatePaid_commits valid own same)
  | settled rail reference => exact .inr (validateMove_commits valid rfl (by simp) own same)
  | settlementFailed rail reason => exact gives rfl (.inl rfl) valid
  | compensated reference => exact .inr (validateMove_commits valid rfl (by simp) own same)
  | delivered receipt => exact .inr (validateMove_commits valid rfl (by simp) own same)
  | expired => exact gives rfl (.inr rfl) valid
  | denied stage reason detail => exact .inr (validateDenied_commits valid own same)

/-- Once phase 1 has let an event through, only a release can fail. -/
theorem validate_fails {error : StoreError} {after : Inner}
    (valid : inner.validate ops ctx now body = .ok (.granted effects))
    (own : event.ctx = ctx) (same : event.body = body)
    (failed : inner.commit ops now effects event = (.error error, after)) :
    ∃ record target, inner.records.lookup ctx = some record ∧
      body.resultingState = some target ∧ (target = .settlementFailed ∨ target = .expired) ∧
      record.state.canTransitionTo target = true ∧
      releaseFrom ops (inner.reserved.lookup record.mandateId) record.mandateId record.amount =
        .error error := by
  have commits : (∃ tables, inner.Writes ops ctx now body tables ∧
      inner.commit ops now effects event = (.ok (.appended event), tables.log event)) → False := by
    intro committed
    obtain ⟨tables, -, ended⟩ := committed
    rw [failed] at ended
    cases ended
  have gives : ∀ {target : PaymentState}, body.resultingState = some target →
      target = .settlementFailed ∨ target = .expired →
      inner.validateRelease ctx target = .ok (.granted effects) →
      ∃ record target, inner.records.lookup ctx = some record ∧
        body.resultingState = some target ∧ (target = .settlementFailed ∨ target = .expired) ∧
        record.state.canTransitionTo target = true ∧
        releaseFrom ops (inner.reserved.lookup record.mandateId) record.mandateId record.amount =
          .error error := by
    intro target moves giving valid
    obtain ⟨_, record, found, legal, given, ended⟩ | committed :=
      validateRelease_ends valid moves giving own same
    · rw [failed] at ended
      cases ended
      exact ⟨record, target, found, moves, giving, legal, given⟩
    · exact (commits committed).elim
  cases body with
  | authorized => exact (commits (validateAuthorized_commits valid own same)).elim
  | paid => exact (commits (validatePaid_commits valid own same)).elim
  | settled => exact (commits (validateMove_commits valid rfl (by simp) own same)).elim
  | settlementFailed => exact gives rfl (.inl rfl) valid
  | compensated => exact (commits (validateMove_commits valid rfl (by simp) own same)).elim
  | delivered => exact (commits (validateMove_commits valid rfl (by simp) own same)).elim
  | expired => exact gives rfl (.inr rfl) valid
  | denied => exact (commits (validateDenied_commits valid own same)).elim

end Commit

section Append

variable {externals : Externals} {inner : Inner} {ctx : ContextId} {now : Timestamp}
  {body : EventBody}

theorem validateAuthorized_refused {ops : DecimalOps} {mandate : Mandate} {cart : CartSnapshot}
    {outcome : AppendOutcome} (requestKey : String)
    (refused : inner.validateAuthorized ops ctx now mandate cart = .ok (.refused outcome)) :
    outcome.refuses (.authorized mandate cart requestKey) = true := by
  obtain ⟨-, rest⟩ := check_bind_eq_ok.mp refused
  dsimp only at rest
  split at rest
  · cases rest
    rfl
  · split at rest
    · next reached =>
        cases rest
        obtain ⟨count, rfl⟩ := checkVelocity_some reached
        rfl
    · obtain ⟨verdict, budget, rest⟩ := bind_eq_ok.mp rest
      cases verdict with
      | refused outcome =>
          cases rest
          obtain ⟨remaining, rfl⟩ := checkBudget_refused budget
          rfl
      | granted next => cases rest

theorem validate_refused {ops : DecimalOps} {outcome : AppendOutcome}
    (refused : inner.validate ops ctx now body = .ok (.refused outcome)) :
    outcome.refuses body = true := by
  cases body with
  | authorized mandate cart requestKey => exact validateAuthorized_refused requestKey refused
  | paid rail reference nonce amount key =>
      obtain ⟨-, rest⟩ := check_bind_eq_ok.mp refused
      split at rest <;> cases rest
      rfl
  | settled rail reference => cases (check_bind_eq_ok.mp refused).2
  | compensated reference => cases (check_bind_eq_ok.mp refused).2
  | delivered receipt => cases (check_bind_eq_ok.mp refused).2
  | settlementFailed rail reason =>
      obtain ⟨-, rest⟩ := check_bind_eq_ok.mp refused
      split at rest <;> cases rest
  | expired =>
      obtain ⟨-, rest⟩ := check_bind_eq_ok.mp refused
      split at rest <;> cases rest
  | denied stage reason detail =>
      simp only [validate, validateDenied] at refused
      split at refused <;> cases refused
      rfl

/-- Either nothing changed, and an outcome is a refusal of the body's own kind,
or the tables were written and the event logged. -/
theorem append_cases (externals : Externals) (inner : Inner) (ctx : ContextId) (now : Timestamp)
    (body : EventBody) :
    (∃ result, inner.append externals ctx now body = (result, inner) ∧
      ∀ outcome, result = .ok outcome → outcome.refuses body = true) ∨
    ∃ event tables, inner.Writes externals.decimals ctx now body tables ∧
      Event.new externals (inner.prevHash ctx) (inner.lastSeq + 1) ctx now body = .ok event ∧
      inner.append externals ctx now body = (.ok (.appended event), tables.log event) := by
  unfold append
  cases valid : inner.validate externals.decimals ctx now body with
  | error error => exact .inl ⟨_, rfl, by simp⟩
  | ok verdict =>
      cases verdict with
      | refused outcome =>
          refine .inl ⟨_, rfl, ?_⟩
          rintro _ ⟨⟩
          exact validate_refused valid
      | granted effects =>
          cases built : Event.new externals (inner.prevHash ctx) (inner.lastSeq + 1) ctx now
              body with
          | error error => exact .inl ⟨_, rfl, by simp⟩
          | ok event =>
              obtain ⟨-, own, -, -, same, -⟩ := Event.new_eq_ok built
              obtain ⟨error, ended⟩ | ⟨tables, writes, ended⟩ := validate_ends valid own same
              · exact .inl ⟨_, ended, by simp⟩
              · exact .inr ⟨event, tables, writes, rfl, ended⟩

/-- Phase 1 fails on an illegal transition or in the arithmetic. -/
theorem validate_error {ops : DecimalOps} {error : StoreError}
    (failed : inner.validate ops ctx now body = .error error) :
    (∃ target, body.resultingState = some target ∧
      checkTransition (inner.records.lookup ctx) ctx target = .error error) ∨
    ∃ cause, error = .money cause := by
  have release : ∀ target, target ≠ .authorized → body.resultingState = some target →
      inner.validateRelease ctx target = .error error →
      ∃ target, body.resultingState = some target ∧
        checkTransition (inner.records.lookup ctx) ctx target = .error error := by
    intro target later moves failed
    rcases bind_eq_error.mp failed with illegal | ⟨_, transition, rest⟩
    · exact ⟨target, moves, illegal⟩
    · obtain ⟨record, found, -⟩ := (checkTransition_advance later).mp transition
      rw [found] at rest
      cases rest
  have move : ∀ target, body.resultingState = some target →
      inner.validateMove ctx target = .error error →
      ∃ target, body.resultingState = some target ∧
        checkTransition (inner.records.lookup ctx) ctx target = .error error := by
    intro target moves failed
    rcases bind_eq_error.mp failed with illegal | ⟨_, -, rest⟩
    · exact ⟨target, moves, illegal⟩
    · cases rest
  cases body with
  | authorized mandate cart requestKey =>
      rcases bind_eq_error.mp failed with illegal | ⟨_, -, rest⟩
      · exact .inl ⟨_, rfl, illegal⟩
      · right
        dsimp only at rest
        split at rest
        · cases rest
        · split at rest
          · cases rest
          · rcases bind_eq_error.mp rest with budget | ⟨verdict, -, rest⟩
            · exact checkBudget_error budget
            · cases verdict <;> cases rest
  | paid rail reference nonce amount key =>
      rcases bind_eq_error.mp failed with illegal | ⟨_, -, rest⟩
      · exact .inl ⟨_, rfl, illegal⟩
      · split at rest <;> cases rest
  | settled => exact .inl (move _ rfl failed)
  | settlementFailed => exact .inl (release _ (by decide) rfl failed)
  | compensated => exact .inl (move _ rfl failed)
  | delivered => exact .inl (move _ rfl failed)
  | expired => exact .inl (release _ (by decide) rfl failed)
  | denied =>
      simp only [validate, validateDenied] at failed
      split at failed <;> cases failed

theorem append_error {error : StoreError} {after : Inner}
    (failed : inner.append externals ctx now body = (.error error, after)) :
    (∃ target, body.resultingState = some target ∧
      checkTransition (inner.records.lookup ctx) ctx target = .error error) ∨
    (∃ cause, error = .money cause) ∨ (∃ cause, error = .canonicalize cause) ∨
    ∃ record target, inner.records.lookup ctx = some record ∧
      body.resultingState = some target ∧ (target = .settlementFailed ∨ target = .expired) ∧
      record.state.canTransitionTo target = true ∧
      releaseFrom externals.decimals (inner.reserved.lookup record.mandateId) record.mandateId
        record.amount = .error error := by
  unfold append at failed
  split at failed
  · next invalid =>
      cases failed
      obtain illegal | money := validate_error invalid
      · exact .inl illegal
      · exact .inr (.inl money)
  · cases failed
  · next effects valid =>
      split at failed
      · cases failed
        exact .inr (.inr (.inl ⟨_, rfl⟩))
      · next event built =>
          obtain ⟨-, own, -, -, same, -⟩ := Event.new_eq_ok built
          exact .inr (.inr (.inr (validate_fails valid own same failed)))

theorem validate_of_plain {ops : DecimalOps} {target : PaymentState}
    (moves : body.resultingState = some target)
    (plain : target = .settled ∨ target = .compensated ∨ target = .delivered) :
    inner.validate ops ctx now body = inner.validateMove ctx target := by
  cases body <;> cases moves <;> first | rfl | simp at plain

theorem validate_of_giving {ops : DecimalOps} {target : PaymentState}
    (moves : body.resultingState = some target)
    (giving : target = .settlementFailed ∨ target = .expired) :
    inner.validate ops ctx now body = inner.validateRelease ctx target := by
  cases body <;> cases moves <;> first | rfl | simp at giving

/-- Every body that moves a context is first held against the machine. -/
theorem append_illegal {target : PaymentState} (moves : body.resultingState = some target)
    (illegal : checkTransition (inner.records.lookup ctx) ctx target ≠ .ok ()) :
    inner.append externals ctx now body =
      (.error (.illegalTransition ctx ((inner.records.lookup ctx).map Record.state) target),
        inner) := by
  have failed : checkTransition (inner.records.lookup ctx) ctx target =
      .error (.illegalTransition ctx ((inner.records.lookup ctx).map Record.state) target) := by
    cases checked : checkTransition (inner.records.lookup ctx) ctx target with
    | ok passed => exact absurd checked illegal
    | error error => rw [checkTransition_error checked]
  have invalid : inner.validate externals.decimals ctx now body =
      .error (.illegalTransition ctx ((inner.records.lookup ctx).map Record.state) target) := by
    cases body <;> cases moves <;> exact bind_eq_error.mpr (.inl failed)
  rw [append, invalid]

/-- The writes of an append are made when nothing is wrong with the event. -/
theorem Writes.appended {tables : Inner} {event : Event}
    (writes : inner.Writes externals.decimals ctx now body tables)
    (built : Event.new externals (inner.prevHash ctx) (inner.lastSeq + 1) ctx now body = .ok event) :
    inner.append externals ctx now body = (.ok (.appended event), tables.log event) := by
  obtain ⟨-, own, -, -, same, -⟩ := Event.new_eq_ok built
  have commits : ∀ effects, inner.validate externals.decimals ctx now body = .ok (.granted effects) →
      inner.commit externals.decimals now effects event = (.ok (.appended event), tables.log event) →
      inner.append externals ctx now body = (.ok (.appended event), tables.log event) := by
    intro effects valid committed
    rw [append, valid]
    dsimp only
    rw [built]
    exact committed
  cases writes with
  | @authorized mandate cart requestKey next absent active paced granted =>
      let effects : Effects :=
        { Effects.nothing with
          reserve := some (mandate.body.id, next)
          window := mandate.body.scope.velocity.map Velocity.windowSecs
          newRecord := some (Record.opened ctx mandate cart) }
      refine commits effects (check_bind_eq_ok.mpr ⟨checkTransition_authorized.mpr absent, ?_⟩) ?_
      · dsimp only
        rw [if_neg active, paced]
        exact bind_eq_ok.mpr ⟨_, granted, rfl⟩
      · simp [effects, commit, Effects.nothing, own, same, advanceRecord_putRecord, Record.advance]
  | @paid rail reference nonce amount key record found legal free =>
      have kept : (inner.claimNonce (rail, nonce) ctx).records.lookup ctx = some record := found
      refine commits { Effects.nothing with consumeNonce := some (rail, nonce) }
        (check_bind_eq_ok.mpr ⟨checkTransition_eq_ok.mpr (.inr ⟨record, found, legal⟩), ?_⟩) ?_
      · refine if_neg ?_
        cases owned : inner.nonces.lookup (rail, nonce) with
        | none => simp
        | some owner => simp [free owner owned]
      · simp [commit, Effects.nothing, own, same, advanceRecord_of_found kept]
  | moved moves plain found legal =>
      refine commits .nothing ?_ ?_
      · rw [validate_of_plain moves plain]
        exact check_bind_eq_ok.mpr ⟨checkTransition_eq_ok.mpr (.inr ⟨_, found, legal⟩), rfl⟩
      · simp [commit, Effects.nothing, own, same, advanceRecord_of_found found]
  | @released body target record next moves giving found legal given =>
      have kept : { inner with reserved := inner.reserved.insert record.mandateId next
          }.records.lookup ctx = some record := found
      refine commits { Effects.nothing with release := some (record.mandateId, record.amount) } ?_ ?_
      · rw [validate_of_giving moves giving]
        refine check_bind_eq_ok.mpr ⟨checkTransition_eq_ok.mpr (.inr ⟨_, found, legal⟩), ?_⟩
        rw [found]
        rfl
      · simp [commit, Effects.nothing, release, given, own, same, advanceRecord_of_found kept,
          pure, Except.pure]
  | denied uncapped =>
      refine commits .nothing (if_neg (Nat.not_le.mpr uncapped)) ?_
      simp [commit, Effects.nothing, own, same, advanceRecord_denied]

/-- A refusal is written down unless the chain is full of them. -/
theorem append_denied (externals : Externals) (inner : Inner) (ctx : ContextId) (now : Timestamp)
    (stage : Stage) (reason : DenyReason) (detail : String) :
    (denialCap ≤ inner.denials ctx ∧
      inner.append externals ctx now (.denied stage reason detail) = (.ok .denialsCapped, inner)) ∨
    (inner.denials ctx < denialCap ∧
      ((∃ cause, inner.append externals ctx now (.denied stage reason detail) =
          (.error (.canonicalize cause), inner)) ∨
        ∃ event, Event.new externals (inner.prevHash ctx) (inner.lastSeq + 1) ctx now
            (.denied stage reason detail) = .ok event ∧
          inner.append externals ctx now (.denied stage reason detail) =
            (.ok (.appended event), inner.log event))) := by
  by_cases full : denialCap ≤ inner.denials ctx
  · have refused : inner.validate externals.decimals ctx now (.denied stage reason detail) =
        .ok (.refused .denialsCapped) := if_pos full
    exact .inl ⟨full, by rw [append, refused]⟩
  · have granted : inner.validate externals.decimals ctx now (.denied stage reason detail) =
        .ok (.granted .nothing) := if_neg full
    refine .inr ⟨Nat.lt_of_not_le full, ?_⟩
    rw [append, granted]
    cases built : Event.new externals (inner.prevHash ctx) (inner.lastSeq + 1) ctx now
        (.denied stage reason detail) with
    | error cause => exact .inl ⟨cause, rfl⟩
    | ok event =>
        obtain ⟨-, own, -, -, same, -⟩ := Event.new_eq_ok built
        refine .inr ⟨event, rfl, ?_⟩
        simp [commit, Effects.nothing, own, same, advanceRecord_denied]

end Append

end Inner

end MandateLedger.Memory
