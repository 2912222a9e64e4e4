import MandateLedger.Memory.Pruning
import MandateLedger.Postgres.Store

namespace MandateLedger.Memory.Inner

open MandateLedger.Core MandateLedger.Data

def claiming (inner : Inner) (effects : Effects) (ctx : ContextId) : Inner :=
  match effects.consumeNonce with
  | none => inner
  | some key => inner.claimNonce key ctx

def opening (inner : Inner) (effects : Effects) (ctx : ContextId) : Inner :=
  match effects.newRecord with
  | none => inner
  | some record => inner.putRecord ctx record

theorem taking_claimNonce (inner : Inner) (now : Timestamp) (effects : Effects)
    (key : String × String) (ctx : ContextId) :
    (inner.claimNonce key ctx).taking now effects = (inner.taking now effects).claimNonce key ctx := by
  unfold taking
  cases effects.reserve with
  | none => rfl
  | some taken =>
      cases effects.window with
      | none => rfl
      | some secs => rfl

theorem giving_claiming {ops : DecimalOps} {inner given : Inner} {now : Timestamp}
    {effects : Effects} (ctx : ContextId)
    (released : (inner.taking now effects).giving ops effects = .ok given) :
    ((inner.claiming effects ctx).taking now effects).giving ops effects =
      .ok (given.claiming effects ctx) := by
  unfold claiming
  cases effects.consumeNonce with
  | none => exact released
  | some key =>
      rw [taking_claimNonce]
      unfold giving at released ⊢
      cases release : effects.release with
      | none =>
          rw [release] at released
          cases released
          rfl
      | some freed =>
          rw [release] at released
          obtain ⟨next, left, made⟩ := bind_eq_ok.mp released
          cases made
          exact bind_eq_ok.mpr ⟨next, left, rfl⟩

end MandateLedger.Memory.Inner

namespace MandateLedger.Postgres

open MandateLedger.Core MandateLedger.Data MandateLedger.Memory MandateLedger.Process

/-- The tables hold what the in-memory store holds. -/
structure Mirrors (inner : Inner) (tables : Tables) : Prop where
  contexts : tables.contexts = inner.records
  reservations : tables.reservations = inner.reserved
  counts : ∀ mandate since, tables.countSince mandate since = inner.countSince mandate since
  nonces : tables.nonces = inner.nonces
  revocations : tables.revocations = inner.revoked
  events : tables.events = inner.events

/-- What the transaction makes of a decision. -/
def decided : Except StoreError (Verdict Inner.Effects) →
    Except (Except StoreError AppendOutcome) Effects
  | .error error => .error (.error error)
  | .ok (.refused outcome) => .error (.ok outcome)
  | .ok (.granted effects) => .ok ⟨effects.reserve, effects.release, effects.newRecord⟩

def Session.claiming (session : Session) (ctx : ContextId) :
    Except StoreError (Verdict Inner.Effects) → Session
  | .ok (.granted effects) =>
      match effects.consumeNonce with
      | none => session
      | some key => session.write (.claim key ctx)
  | _ => session

section Decide

variable {ops : DecimalOps} {inner : Inner} {session : Session} {ctx : ContextId}
  {now : Timestamp} {target : PaymentState}

theorem require_error {ρ α : Type} {check : Except StoreError α} {error : StoreError}
    (failed : check = .error error) :
    (Tx.require check : Tx ρ α).Runs session (.error (.error error)) session := by
  subst failed
  exact Tx.runs_require _

theorem require_ok {ρ α : Type} {check : Except StoreError α} {value : α}
    (passed : check = .ok value) : (Tx.require check : Tx ρ α).Runs session (.ok value) session := by
  subst passed
  exact Tx.runs_require _

theorem decideVelocity_runs (now : Timestamp) (mirrors : Mirrors inner session.view)
    (mandate : MandateId) (scope : Scope) :
    (decideVelocity now mandate scope).Runs session
      (match checkVelocity scope now (inner.countSince mandate) with
        | none => .ok ()
        | some outcome => .error (.ok outcome)) session := by
  unfold decideVelocity checkVelocity
  cases scope.velocity with
  | none => exact Tx.runs_pure ()
  | some velocity =>
      refine Tx.runs_bind (Tx.runs_query trivial) ?_
      have counted : session.result (.countAuthorizations mandate
          (now.saturatingSubSecs velocity.windowSecs)) =
          inner.countSince mandate (now.saturatingSubSecs velocity.windowSecs) :=
        mirrors.counts _ _
      dsimp only
      rw [counted]
      split
      · exact Tx.runs_exit _
      · exact Tx.runs_pure ()

theorem decideAuthorized_runs (mirrors : Mirrors inner session.view) (mandate : Mandate)
    (cart : CartSnapshot) :
    (decideAuthorized ops ctx now (inner.records.lookup ctx) mandate cart).Runs session
      (decided (inner.validateAuthorized ops ctx now mandate cart))
      (session.claiming ctx (inner.validateAuthorized ops ctx now mandate cart)) := by
  unfold decideAuthorized Inner.validateAuthorized
  cases transition : checkTransition (inner.records.lookup ctx) ctx .authorized with
  | error error => exact Tx.runs_stop (require_error rfl)
  | ok passed =>
      refine Tx.runs_bind (require_ok rfl) (Tx.runs_bind (Tx.runs_query trivial) ?_)
      have revoked : session.result (.selectRevocation mandate.body.id) =
          decide (mandate.body.id ∈ inner.revoked) := by
        rw [← mirrors.revocations]
        rfl
      rw [revoked]
      simp only [ok_bind]
      by_cases gone : mandate.body.id ∈ inner.revoked
      · simp only [gone, decide_true, if_true]
        exact Tx.runs_stop (Tx.runs_exit _)
      simp only [gone, decide_false, Bool.false_eq_true, if_false]
      have paced := decideVelocity_runs now mirrors mandate.body.id mandate.body.scope
      cases pace : checkVelocity mandate.body.scope now (inner.countSince mandate.body.id) with
      | some outcome =>
          rw [pace] at paced
          exact Tx.runs_stop paced
      | none =>
          rw [pace] at paced
          refine Tx.runs_bind paced (Tx.runs_bind (Tx.runs_query trivial) ?_)
          have reserved : session.result (.selectReservation mandate.body.id) =
              inner.reserved.lookup mandate.body.id := by
            rw [← mirrors.reservations]
            rfl
          rw [reserved]
          cases budget : checkBudget ops mandate.body.scope cart.claims.total
              (inner.reserved.lookup mandate.body.id) with
          | error error => exact Tx.runs_stop (require_error rfl)
          | ok verdict =>
              refine Tx.runs_bind (require_ok rfl) ?_
              cases verdict with
              | refused outcome => exact Tx.runs_exit _
              | granted next => exact Tx.runs_pure _

theorem Session.write_claim_held {key : String × String}
    (held : session.view.nonces.lookup key = some ctx) : session.write (.claim key ctx) = session := by
  have same : session.view.apply (.claim key ctx) = session.view := by
    rw [Tables.apply, Table.insert_lookup held]
  rw [Session.write, same]

theorem decidePaid_runs (mirrors : Mirrors inner session.view) (rail nonce : String) :
    (decidePaid ctx (inner.records.lookup ctx) rail nonce).Runs session
      (decided (inner.validatePaid ctx rail nonce))
      (session.claiming ctx (inner.validatePaid ctx rail nonce)) := by
  unfold decidePaid Inner.validatePaid
  cases transition : checkTransition (inner.records.lookup ctx) ctx .paid with
  | error error => exact Tx.runs_stop (require_error rfl)
  | ok passed =>
      refine Tx.runs_bind (require_ok rfl) (Tx.runs_bind (Tx.runs_query trivial) ?_)
      simp only [ok_bind]
      cases held : inner.nonces.lookup (rail, nonce) with
      | none =>
          have free : session.view.nonces.lookup (rail, nonce) = none := by
            rw [mirrors.nonces, held]
          have claimed : session.result (.claimNonce (rail, nonce) ctx) = some ctx :=
            if_neg (by simp [free])
          have written : session.after (.claimNonce (rail, nonce) ctx) =
              session.write (.claim (rail, nonce) ctx) := by
            simp [Session.after, free]
          rw [claimed, written]
          exact Tx.runs_pure _
      | some owner =>
          have taken : session.view.nonces.lookup (rail, nonce) = some owner := by
            rw [mirrors.nonces, held]
          have refused : session.result (.claimNonce (rail, nonce) ctx) = none :=
            if_pos (by simp [taken])
          have unchanged : session.after (.claimNonce (rail, nonce) ctx) = session := by
            simp [Session.after, taken]
          rw [refused, unchanged]
          refine Tx.runs_bind (Tx.runs_query trivial) ?_
          have found : session.result (.selectNonce (rail, nonce)) = some owner := taken
          rw [found]
          by_cases own : owner = ctx
          · subst own
            have kept := session.write_claim_held taken
            simp only [Option.any_some, ne_eq, not_true_eq_false, decide_false,
              Bool.false_eq_true, if_false, if_true]
            change Tx.Runs _ session _ (session.write (.claim (rail, nonce) owner))
            rw [kept]
            exact Tx.runs_pure _
          · simp only [Option.any_some, ne_eq, own, not_false_eq_true, decide_true, if_true,
              if_false]
            exact Tx.runs_exit _

theorem decideMove_runs :
    (decideMove ctx (inner.records.lookup ctx) target).Runs session
      (decided (inner.validateMove ctx target))
      (session.claiming ctx (inner.validateMove ctx target)) := by
  unfold decideMove Inner.validateMove
  cases transition : checkTransition (inner.records.lookup ctx) ctx target with
  | error error => exact Tx.runs_stop (require_error rfl)
  | ok passed => exact Tx.runs_bind (require_ok rfl) (Tx.runs_pure _)

theorem decideRelease_runs :
    (decideRelease ctx (inner.records.lookup ctx) target).Runs session
      (decided (inner.validateRelease ctx target))
      (session.claiming ctx (inner.validateRelease ctx target)) := by
  unfold decideRelease Inner.validateRelease
  cases transition : checkTransition (inner.records.lookup ctx) ctx target with
  | error error => exact Tx.runs_stop (require_error rfl)
  | ok passed =>
      refine Tx.runs_bind (require_ok rfl) ?_
      cases inner.records.lookup ctx with
      | none => exact require_error rfl
      | some record => exact Tx.runs_pure _

theorem decideDenied_runs (denials : session.view.denials ctx = inner.denials ctx) :
    (decideDenied ctx).Runs session (decided (inner.validateDenied ctx))
      (session.claiming ctx (inner.validateDenied ctx)) := by
  unfold decideDenied Inner.validateDenied
  refine Tx.runs_bind (Tx.runs_query trivial) ?_
  have counted : session.result (.countDenials ctx) = inner.denials ctx := denials
  rw [counted]
  split
  · exact Tx.runs_exit _
  · exact Tx.runs_pure _

theorem decideEffects_runs (mirrors : Mirrors inner session.view)
    (denials : session.view.denials ctx = inner.denials ctx) (body : EventBody) :
    (decideEffects ops ctx now (inner.records.lookup ctx) body).Runs session
      (decided (inner.validate ops ctx now body))
      (session.claiming ctx (inner.validate ops ctx now body)) := by
  cases body with
  | authorized mandate cart requestKey => exact decideAuthorized_runs mirrors mandate cart
  | paid rail reference nonce amount key => exact decidePaid_runs mirrors rail nonce
  | settled | compensated | delivered => exact decideMove_runs
  | settlementFailed | expired => exact decideRelease_runs
  | denied => exact decideDenied_runs denials

end Decide

namespace Mirrors

variable {inner : Inner} {tables : Tables}

theorem claimNonce (mirrors : Mirrors inner tables) (key : String × String) (ctx : ContextId) :
    Mirrors (inner.claimNonce key ctx) (tables.apply (.claim key ctx)) :=
  { mirrors with nonces := congrArg (·.insert key ctx) mirrors.nonces }

theorem reserve (mirrors : Mirrors inner tables) (now : Timestamp) (window : Option Int64)
    (mandate : MandateId) (next : Money) (ctx : ContextId) :
    Mirrors (inner.reserve now window mandate next)
      ((tables.apply (.reserve mandate next)).apply (.authorize ⟨mandate, ctx, now⟩)) := by
  have reservations := congrArg (·.insert mandate next) mirrors.reservations
  have counts : ∀ other since,
      ((tables.apply (.reserve mandate next)).apply (.authorize ⟨mandate, ctx, now⟩)).countSince
        other since = (inner.reserve now window mandate next).countSince other since := by
    intro other since
    have before := mirrors.counts other since
    rw [Inner.countSince_eq] at before
    rw [Inner.countSince_eq, Inner.times_reserve]
    change (tables.authorizations ++ [(⟨mandate, ctx, now⟩ : Authorization)]).countP _ = _
    rw [List.countP_append]
    change tables.countSince other since + _ = _
    rw [before]
    by_cases own : other = mandate
    · subst own
      rw [if_pos rfl, List.countP_append]
      simp
    · rw [if_neg own]
      simp [Ne.symm own]
  cases window <;> exact { mirrors with reservations := reservations, counts := counts }

theorem putRecord (mirrors : Mirrors inner tables) {ctx : ContextId} {record : Record}
    (own : record.ctx = ctx) :
    Mirrors (inner.putRecord ctx record) (tables.apply (.create record)) := by
  subst own
  exact { mirrors with contexts := congrArg (·.insert record.ctx record) mirrors.contexts }

theorem advanceRecord (mirrors : Mirrors inner tables) (ctx : ContextId) (body : EventBody) :
    Mirrors (inner.advanceRecord ctx body) (tables.apply (.advance ctx body)) := by
  unfold Inner.advanceRecord
  cases found : inner.records.lookup ctx with
  | none =>
      have absent : tables.contexts.lookup ctx = none := by rw [mirrors.contexts, found]
      have kept : tables.apply (.advance ctx body) = tables := by simp [Tables.apply, absent]
      rw [kept]
      exact mirrors
  | some record =>
      have present : tables.contexts.lookup ctx = some record := by rw [mirrors.contexts, found]
      rw [Tables.apply_advance present]
      exact { mirrors with
        contexts := congrArg (·.insert ctx (record.advance body)) mirrors.contexts }

theorem log (mirrors : Mirrors inner tables) (event : Event) :
    Mirrors (inner.log event) (tables.apply (.log event)) :=
  { mirrors with events := congrArg (· ++ [event]) mirrors.events }

theorem revoke (mirrors : Mirrors inner tables) (mandate : MandateId) :
    Mirrors (inner.revoke mandate) (tables.apply (.revoke mandate)) :=
  { mirrors with revocations := congrArg (insert mandate) mirrors.revocations }

end Mirrors

/-- The statements succeed and leave a view that mirrors the in-memory store. -/
def Tx.Leads (tx : Tx AppendOutcome Unit) (session : Session) (inner : Inner) : Prop :=
  ∃ view, tx.Runs session (.ok ()) { session with view := view } ∧ Mirrors inner view

section Write

variable {ops : DecimalOps} {inner : Inner} {session : Session} {ctx : ContextId}
  {now : Timestamp} {effects : Inner.Effects}

theorem writes_runs {write : Write} (admissible : write.Admissible session.view) :
    (Tx.query (.write write) : Tx AppendOutcome Unit).Runs session (.ok ())
      (session.write write) := by
  have ready : session.Ready (.write write) := admissible
  exact Tx.runs_query ready

theorem writeReserve_leads (session : Session) (mirrors : Mirrors inner session.view) :
    (writeReserve ctx now effects.reserve).Leads session (inner.taking now effects) := by
  unfold writeReserve Inner.taking
  cases effects.reserve with
  | none => exact ⟨session.view, Tx.runs_pure (), mirrors⟩
  | some taken =>
      obtain ⟨mandate, next⟩ := taken
      exact ⟨_, Tx.runs_bind (writes_runs trivial) (writes_runs trivial),
        mirrors.reserve now effects.window mandate next ctx⟩

theorem writeRelease_leads (session : Session) {given : Inner}
    (mirrors : Mirrors inner session.view)
    (released : inner.giving ops effects = .ok given) :
    (writeRelease ops effects.release).Leads session given := by
  unfold Inner.giving at released
  unfold writeRelease
  cases release : effects.release with
  | none =>
      rw [release] at released
      cases released
      exact ⟨session.view, Tx.runs_pure (), mirrors⟩
  | some freed =>
      obtain ⟨mandate, amount⟩ := freed
      rw [release] at released
      obtain ⟨next, left, made⟩ := bind_eq_ok.mp released
      cases made
      have held : session.result (.selectReservation mandate) = inner.reserved.lookup mandate := by
        rw [← mirrors.reservations]
        rfl
      have remains : releaseFrom ops (session.view.reservations.lookup mandate) mandate amount =
          .ok next := by
        rw [mirrors.reservations]
        exact left
      refine ⟨session.view.apply (.setAmount mandate next.amount), ?_, ?_⟩
      · refine Tx.runs_bind (Tx.runs_query trivial) ?_
        rw [held]
        exact Tx.runs_bind (require_ok left) (writes_runs trivial)
      · rw [Tables.apply_setAmount remains]
        exact { mirrors with
          reservations := congrArg (·.insert mandate next) mirrors.reservations }

theorem writeCreate_leads (session : Session) (mirrors : Mirrors inner session.view)
    (opens : ∀ record, effects.newRecord = some record →
      record.ctx = ctx ∧ inner.records.lookup ctx = none) :
    (writeCreate effects.newRecord).Leads session (inner.opening effects ctx) := by
  unfold writeCreate Inner.opening
  cases created : effects.newRecord with
  | none => exact ⟨session.view, Tx.runs_pure (), mirrors⟩
  | some record =>
      obtain ⟨own, absent⟩ := opens record created
      have admissible : (Write.create record).Admissible session.view := by
        change session.view.contexts.lookup record.ctx = none
        rw [own, mirrors.contexts, absent]
      exact ⟨_, writes_runs admissible, mirrors.putRecord own⟩

theorem writeAdvance_leads (session : Session) (mirrors : Mirrors inner session.view)
    (body : EventBody) :
    (writeAdvance ctx body).Leads session (inner.advanceRecord ctx body) := by
  have unchanged : (∀ record : Record, record.advance body = record) →
      inner.advanceRecord ctx body = inner := by
    intro same
    unfold Inner.advanceRecord
    cases found : inner.records.lookup ctx with
    | none => rfl
    | some record => simp [Inner.putRecord, same, Table.insert_lookup found]
  cases body with
  | authorized | denied =>
      rw [unchanged fun record => rfl]
      exact ⟨session.view, Tx.runs_pure (), mirrors⟩
  | _ => exact ⟨_, writes_runs trivial, mirrors.advanceRecord ctx _⟩

/-- Phase 2 commits in the database what it commits in memory. -/
theorem writeEffects_runs (session : Session) {given : Inner} {event : Event}
    (mirrors : Mirrors inner session.view)
    (released : (inner.taking now effects).giving ops effects = .ok given)
    (opens : ∀ record, effects.newRecord = some record →
      record.ctx = ctx ∧ given.records.lookup ctx = none)
    (fresh : ∀ other ∈ given.events, other.seq ≠ event.seq ∧ other.hash ≠ event.hash) :
    ∃ view, (writeEffects ops ctx now ⟨effects.reserve, effects.release, effects.newRecord⟩
        event).Runs session (.ok (.appended event)) (.idle view session.nextSeq) ∧
      Mirrors (((given.opening effects ctx).advanceRecord ctx event.body).log event) view := by
  obtain ⟨taken, reserves, first⟩ := writeReserve_leads session mirrors
  obtain ⟨freed, releases, second⟩ :=
    writeRelease_leads { session with view := taken } first released
  obtain ⟨opened, creates, third⟩ :=
    writeCreate_leads { session with view := freed } second opens
  obtain ⟨advanced, advances, fourth⟩ :=
    writeAdvance_leads { session with view := opened } third event.body
  have kept : ((given.opening effects ctx).advanceRecord ctx event.body).events = given.events := by
    unfold Inner.advanceRecord Inner.opening
    split <;> split <;> rfl
  have admissible : (Write.log event).Admissible advanced := by
    intro other listed
    rw [fourth.events, kept] at listed
    exact fresh other listed
  refine ⟨advanced.apply (.log event), ?_, fourth.log event⟩
  refine Tx.runs_bind reserves (Tx.runs_bind releases (Tx.runs_bind creates
    (Tx.runs_bind advances (Tx.runs_bind (writes_runs admissible)
      (Tx.runs_bind (Tx.runs_query trivial) (Tx.runs_pure _))))))

end Write

/-- What every run of the in-memory store keeps, as long as it is not pruned and every
row fits into its columns. -/
structure Logged (inner : Inner) : Prop where
  indexed : inner.byCtx = Inner.index inner.events
  numbered : inner.events.map Event.seq = List.range' 1 inner.lastSeq
  parsed : ∀ event ∈ inner.events, event.body.Parsed
  few : inner.records.keys.card ≤ inner.lastSeq
  storable : inner.lastSeq ≤ maxBigint

/-- The event can be stored: its number is a `BIGINT` and its digest is not in the
unique index. -/
def Storing (inner : Inner) (event : Event) : Prop :=
  event.seq ≤ maxBigint ∧ ∀ other ∈ inner.events, other.hash ≠ event.hash

namespace Logged

variable {inner : Inner} {tables : Tables}

theorem empty : Logged .empty where
  indexed := rfl
  numbered := rfl
  parsed := by simp [Inner.empty]
  few := by simp [Inner.empty]
  storable := Nat.zero_le _

theorem ascending (logged : Logged inner) : Ascending inner.events := by
  have increasing := List.pairwise_lt_range' (s := 1) (n := inner.lastSeq) 1 Nat.one_pos
  rw [← logged.numbered, List.pairwise_map] at increasing
  exact increasing

theorem seq_le (logged : Logged inner) {event : Event} (listed : event ∈ inner.events) :
    event.seq ≤ inner.lastSeq := by
  have member : event.seq ∈ inner.events.map Event.seq := List.mem_map_of_mem listed
  rw [logged.numbered, List.mem_range'_1] at member
  omega

theorem length_events (logged : Logged inner) : inner.events.length = inner.lastSeq := by
  have lengths := congrArg List.length logged.numbered
  rw [List.length_map, List.length_range'] at lengths
  exact lengths

theorem chain (logged : Logged inner) (mirrors : Mirrors inner tables) (ctx : ContextId) :
    tables.chain ctx = inner.chain ctx := by
  rw [Inner.chain_eq logged.indexed, Tables.chain, mirrors.events]

theorem bySeq_chain (logged : Logged inner) (mirrors : Mirrors inner tables) (ctx : ContextId) :
    bySeq (tables.chain ctx) = inner.chain ctx := by
  rw [logged.chain mirrors, Inner.chain_eq logged.indexed]
  exact (logged.ascending.filter _).bySeq_eq

theorem lastHash (logged : Logged inner) (mirrors : Mirrors inner tables) (ctx : ContextId) :
    (tables.lastHash ctx).getD .zero = inner.prevHash ctx := by
  rw [Tables.lastHash, logged.chain mirrors, Inner.chain_eq logged.indexed,
    (logged.ascending.filter _).latest_eq, Inner.prevHash, Inner.chain_eq logged.indexed]
  cases (inner.events.filter fun event => event.ctx = ctx).getLast? <;> rfl

theorem append (logged : Logged inner) {externals : Externals} {ctx : ContextId}
    {now : Timestamp} {body : EventBody} (parsed : body.Parsed)
    (stores : ∀ event, (inner.append externals ctx now body).1 = .ok (.appended event) →
      Storing inner event) : Logged (inner.append externals ctx now body).2 := by
  obtain ⟨result, same, -⟩ | ⟨event, after, writes, built, same⟩ :=
    inner.append_cases externals ctx now body
  · rw [same]
    exact logged
  · obtain ⟨seq, -, -, -, content, -⟩ := Event.new_eq_ok built
    obtain ⟨events, byCtx, -, -⟩ := writes.frame
    have small := (stores event (by rw [same])).1
    rw [same]
    refine ⟨?_, ?_, ?_, ?_, small⟩
    · exact Inner.index_log (by rw [byCtx, events, logged.indexed]) event
    · change (after.events ++ [event]).map Event.seq = List.range' 1 event.seq
      rw [events, List.map_append, logged.numbered, seq, List.range'_1_concat]
      simp [seq, Nat.add_comm]
    · intro other listed
      rcases List.mem_append.mp listed with earlier | last
      · rw [events] at earlier
        exact logged.parsed other earlier
      · rw [List.mem_singleton.mp last, content]
        exact parsed
    · change after.records.keys.card ≤ event.seq
      have few := logged.few
      rw [seq]
      obtain ⟨-, kept⟩ | ⟨_, _, _, -, -, kept⟩ | ⟨_, _, -, -, -, -, kept⟩ := writes.records
      · rw [kept]
        omega
      all_goals
        rw [kept]
        exact (Table.card_keys_insert_le _ _ _).trans (Nat.succ_le_succ few)

end Logged

end MandateLedger.Postgres
