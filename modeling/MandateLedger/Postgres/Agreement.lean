import MandateLedger.Memory.Queries
import MandateLedger.Postgres.Mirror
import MandateLedger.Process.Simulation

namespace MandateLedger.Memory.Inner

open MandateLedger.Core MandateLedger.Data

variable {ops : DecimalOps} {inner given : Inner} {ctx : ContextId} {now : Timestamp}
  {body : EventBody} {effects : Effects} {record : Record}

theorem validate_opens (valid : inner.validate ops ctx now body = .ok (.granted effects))
    (created : effects.newRecord = some record) :
    record.ctx = ctx ∧ inner.records.lookup ctx = none := by
  have moved : ∀ {target}, inner.validateMove ctx target = .ok (.granted effects) → False := by
    intro target valid
    obtain ⟨-, rest⟩ := check_bind_eq_ok.mp valid
    cases rest
    cases created
  have freed : ∀ {target}, inner.validateRelease ctx target = .ok (.granted effects) → False := by
    intro target valid
    obtain ⟨-, rest⟩ := check_bind_eq_ok.mp valid
    split at rest
    · cases rest
    · cases rest
      cases created
  cases body with
  | authorized mandate cart requestKey =>
      obtain ⟨transition, rest⟩ := check_bind_eq_ok.mp valid
      have absent := checkTransition_authorized.mp transition
      dsimp only at rest
      split at rest
      · cases rest
      · split at rest
        · cases rest
        · obtain ⟨verdict, -, rest⟩ := bind_eq_ok.mp rest
          cases verdict with
          | refused outcome => cases rest
          | granted next =>
              cases rest
              cases created
              exact ⟨rfl, absent⟩
  | paid rail reference nonce amount key =>
      obtain ⟨-, rest⟩ := check_bind_eq_ok.mp valid
      split at rest
      · cases rest
      · cases rest
        cases created
  | settled | compensated | delivered => exact (moved valid).elim
  | settlementFailed | expired => exact (freed valid).elim
  | denied =>
      change inner.validateDenied ctx = _ at valid
      unfold validateDenied at valid
      split at valid
      · cases valid
      · cases valid
        cases created

theorem giving_frame (released : (inner.taking now effects).giving ops effects = .ok given) :
    given.records = inner.records ∧ given.events = inner.events := by
  have taken : (inner.taking now effects).records = inner.records ∧
      (inner.taking now effects).events = inner.events := by
    unfold taking reserve widen
    split
    · exact ⟨rfl, rfl⟩
    · cases effects.window <;> exact ⟨rfl, rfl⟩
  unfold giving at released
  split at released
  · cases released
    exact taken
  · obtain ⟨next, -, made⟩ := bind_eq_ok.mp released
    cases made
    exact taken

theorem claiming_frame (inner : Inner) (effects : Effects) (ctx : ContextId) :
    (inner.claiming effects ctx).records = inner.records ∧
      (inner.claiming effects ctx).events = inner.events := by
  unfold claiming
  split <;> exact ⟨rfl, rfl⟩

end MandateLedger.Memory.Inner

namespace MandateLedger.Postgres

open MandateLedger.Core MandateLedger.Data MandateLedger.Memory MandateLedger.Process

/-- The two stores between two operations. -/
structure Agrees (inner : Inner) (db : Db Unit) : Prop where
  logged : Logged inner
  mirrors : Mirrors inner db.tables
  settled : Session.of db = .idle db.tables (inner.lastSeq + 1)

theorem agrees_initial : Agrees .empty .initial where
  logged := .empty
  mirrors := ⟨rfl, rfl, fun _ _ => rfl, rfl, rfl, rfl⟩
  settled := rfl

section Append

variable {hashtext : String → Int} {externals : Externals} {inner : Inner} {db : Db Unit}
  {tables : Tables} {nextSeq : Nat} {ctx : ContextId} {now : Timestamp} {body : EventBody}

theorem lockMandate_runs (session : Session) :
    (lockMandate hashtext body).Runs session (.ok ()) session := by
  cases body with
  | authorized => exact Tx.runs_query trivial
  | _ => exact Tx.runs_pure ()

theorem Logged.denials (logged : Logged inner) (mirrors : Mirrors inner tables) :
    tables.denials ctx = inner.denials ctx := by
  rw [Tables.denials, Inner.denials, logged.chain mirrors]

theorem decides (externals : Externals) (logged : Logged inner) (mirrors : Mirrors inner tables)
    (nextSeq : Nat) (ctx : ContextId) (now : Timestamp) (body : EventBody) :
    (decideEffects externals.decimals ctx now (tables.contexts.lookup ctx) body).Runs
      (.idle tables nextSeq) (decided (inner.validate externals.decimals ctx now body))
      ((Session.idle tables nextSeq).claiming ctx
        (inner.validate externals.decimals ctx now body)) := by
  rw [mirrors.contexts]
  exact decideEffects_runs mirrors (logged.denials mirrors) body

/-- A transaction that phase 1 ends leaves everything as it was. -/
theorem appendTx_stops (hashtext : String → Int) (nextSeq : Nat) (logged : Logged inner)
    (mirrors : Mirrors inner tables) {stop : Except StoreError AppendOutcome}
    (verdict : decided (inner.validate externals.decimals ctx now body) = .error stop) :
    (appendTx hashtext externals ctx now body).Runs (.idle tables nextSeq) (.error stop)
      (.idle tables nextSeq) := by
  have runs := decides externals logged mirrors nextSeq ctx now body
  rw [verdict] at runs
  have unclaimed : (Session.idle tables nextSeq).claiming ctx
      (inner.validate externals.decimals ctx now body) = .idle tables nextSeq := by
    unfold Session.claiming
    split
    · next granted =>
        rw [granted] at verdict
        cases verdict
    · rfl
  rw [unclaimed] at runs
  exact Tx.runs_bind (Tx.runs_query trivial) (Tx.runs_bind (lockMandate_runs _)
    (Tx.runs_bind (Tx.runs_query trivial) (Tx.runs_stop runs)))

theorem claiming_mirrors (mirrors : Mirrors inner tables) (nextSeq : Nat) (ctx : ContextId)
    (effects : Inner.Effects) :
    ∃ view, (Session.idle tables nextSeq).claiming ctx (.ok (.granted effects)) =
        ⟨tables, view, nextSeq⟩ ∧ Mirrors (inner.claiming effects ctx) view := by
  cases consumed : effects.consumeNonce with
  | none =>
      refine ⟨tables, by simp [Session.claiming, consumed, Session.idle], ?_⟩
      rw [Inner.claiming, consumed]
      exact mirrors
  | some key =>
      refine ⟨tables.apply (.claim key ctx), ?_, ?_⟩
      · simp [Session.claiming, consumed, Session.idle, Session.write]
      · rw [Inner.claiming, consumed]
        exact mirrors.claimNonce key ctx

theorem appendTx_commits (hashtext : String → Int) (logged : Logged inner)
    (mirrors : Mirrors inner tables) {effects : Inner.Effects} {event : Event} {given : Inner}
    (valid : inner.validate externals.decimals ctx now body = .ok (.granted effects))
    (built : Event.new externals (inner.prevHash ctx) (inner.lastSeq + 1) ctx now body = .ok event)
    (released : (inner.taking now effects).giving externals.decimals effects = .ok given)
    (stores : Storing inner event) :
    ∃ view, (appendTx hashtext externals ctx now body).Runs (.idle tables (inner.lastSeq + 1))
        (.ok (.appended event)) (.idle view (inner.lastSeq + 2)) ∧
      Mirrors (((given.noting effects ctx).advanceRecord ctx event.body).log event) view := by
  obtain ⟨seq, -, -, -, -, -⟩ := Event.new_eq_ok built
  have runs := decides externals logged mirrors (inner.lastSeq + 1) ctx now body
  rw [valid] at runs
  obtain ⟨claimed, claims, holds⟩ :=
    claiming_mirrors mirrors (inner.lastSeq + 1) ctx effects
  rw [claims] at runs
  obtain ⟨claimedRecords, claimedEvents⟩ := inner.claiming_frame effects ctx
  have given' := Inner.giving_claiming ctx released
  obtain ⟨records, events⟩ := Inner.giving_frame given'
  have opens : ∀ record, effects.newRecord = some record →
      record.ctx = ctx ∧ (given.claiming effects ctx).records.lookup ctx = none := by
    intro record created
    rw [records, claimedRecords]
    exact Inner.validate_opens valid created
  have fresh : ∀ other ∈ (given.claiming effects ctx).events,
      other.seq ≠ event.seq ∧ other.hash ≠ event.hash := by
    intro other listed
    rw [events, claimedEvents] at listed
    have below := logged.seq_le listed
    exact ⟨by omega, stores.2 other listed⟩
  obtain ⟨view, writes, final⟩ := writeEffects_runs
    ⟨tables, claimed, inner.lastSeq + 2⟩ holds given' opens fresh
  refine ⟨view, ?_, final⟩
  refine Tx.runs_bind (Tx.runs_query trivial) (Tx.runs_bind (lockMandate_runs _)
    (Tx.runs_bind (Tx.runs_query trivial) (Tx.runs_bind runs (Tx.runs_bind (Tx.runs_query trivial)
      (Tx.runs_bind (Tx.runs_query trivial) (Tx.runs_bind (Tx.runs_query trivial)
        (Tx.runs_bind (require_ok ?_) writes)))))))
  have last : claimed.lastHash ctx = tables.lastHash ctx := by
    rw [Tables.lastHash, Tables.lastHash, Tables.chain, Tables.chain, holds.events, claimedEvents,
      mirrors.events]
  have previous : (claimed.lastHash ctx).getD .zero = inner.prevHash ctx := by
    rw [last]
    exact logged.lastHash mirrors ctx
  change (Event.new externals ((claimed.lastHash ctx).getD .zero) (inner.lastSeq + 1) ctx now
    body).mapError StoreError.canonicalize = .ok event
  rw [previous, built]
  rfl

theorem Agrees.of_session (logged : Logged inner) (mirrors : Mirrors inner tables)
    (stands : Session.of db = .idle tables (inner.lastSeq + 1)) : Agrees inner db := by
  have same : db.tables = tables := congrArg Session.committed stands
  subst same
  exact ⟨logged, mirrors, stands⟩

/-- The operations the stores are compared on: patterns came from `parse`, nothing fails
in the canonicalization or in a release, and the row of a new event can be stored. -/
def Comparable (externals : Externals) (inner : Inner) : StoreCall → Prop
  | .append ctx now body =>
      let reply := (inner.append externals ctx now body).1
      body.Parsed ∧ (∀ error, reply ≠ .error (.canonicalize error)) ∧
        (body.resultingState = some .settlementFailed ∨ body.resultingState = some .expired →
          ∀ error, reply = .error error →
            ∃ source target, error = .illegalTransition ctx source target) ∧
        ∀ event, reply = .ok (.appended event) → Storing inner event
  | _ => True

theorem releaseFrom_not_illegal {ops : DecimalOps} {reserved : Option Money} {mandate : MandateId}
    {amount : Money} {source : Option PaymentState} {target : PaymentState} :
    releaseFrom ops reserved mandate amount ≠ .error (.illegalTransition ctx source target) := by
  intro failed
  cases reserved with
  | none => cases failed
  | some current =>
      rcases bind_eq_error.mp failed with failed | ⟨next, -, failed⟩
      · obtain ⟨cause, -, same⟩ := mapError_eq_error.mp failed
        cases same
      · rcases bind_eq_error.mp failed with failed | ⟨_, -, failed⟩
        · cases (ensure_eq_error.mp failed).2
        · cases failed

/-- The ways a comparable append ends: phase 1 stops it, or it is committed. -/
theorem Comparable.append_cases
    (comparable : Comparable externals inner (.append ctx now body)) :
    (∃ stop, decided (inner.validate externals.decimals ctx now body) = .error stop ∧
      inner.append externals ctx now body = (stop, inner)) ∨
    ∃ effects event given,
      inner.validate externals.decimals ctx now body = .ok (.granted effects) ∧
      Event.new externals (inner.prevHash ctx) (inner.lastSeq + 1) ctx now body = .ok event ∧
      (inner.taking now effects).giving externals.decimals effects = .ok given ∧
      inner.append externals ctx now body = (.ok (.appended event),
        ((given.noting effects ctx).advanceRecord ctx event.body).log event) := by
  obtain ⟨-, canonical, released, -⟩ := comparable
  cases valid : inner.validate externals.decimals ctx now body with
  | error error => exact .inl ⟨.error error, rfl, by rw [Inner.append, valid]⟩
  | ok verdict =>
  cases verdict with
  | refused outcome => exact .inl ⟨.ok outcome, rfl, by rw [Inner.append, valid]⟩
  | granted effects =>
  cases built : Event.new externals (inner.prevHash ctx) (inner.lastSeq + 1) ctx now body with
  | error error =>
      have memory : inner.append externals ctx now body =
          (.error (.canonicalize error), inner) := by
        rw [Inner.append, valid]
        simp [built]
      rw [memory] at canonical
      exact absurd rfl (canonical error)
  | ok event =>
  have committed : inner.append externals ctx now body =
      inner.commit externals.decimals now effects event := by
    rw [Inner.append, valid]
    simp [built]
  obtain ⟨-, own, -, -, content, -⟩ := Event.new_eq_ok built
  cases given : (inner.taking now effects).giving externals.decimals effects with
  | error error =>
      have failed : inner.commit externals.decimals now effects event =
          (.error error, inner.taking now effects) := by rw [Inner.commit_eq, given]
      obtain ⟨record, target, -, moves, giving, -, fails⟩ :=
        Inner.validate_fails valid own content failed
      have frees : body.resultingState = some .settlementFailed ∨
          body.resultingState = some .expired := by
        rcases giving with rfl | rfl
        · exact .inl moves
        · exact .inr moves
      obtain ⟨source, wanted, illegal⟩ := released frees error (by rw [committed, failed])
      rw [illegal] at fails
      exact absurd fails releaseFrom_not_illegal
  | ok left =>
      refine .inr ⟨effects, event, left, rfl, rfl, given, ?_⟩
      rw [committed, Inner.commit_eq, given, own]

theorem Agrees.append (agrees : Agrees inner db) (hashtext : String → Int)
    (complaint : Tree → String) (comparable : Comparable externals inner (.append ctx now body)) :
    (serve hashtext externals complaint db (.append ctx now body)).1 =
        (inner.append externals ctx now body).1 ∧
      Agrees (inner.append externals ctx now body).2
        (serve hashtext externals complaint db (.append ctx now body)).2 := by
  have logged := agrees.logged.append comparable.1 comparable.2.2.2
  obtain ⟨stop, verdict, memory⟩ | ⟨effects, event, given, valid, built, released, memory⟩ :=
    comparable.append_cases
  · have runs := appendTx_stops hashtext (inner.lastSeq + 1) agrees.logged agrees.mirrors verdict
    rw [← agrees.settled] at runs
    obtain ⟨replied, stands⟩ := runs.rolledBack
    rw [agrees.settled] at stands
    rw [memory]
    exact ⟨replied, Agrees.of_session agrees.logged agrees.mirrors stands⟩
  · have stores := comparable.2.2.2 event (by rw [memory])
    obtain ⟨view, runs, mirrors⟩ :=
      appendTx_commits hashtext agrees.logged agrees.mirrors valid built released stores
    rw [← agrees.settled] at runs
    obtain ⟨replied, stands⟩ := runs.committed
    have seq := (Event.new_eq_ok built).1
    rw [memory] at logged ⊢
    refine ⟨replied, Agrees.of_session logged mirrors ?_⟩
    change Session.of _ = .idle view (event.seq + 1)
    rw [seq]
    exact stands

theorem Agrees.revoke (agrees : Agrees inner db) (mandate : MandateId) (externals : Externals)
    (hashtext : String → Int) (complaint : Tree → String) :
    (serve hashtext externals complaint db (.revoke mandate)).1 = .ok () ∧
      Agrees (inner.revoke mandate)
        (serve hashtext externals complaint db (.revoke mandate)).2 := by
  have runs : (revokeTx hashtext mandate).Runs (.idle db.tables (inner.lastSeq + 1)) (.ok ())
      (.idle (db.tables.apply (.revoke mandate)) (inner.lastSeq + 1)) := by
    refine Tx.runs_bind (Tx.runs_query trivial) (Tx.runs_bind (Tx.runs_query ?_)
      (Tx.runs_query trivial))
    trivial
  rw [← agrees.settled] at runs
  obtain ⟨replied, stands⟩ := runs.committed
  have logged : Logged (inner.revoke mandate) := { agrees.logged with }
  exact ⟨replied, Agrees.of_session logged (agrees.mirrors.revoke mandate) stands⟩

end Append

section Queries

variable {inner : Inner} {tables : Tables} {complaint : Tree → String}

theorem readRecord_eq (mirrors : Mirrors inner tables) (ctx : ContextId) :
    tables.readRecord ctx = .ok (inner.records.lookup ctx) := by
  rw [Tables.readRecord, mirrors.contexts]
  cases inner.records.lookup ctx with
  | none => rfl
  | some record =>
      rw [Option.map_some, Option.mapM_some, recordFromRow_of]
      rfl

theorem readReserved_eq (mirrors : Mirrors inner tables) (mandate : MandateId) :
    tables.readReserved mandate = .ok (inner.reserved.lookup mandate) := by
  rw [Tables.readReserved, mirrors.reservations]
  cases inner.reserved.lookup mandate with
  | none => rfl
  | some money =>
      rw [Option.map_some, Option.mapM_some, moneyFromSql_columns]
      rfl

theorem readEvents_eq {events : List Event} (parsed : ∀ event ∈ events, event.body.Parsed) :
    Tables.readEvents complaint events = .ok events :=
  mapM_map_eq_ok fun event listed => eventFromRow_of (parsed event listed)

theorem Logged.parsed_chain (logged : Logged inner) (ctx : ContextId) :
    ∀ event ∈ inner.chain ctx, event.body.Parsed := by
  intro event listed
  rw [Inner.chain_eq logged.indexed] at listed
  exact logged.parsed event (List.mem_of_mem_filter listed)

theorem typeOf_of (event : Event) : Tables.typeOf (.of event) = some event.body.tag := rfl

theorem tag_eq_authorized {body : EventBody} :
    body.tag = "authorized" ↔ ∃ mandate, body.mandate? = some mandate := by
  cases body <;> simp [EventBody.tag, EventBody.mandate?]

theorem authorizedMandate_eq (logged : Logged inner) (mirrors : Mirrors inner tables)
    (ctx : ContextId) :
    tables.authorizedMandate complaint ctx = .ok (inner.authorizedMandate ctx) := by
  have parsed := logged.parsed_chain ctx
  rw [Tables.authorizedMandate, logged.bySeq_chain mirrors, Inner.authorizedMandate]
  generalize inner.chain ctx = chain at parsed
  induction chain with
  | nil => rfl
  | cons event rest ih =>
      have later := ih fun other listed => parsed other (List.mem_cons_of_mem _ listed)
      have own := parsed event List.mem_cons_self
      by_cases tagged : event.body.tag = "authorized"
      · obtain ⟨mandate, carried⟩ := tag_eq_authorized.mp tagged
        have found : Tables.typeOf (.of event) = some "authorized" := by rw [typeOf_of, tagged]
        have body : bodyFromSql complaint (EventRow.of event).body = .ok event.body :=
          bodyFromSql_toJson own
        rw [List.map_cons, List.find?_cons_of_pos (by simp [found]), List.findSome?_cons, carried]
        dsimp only
        rw [body]
        cases content : event.body with
        | authorized other cart requestKey =>
            rw [content] at carried
            cases carried
            rfl
        | _ =>
            rw [content] at carried
            cases carried
      · have other : event.body.mandate? = none := by
          cases carried : event.body.mandate? with
          | none => rfl
          | some mandate => exact absurd (tag_eq_authorized.mpr ⟨mandate, carried⟩) tagged
        rw [List.map_cons, List.find?_cons_of_neg (by simp [typeOf_of, tagged]),
          List.findSome?_cons, other]
        exact later

theorem bigint_lt_iff {after seq : Nat} (small : seq ≤ maxBigint) :
    bigint after < seq ↔ after < seq := by
  unfold bigint
  omega

theorem take_bigint {α : Type} {items : List α} (short : items.length ≤ maxBigint) (limit : Nat) :
    items.take (bigint limit) = items.take limit := by
  unfold bigint
  rcases le_total limit maxBigint with small | large
  · rw [min_eq_left small]
  · rw [min_eq_right large, List.take_of_length_le short,
      List.take_of_length_le (short.trans large)]

theorem eventsAfter_eq (logged : Logged inner) (mirrors : Mirrors inner tables)
    (after limit : Nat) : tables.eventsAfter after limit = inner.eventsAfter after limit := by
  have same : (inner.events.filter fun event => bigint after < event.seq) =
      inner.events.filter fun event => after < event.seq := by
    apply List.filter_congr
    intro event listed
    have small := (logged.seq_le listed).trans logged.storable
    simp [bigint_lt_iff small]
  have short : (inner.events.filter fun event => after < event.seq).length ≤ maxBigint := by
    have all := List.length_filter_le (fun event : Event => decide (after < event.seq)) inner.events
    have storable := logged.storable
    rw [logged.length_events] at all
    omega
  rw [Tables.eventsAfter, mirrors.events, same, (logged.ascending.filter _).bySeq_eq,
    take_bigint short]
  rfl

theorem maxSeq_eq (logged : Logged inner) (mirrors : Mirrors inner tables) :
    tables.maxSeq = inner.lastSeq := by
  rw [Tables.maxSeq, mirrors.events, logged.numbered]
  cases last : inner.lastSeq with
  | zero => rfl
  | succ count =>
      have greatest : (List.range' 1 (count + 1)).max? = some (count + 1) := by
        simp only [List.max?_eq_some_iff, List.mem_range'_1]
        refine ⟨by omega, ?_⟩
        intro seq listed
        omega
      rw [greatest]
      rfl

/-- The `WHERE` clause accepts the rows of the records the filter accepts. -/
theorem selects_of (filter : RecordFilter) (after : Option ContextId) (record : Record) :
    Tables.selects (filter.mandate.map StringId.val) (filter.state.map stateToSql)
        (after.map StringId.val) (.of record) =
      (filter.accepts record && after.all (· < record.ctx)) := by
  refine congrArg₂ (· && ·) (congrArg₂ (· && ·) ?_ ?_) ?_
  · cases filter.mandate with
    | none => rfl
    | some id => exact decide_eq_decide.mpr (StringId.val_inj.trans eq_comm)
  · cases filter.state with
    | none => rfl
    | some state => exact decide_eq_decide.mpr (stateToSql_inj.trans eq_comm)
  · cases after with
    | none => rfl
    | some cursor => exact decide_eq_decide.mpr StringId.lt_iff.symm

theorem scan_eq (logged : Logged inner) (mirrors : Mirrors inner tables) (filter : RecordFilter)
    (after : Option ContextId) (limit : Nat) :
    tables.scan filter after limit = .ok (inner.scan filter after limit) := by
  rw [Tables.scan, Inner.scan, mirrors.contexts, List.filter_map]
  have accepted : (inner.records.rows.filter (Tables.selects (filter.mandate.map StringId.val)
      (filter.state.map stateToSql) (after.map StringId.val) ∘ RecordRow.of)) =
      inner.records.rows.filter fun record =>
        filter.accepts record && after.all (· < record.ctx) := by
    apply List.filter_congr
    intro record _
    exact selects_of filter after record
  rw [accepted]
  generalize counted : (inner.records.rows.filter fun record =>
    filter.accepts record && after.all (· < record.ctx)) = hits
  have sorted : (hits.map RecordRow.of).insertionSort
      (fun first second => byteOrder first.ctx ≤ byteOrder second.ctx) =
      (hits.insertionSort fun first second => first.ctx ≤ second.ctx).map RecordRow.of := by
    symm
    apply List.map_insertionSort
    intro first _ second _
    exact StringId.le_iff
  have short : (hits.insertionSort fun first second => first.ctx ≤ second.ctx).length ≤
      maxBigint := by
    rw [List.length_insertionSort, ← counted]
    calc _ ≤ inner.records.rows.length := List.length_filter_le _ _
      _ ≤ inner.records.keys.card := Table.length_rows_le _
      _ ≤ inner.lastSeq := logged.few
      _ ≤ maxBigint := logged.storable
  rw [sorted, ← List.map_take, take_bigint short]
  exact mapM_map_eq_ok fun record _ => recordFromRow_of record

end Queries

theorem Agrees.serve {externals : Externals} {inner : Inner} {db : Db Unit} {call : StoreCall}
    (hashtext : String → Int) (complaint : Tree → String) (agrees : Agrees inner db)
    (comparable : Comparable externals inner call) :
    (Postgres.serve hashtext externals complaint db call).1 = (inner.serve externals call).1 ∧
      Agrees (inner.serve externals call).2
        (Postgres.serve hashtext externals complaint db call).2 := by
  have logged := agrees.logged
  have mirrors := agrees.mirrors
  cases call with
  | append ctx now body => exact agrees.append hashtext complaint comparable
  | revoke mandate => exact agrees.revoke mandate externals hashtext complaint
  | record ctx => exact ⟨readRecord_eq mirrors ctx, agrees⟩
  | events ctx =>
      refine ⟨?_, agrees⟩
      change Tables.readEvents complaint (bySeq (db.tables.chain ctx)) = .ok (inner.chain ctx)
      rw [logged.bySeq_chain mirrors]
      exact readEvents_eq (logged.parsed_chain ctx)
  | authorizedMandate ctx => exact ⟨authorizedMandate_eq logged mirrors ctx, agrees⟩
  | eventsAfter after limit =>
      refine ⟨?_, agrees⟩
      change Tables.readEvents complaint (db.tables.eventsAfter after limit) =
        .ok (inner.eventsAfter after limit)
      rw [eventsAfter_eq logged mirrors]
      refine readEvents_eq fun event listed => logged.parsed event ?_
      exact List.mem_of_mem_filter (List.mem_of_mem_take listed)
  | scan filter after limit => exact ⟨scan_eq logged mirrors filter after limit, agrees⟩
  | lastSeq =>
      refine ⟨?_, agrees⟩
      change seqFromSql db.tables.maxSeq = .ok inner.lastSeq
      rw [maxSeq_eq logged mirrors]
      simp [seqFromSql]
  | reserved mandate => exact ⟨readReserved_eq mirrors mandate, agrees⟩
  | isRevoked mandate =>
      refine ⟨?_, agrees⟩
      change Except.ok (decide (mandate ∈ db.tables.revocations)) = _
      rw [mirrors.revocations]
      rfl

instance (inner : Inner) (event : Event) : Decidable (Storing inner event) :=
  inferInstanceAs (Decidable
    (event.seq ≤ maxBigint ∧ ∀ other ∈ inner.events, other.hash ≠ event.hash))

theorem Comparable.of_isOk {externals : Externals} {inner : Inner} {ctx : ContextId}
    {now : Timestamp} {body : EventBody} (parsed : body.Parsed)
    (answered : (inner.append externals ctx now body).1.isOk = true)
    (stores : ∀ event ∈ appendedEvent (inner.append externals ctx now body).1,
      Storing inner event) : Comparable externals inner (.append ctx now body) := by
  dsimp only [Comparable]
  generalize (inner.append externals ctx now body).1 = reply at answered stores
  cases reply with
  | error error => cases answered
  | ok outcome =>
      refine ⟨parsed, by simp, by simp, ?_⟩
      intro event appended
      cases appended
      exact stores event rfl

namespace Sample

open Core.Sample

theorem mandate_parsed (principal : PrincipalId) : (mandate principal).body.scope.Parsed := by
  intro pattern listed
  have any : pattern = .any := List.mem_singleton.mp listed
  exact ⟨"*", any ▸ by decide⟩

/-- A purchase, one over the budget, the release of the first and a revocation, with
queries in between. -/
def history : List StoreCall :=
  [ .append firstCtx ⟨10⟩ (.authorized (mandate alice) (cart.snapshot Core.Sample.sha256) "k1"),
    .append secondCtx ⟨11⟩ (.authorized (mandate alice) (cart.snapshot Core.Sample.sha256) "k2"),
    .reserved mandateId,
    .append firstCtx ⟨12⟩ .expired,
    .revoke mandateId,
    .append secondCtx ⟨13⟩ (.authorized (mandate alice) smallCart "k3"),
    .scan ⟨none, some .expired⟩ none (2 ^ 64 - 1),
    .eventsAfter 1 (2 ^ 64 - 1),
    .lastSeq ]

theorem history_comparable :
    Along (Inner.serve externals) (Comparable externals) .empty history := by
  have signed : ∀ cart key, (EventBody.authorized (mandate alice) cart key).Parsed := by
    intro cart key presented same
    cases same
    exact mandate_parsed alice
  have plain : EventBody.expired.Parsed := by
    intro presented same
    cases same
  exact ⟨.of_isOk (signed _ _) (by decide +kernel) (by decide +kernel),
    .of_isOk (signed _ _) (by decide +kernel) (by decide +kernel), trivial,
    .of_isOk plain (by decide +kernel) (by decide +kernel), trivial,
    .of_isOk (signed _ _) (by decide +kernel) (by decide +kernel), trivial, trivial, trivial,
    trivial⟩

end Sample

/-- Every operation of every sequence is answered alike by an empty in-memory store and
an empty database. -/
theorem stores_agree (hashtext : String → Int) (externals : Externals) (complaint : Tree → String)
    (calls : List StoreCall)
    (comparable : Along (Inner.serve externals) (Comparable externals) .empty calls) :
    answers (serve hashtext externals complaint) .initial calls =
      answers (Inner.serve externals) .empty calls :=
  answers_eq (fun agrees met => agrees.serve hashtext complaint met) agrees_initial comparable

theorem history_agrees :
    Along (Inner.serve Sample.externals) (Comparable Sample.externals) .empty Sample.history ∧
      answers (serve Sample.hashtext Sample.externals fun _ => "") .initial Sample.history =
        answers (Inner.serve Sample.externals) .empty Sample.history :=
  ⟨Sample.history_comparable, stores_agree _ _ _ _ Sample.history_comparable⟩

end MandateLedger.Postgres
