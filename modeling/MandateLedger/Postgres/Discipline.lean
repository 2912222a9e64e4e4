import MandateLedger.Postgres.Append

namespace MandateLedger.Postgres

open MandateLedger.Core MandateLedger.Data MandateLedger.Process

/-! # What a transaction may rely on

Each advisory lock keeps certain rows as they are: the context lock the record
and the chain of a context, the mandate lock the revocation and the
authorizations of a mandate, the log lock everything a commit writes.  No lock
an authorization holds protects the reservation it has read: a release commits
without the mandate lock.  How far that number may move is left to a `Policy`,
together with an invariant of the committed tables.
-/

section Commits

variable (ops : DecimalOps) (Recent : Option Money → Option Money → Prop) (tables : Tables)
  (ctx : ContextId) (now : Timestamp)

/-- An authorization may go through.  The total it adds to was read some time ago. -/
structure Opens (mandate : Mandate) (cart : CartSnapshot) (next : Money) : Prop where
  absent : tables.contexts.lookup ctx = none
  active : mandate.body.id ∉ tables.revocations
  paced : checkVelocity mandate.body.scope now (tables.countSince mandate.body.id) = none
  budget : ∃ held, checkBudget ops mandate.body.scope cart.claims.total held = .ok (.granted next) ∧
    Recent held (tables.reservations.lookup mandate.body.id)

structure Moves (body : EventBody) (target : PaymentState) (record : Record) : Prop where
  moves : body.resultingState = some target
  later : target ≠ .authorized
  found : tables.contexts.lookup ctx = some record
  legal : record.state.canTransitionTo target = true

/-- What phase 1 leaves: the nonce it claimed, and the effects to be written. -/
inductive Decides : EventBody → List Write → Effects → Prop where
  | authorized {mandate : Mandate} {cart : CartSnapshot} {requestKey : String} {next : Money}
      (opens : Opens ops Recent tables ctx now mandate cart next) :
      Decides (.authorized mandate cart requestKey) []
        ⟨some (mandate.body.id, next), none, some (Record.opened ctx mandate cart)⟩
  | claimed {rail reference nonce : String} {amount : Money} {key : Hash32} {record : Record}
      (moves : Moves tables ctx (.paid rail reference nonce amount key) .paid record)
      (free : tables.nonces.lookup (rail, nonce) = none) :
      Decides (.paid rail reference nonce amount key) [.claim (rail, nonce) ctx] .default
  | replayed {rail reference nonce : String} {amount : Money} {key : Hash32} {record : Record}
      (moves : Moves tables ctx (.paid rail reference nonce amount key) .paid record)
      (own : tables.nonces.lookup (rail, nonce) = some ctx) :
      Decides (.paid rail reference nonce amount key) [] .default
  | moved {body : EventBody} {target : PaymentState} {record : Record}
      (moves : Moves tables ctx body target record)
      (plain : target = .settled ∨ target = .compensated ∨ target = .delivered) :
      Decides body [] .default
  | released {body : EventBody} {target : PaymentState} {record : Record}
      (moves : Moves tables ctx body target record)
      (giving : target = .settlementFailed ∨ target = .expired) :
      Decides body [] ⟨none, some (record.mandateId, record.amount), none⟩
  | denied {stage : Stage} {reason : DenyReason} {detail : String}
      (uncapped : tables.denials ctx < denialCap) :
      Decides (.denied stage reason detail) [] .default

end Commits

/-- The tables a commit of an append leaves. -/
inductive Commits (ops : DecimalOps) (Recent : Option Money → Option Money → Prop)
    (tables : Tables) (event : Event) : Tables → Prop where
  | authorized {mandate : Mandate} {cart : CartSnapshot} {requestKey : String} {next : Money}
      (body : event.body = .authorized mandate cart requestKey)
      (opens : Opens ops Recent tables event.ctx event.recordedAt mandate cart next) :
      Commits ops Recent tables event
        { tables with
          reservations := tables.reservations.insert mandate.body.id next
          authorizations :=
            tables.authorizations ++ [⟨mandate.body.id, event.ctx, event.recordedAt⟩]
          contexts := tables.contexts.insert event.ctx (Record.opened event.ctx mandate cart)
          events := tables.events ++ [event] }
  | claimed {rail reference nonce : String} {amount : Money} {key : Hash32} {record : Record}
      (body : event.body = .paid rail reference nonce amount key)
      (moves : Moves tables event.ctx event.body .paid record)
      (free : tables.nonces.lookup (rail, nonce) = none) :
      Commits ops Recent tables event
        { tables with
          nonces := tables.nonces.insert (rail, nonce) event.ctx
          contexts := tables.contexts.insert event.ctx (record.advance event.body)
          events := tables.events ++ [event] }
  | replayed {rail reference nonce : String} {amount : Money} {key : Hash32} {record : Record}
      (body : event.body = .paid rail reference nonce amount key)
      (moves : Moves tables event.ctx event.body .paid record)
      (own : tables.nonces.lookup (rail, nonce) = some event.ctx) :
      Commits ops Recent tables event
        { tables with
          contexts := tables.contexts.insert event.ctx (record.advance event.body)
          events := tables.events ++ [event] }
  | moved {target : PaymentState} {record : Record}
      (moves : Moves tables event.ctx event.body target record)
      (plain : target = .settled ∨ target = .compensated ∨ target = .delivered) :
      Commits ops Recent tables event
        { tables with
          contexts := tables.contexts.insert event.ctx (record.advance event.body)
          events := tables.events ++ [event] }
  | released {target : PaymentState} {record : Record} {next : Money}
      (moves : Moves tables event.ctx event.body target record)
      (giving : target = .settlementFailed ∨ target = .expired)
      (given : releaseFrom ops (tables.reservations.lookup record.mandateId) record.mandateId
        record.amount = .ok next) :
      Commits ops Recent tables event
        { tables with
          reservations := tables.reservations.insert record.mandateId next
          contexts := tables.contexts.insert event.ctx (record.advance event.body)
          events := tables.events ++ [event] }
  | denied (refused : event.body.isDenied = true)
      (uncapped : tables.denials event.ctx < denialCap) :
      Commits ops Recent tables event { tables with events := tables.events ++ [event] }

/-- A commit of an append: the event follows its context's chain and every
committed event, and the tables change accordingly. -/
structure Appends (externals : Externals) (Recent : Option Money → Option Money → Prop)
    (tables : Tables) (event : Event) (after : Tables) : Prop where
  built : Event.new externals ((tables.lastHash event.ctx).getD .zero) event.seq event.ctx
    event.recordedAt event.body = .ok event
  last : ∀ other ∈ tables.events, other.seq < event.seq
  commits : Commits externals.decimals Recent tables event after

namespace Commits

variable {ops : DecimalOps} {Recent : Option Money → Option Money → Prop} {tables after : Tables}
  {event : Event}

theorem logged (commits : Commits ops Recent tables event after) :
    after.events = tables.events ++ [event] := by
  cases commits <;> rfl

theorem revocations (commits : Commits ops Recent tables event after) :
    after.revocations = tables.revocations := by
  cases commits <;> rfl

theorem other_context (commits : Commits ops Recent tables event after) {ctx : ContextId}
    (different : ctx ≠ event.ctx) :
    after.contexts.lookup ctx = tables.contexts.lookup ctx ∧ after.chain ctx = tables.chain ctx := by
  constructor
  · cases commits <;> simp [different]
  · simp [Tables.chain, commits.logged, Ne.symm different]

theorem nonce_kept (commits : Commits ops Recent tables event after) {key : String × String}
    {owner : ContextId} (claimed : tables.nonces.lookup key = some owner) :
    after.nonces.lookup key = some owner := by
  cases commits with
  | claimed body moves free =>
      rw [Table.lookup_insert_eq, if_neg]
      · exact claimed
      · rintro rfl
        simp [free] at claimed
  | authorized | replayed | moved | released | denied => exact claimed

theorem other_countSince (commits : Commits ops Recent tables event after) {mandate : MandateId}
    (other : ∀ signed, event.body.mandate? = some signed → signed.body.id ≠ mandate)
    (since : Timestamp) : after.countSince mandate since = tables.countSince mandate since := by
  cases commits with
  | @authorized signed cart requestKey next body opens =>
      have different := other signed (by simp [body, EventBody.mandate?])
      simp [Tables.countSince, List.countP_append, different]
  | claimed | replayed | moved | released | denied => rfl

/-- The total of a mandate only moves when it is authorized or gets something back. -/
theorem other_reservation (commits : Commits ops Recent tables event after) {mandate : MandateId}
    (other : ∀ signed, event.body.mandate? = some signed → signed.body.id ≠ mandate) :
    after.reservations.lookup mandate = tables.reservations.lookup mandate ∨
      ∃ target record next, Moves tables event.ctx event.body target record ∧
        record.mandateId = mandate ∧
        releaseFrom ops (tables.reservations.lookup mandate) mandate record.amount = .ok next ∧
        after.reservations.lookup mandate = some next := by
  cases commits with
  | @authorized signed cart requestKey next body opens =>
      have different := other signed (by simp [body, EventBody.mandate?])
      exact .inl (Finmap.lookup_insert_of_ne _ (Ne.symm different))
  | @released target record next moves giving given =>
      by_cases own : record.mandateId = mandate
      · subst own
        exact .inr ⟨target, record, next, moves, rfl, given, Finmap.lookup_insert _⟩
      · exact .inl (Finmap.lookup_insert_of_ne _ (Ne.symm own))
  | claimed | replayed | moved | denied => exact .inl rfl

end Commits

/-- What a group of results is about: the bodies clients append, an invariant of
the committed tables, how far a reservation may move while an authorization
that read it is open, the commits considered, and what may be returned. -/
structure Policy (Tid : Type) where
  Body : EventBody → Prop
  Inv : Tables → Prop
  Recent : Option Money → Option Money → Prop
  Allowed : Db Tid → Tid → Prop
  Result : Except StoreError AppendOutcome → Prop

structure Policy.Sound {Tid : Type} (policy : Policy Tid) (externals : Externals) : Prop where
  recent_refl : ∀ held, policy.Recent held held
  recent_trans : ∀ first second third, policy.Recent first second →
    policy.Recent second third → policy.Recent first third
  empty : policy.Inv .empty
  append : ∀ {db t event}, policy.Inv db.tables → policy.Allowed db t → policy.Body event.body →
    Appends externals policy.Recent db.tables event (db.view t) → policy.Inv (db.view t)
  revoke : ∀ {tables} mandate, policy.Inv tables → policy.Inv (tables.apply (.revoke mandate))
  -- a release commits while another transaction has read the reservation
  release : ∀ {db t u ctx body target record next}, policy.Inv db.tables → policy.Allowed db t →
    Moves db.tables ctx body target record →
    releaseFrom externals.decimals (db.tables.reservations.lookup record.mandateId)
      record.mandateId record.amount = .ok next →
    (db.view t).reservations.lookup record.mandateId = some next → u ≠ t →
    record.mandateId ∈ db.read u →
    policy.Recent (db.tables.reservations.lookup record.mandateId) (some next)
  result : ∀ {result}, (∀ message, result ≠ .error (.corrupt message)) → policy.Result result
  released : ∀ {tables ctx body target record error}, policy.Inv tables →
    Moves tables ctx body target record → target = .settlementFailed ∨ target = .expired →
    releaseFrom externals.decimals (tables.reservations.lookup record.mandateId)
      record.mandateId record.amount = .error error → policy.Result (.error error)

section Discipline

variable {Tid : Type}

/-- What the other transactions leave to `t`. -/
structure Undisturbed (hashtext : String → Int) (Recent : Option Money → Option Money → Prop)
    (t : Tid) (before after : Db Tid) : Prop where
  pending : after.pending t = before.pending t
  read : after.read t = before.read t
  locks : ∀ key, before.locks key = some t → after.locks key = some t
  sequence : before.nextSeq ≤ after.nextSeq
  nonces : ∀ key owner, before.tables.nonces.lookup key = some owner →
    after.tables.nonces.lookup key = some owner
  claims : ∀ key owner, Write.claim key owner ∈ before.pending t →
    after.tables.nonces.lookup key = before.tables.nonces.lookup key
  context : ∀ ctx, before.locks (contextKey hashtext ctx) = some t →
    after.tables.contexts.lookup ctx = before.tables.contexts.lookup ctx ∧
      after.tables.chain ctx = before.tables.chain ctx
  mandate : ∀ mandate, before.locks (mandateKey hashtext mandate) = some t →
    (mandate ∈ after.tables.revocations ↔ mandate ∈ before.tables.revocations) ∧
      (∀ since, after.tables.countSince mandate since = before.tables.countSince mandate since) ∧
      (mandate ∈ before.read t → Recent (before.tables.reservations.lookup mandate)
        (after.tables.reservations.lookup mandate))
  log : before.locks logKey = some t →
    after.tables = { before.tables with revocations := after.tables.revocations }

/-- The invariant of the database. -/
structure Consistent (policy : Policy Tid) (db : Db Tid) : Prop where
  tables : policy.Inv db.tables
  sequence : ∀ event ∈ db.tables.events, event.seq < db.nextSeq
  exclusive : ∀ t u key first second, Write.claim key first ∈ db.pending t →
    Write.claim key second ∈ db.pending u → t = u

namespace Undisturbed

variable {hashtext : String → Int} {Recent : Option Money → Option Money → Prop} {t : Tid}
  {before after : Db Tid}

theorem of_tables_eq (refl : ∀ held, Recent held held) (tables : after.tables = before.tables)
    (pending : after.pending t = before.pending t) (read : after.read t = before.read t)
    (locks : ∀ key, before.locks key = some t → after.locks key = some t)
    (sequence : before.nextSeq ≤ after.nextSeq) :
    Undisturbed hashtext Recent t before after where
  pending := pending
  read := read
  locks := locks
  sequence := sequence
  nonces := by simp [tables]
  claims := by simp [tables]
  context := by simp [tables]
  mandate := by simp [tables, refl]
  log := by simp [tables]

theorem trans (transitive : ∀ first second third, Recent first second → Recent second third →
      Recent first third) {middle : Db Tid}
    (first : Undisturbed hashtext Recent t before middle)
    (second : Undisturbed hashtext Recent t middle after) :
    Undisturbed hashtext Recent t before after where
  pending := second.pending.trans first.pending
  read := second.read.trans first.read
  locks key held := second.locks key (first.locks key held)
  sequence := first.sequence.trans second.sequence
  nonces key owner claimed := second.nonces key owner (first.nonces key owner claimed)
  claims key owner listed := by
    rw [second.claims key owner (first.pending ▸ listed), first.claims key owner listed]
  context ctx held := by
    obtain ⟨record, chain⟩ := second.context ctx (first.locks _ held)
    rw [record, chain]
    exact first.context ctx held
  mandate mandate held := by
    obtain ⟨revoked, counted, recent⟩ := first.mandate mandate held
    obtain ⟨revoked', counted', recent'⟩ := second.mandate mandate (first.locks _ held)
    refine ⟨revoked'.trans revoked, fun since => (counted' since).trans (counted since), ?_⟩
    intro looked
    exact transitive _ _ _ (recent looked) (recent' (first.read ▸ looked))
  log held := by
    rw [second.log (first.locks _ held), first.log held]

end Undisturbed

/-- The specification every transaction of the store keeps. -/
def discipline {externals : Externals} (hashtext : String → Int) (policy : Policy Tid)
    (sound : policy.Sound externals) : Discipline Tid (Db Tid) where
  Inv := Consistent policy
  Rely := Undisturbed hashtext policy.Recent
  Idle t db := db.pending t = []
  refl _ _ := .of_tables_eq sound.recent_refl rfl rfl rfl (fun _ held => held) le_rfl
  trans first second := first.trans sound.recent_trans second
  idle_stable related idle := related.pending.trans idle

end Discipline

section Steps

variable {Tid : Type} {externals : Externals} {hashtext : String → Int} {policy : Policy Tid}
  {sound : policy.Sound externals} {t : Tid} {db after : Db Tid}

theorem permits_of_tables_eq (consistent : Consistent policy db)
    (tables : after.tables = db.tables) (sequence : db.nextSeq ≤ after.nextSeq)
    (locks : ∀ u, u ≠ t → ∀ key, db.locks key = some u → after.locks key = some u)
    (pending : ∀ u, u ≠ t → after.pending u = db.pending u)
    (read : ∀ u, u ≠ t → after.read u = db.read u)
    (claims : ∀ key owner, Write.claim key owner ∈ after.pending t →
      Write.claim key owner ∈ db.pending t ∨ db.RowFree t (.nonce key)) :
    (discipline hashtext policy sound).Permits t db after := by
  -- a claim of `t` is not one of another transaction
  have disjoint : ∀ u, u ≠ t → ∀ key first second, Write.claim key first ∈ after.pending t →
      Write.claim key second ∉ after.pending u := by
    intro u different key first second claimed other
    rw [pending u different] at other
    rcases claims key first claimed with own | free
    · exact different (consistent.exclusive u t key second first other own)
    · exact free u different _ other rfl
  refine ⟨⟨?_, ?_, ?_⟩, ?_⟩
  · rw [tables]
    exact consistent.tables
  · intro event listed
    rw [tables] at listed
    exact (consistent.sequence event listed).trans_le sequence
  · intro first second key owner other claimed again
    by_cases own : first = t
    · by_cases same : second = t
      · rw [own, same]
      · exact absurd again (disjoint second same key owner other (own ▸ claimed))
    · by_cases same : second = t
      · exact absurd claimed (disjoint first own key other owner (same ▸ again))
      · rw [pending first own] at claimed
        rw [pending second same] at again
        exact consistent.exclusive first second key owner other claimed again
  · intro u different
    exact .of_tables_eq sound.recent_refl tables (pending u different) (read u different)
      (locks u different) sequence

variable [DecidableEq Tid]

theorem permits_push {write : Write} (consistent : Consistent policy db)
    (free : ∀ row ∈ write.row?, db.RowFree t row) :
    (discipline hashtext policy sound).Permits t db (db.push t write) := by
  refine permits_of_tables_eq consistent rfl le_rfl (fun _ _ _ held => held) ?_ (fun _ _ => rfl) ?_
  · intro u different
    exact Function.update_of_ne different _ _
  · intro key owner claimed
    simp only [Db.push, Function.update_self, List.mem_append, List.mem_singleton] at claimed
    rcases claimed with old | rfl
    · exact .inl old
    · exact .inr (free _ rfl)

theorem permits_abort (consistent : Consistent policy db) :
    (discipline hashtext policy sound).Permits t db (db.abort t) := by
  refine permits_of_tables_eq consistent rfl le_rfl ?_ ?_ ?_ ?_
  · intro u different key held
    simp [Db.abort, Db.finish, held, different]
  · intro u different
    exact Function.update_of_ne different _ _
  · intro u different
    exact Function.update_of_ne different _ _
  · intro key owner claimed
    simp [Db.abort, Db.finish] at claimed

theorem permits_after {statement : Statement} (consistent : Consistent policy db)
    (ready : db.Ready t statement) (unfinished : statement.isCommit = false) :
    (discipline hashtext policy sound).Permits t db (db.after t statement) := by
  have unchanged : (discipline hashtext policy sound).Permits t db db :=
    permits_of_tables_eq consistent rfl le_rfl (fun _ _ _ held => held) (fun _ _ => rfl)
      (fun _ _ => rfl) (fun _ _ claimed => .inl claimed)
  cases statement with
  | lock key =>
      refine permits_of_tables_eq consistent rfl le_rfl ?_ (fun _ _ => rfl) (fun _ _ => rfl)
        (fun _ _ claimed => .inl claimed)
      intro u different other held
      have elsewhere : other ≠ key := by
        rintro rfl
        rcases ready with free | own
        · simp [held] at free
        · simp [held, different] at own
      exact (Function.update_of_ne elsewhere _ _).trans held
  | selectReservation mandate =>
      refine permits_of_tables_eq consistent rfl le_rfl (fun _ _ _ held => held) (fun _ _ => rfl)
        ?_ (fun _ _ claimed => .inl claimed)
      intro u different
      exact Function.update_of_ne different _ _
  | claimNonce key ctx =>
      simp only [Db.after]
      split
      · exact unchanged
      · refine permits_push consistent ?_
        rintro _ ⟨⟩
        exact ready
  | nextval =>
      exact permits_of_tables_eq consistent rfl (Nat.le_succ _) (fun _ _ _ held => held)
        (fun _ _ => rfl) (fun _ _ => rfl) (fun _ _ claimed => .inl claimed)
  | write write => exact permits_push consistent ready.1
  | rollback => exact permits_abort consistent
  | commit => cases unfinished
  | selectContext | selectRevocation | countAuthorizations | selectNonce | countDenials
  | selectLastHash => exact unchanged

theorem exclusive_finish (consistent : Consistent policy db) (tables : Tables)
    {first second : Tid} {key : String × String} {owner other : ContextId}
    (claimed : Write.claim key owner ∈ (db.finish t tables).pending first)
    (again : Write.claim key other ∈ (db.finish t tables).pending second) : first = second := by
  have earlier : ∀ u write, write ∈ (db.finish t tables).pending u → write ∈ db.pending u := by
    intro u write listed
    by_cases own : u = t
    · subst own
      simp [Db.finish] at listed
    · simpa [Db.finish, own] using listed
  exact consistent.exclusive first second key owner other (earlier _ _ claimed) (earlier _ _ again)

theorem foldl_apply_nonces {key : String × String} (writes : List Write) (tables : Tables)
    (unclaimed : ∀ owner, Write.claim key owner ∉ writes) :
    (writes.foldl Tables.apply tables).nonces.lookup key = tables.nonces.lookup key := by
  induction writes generalizing tables with
  | nil => rfl
  | cons write rest ih =>
      rw [List.foldl_cons, ih _ fun owner listed => unclaimed owner (List.mem_cons_of_mem _ listed)]
      cases write with
      | claim other owner =>
          have different : key ≠ other := by
            rintro rfl
            exact unclaimed owner List.mem_cons_self
          exact Finmap.lookup_insert_of_ne _ different
      | setAmount | advance =>
          simp only [Tables.apply]
          split <;> rfl
      | reserve | authorize | create | log | revoke => rfl

/-- The commit of an append gives every other transaction what it relies on. -/
theorem permits_append {event : Event} {tables : Tables} (consistent : Consistent policy db)
    (allowed : policy.Allowed db t) (body : policy.Body event.body) (viewed : db.view t = tables)
    (appends : Appends externals policy.Recent db.tables event tables)
    (context : db.locks (contextKey hashtext event.ctx) = some t)
    (mandate : ∀ signed, event.body.mandate? = some signed →
      db.locks (mandateKey hashtext signed.body.id) = some t)
    (log : db.locks logKey = some t) (numbered : event.seq < db.nextSeq) :
    (discipline hashtext policy sound).Permits t db (db.commit t) := by
  have commits := appends.commits
  subst viewed
  refine ⟨⟨sound.append consistent.tables allowed body appends, ?_, ?_⟩, ?_⟩
  · intro other listed
    have either : other ∈ db.tables.events ++ [event] := commits.logged ▸ listed
    rcases List.mem_append.mp either with old | new
    · exact consistent.sequence other old
    · rw [List.mem_singleton.mp new]
      exact numbered
  · intro first second key owner other claimed again
    exact exclusive_finish consistent _ claimed again
  · intro u different
    have holder : ∀ {key}, db.locks key = some t → db.locks key ≠ some u := by
      intro key own other
      rw [own] at other
      exact different (Option.some.inj other).symm
    refine
      { pending := Function.update_of_ne different _ _
        read := Function.update_of_ne different _ _
        locks := ?_
        sequence := le_rfl
        nonces := fun key owner claimed => commits.nonce_kept claimed
        claims := ?_
        context := ?_
        mandate := ?_
        log := fun held => absurd held (holder log) }
    · intro key held
      simp [Db.commit, Db.finish, held, different]
    · intro key owner claimed
      -- the nonces of open transactions are different
      refine foldl_apply_nonces _ _ ?_
      intro other again
      exact different (consistent.exclusive u t key owner other claimed again)
    · intro ctx held
      refine commits.other_context ?_
      rintro rfl
      exact holder context held
    · intro id held
      have other : ∀ signed, event.body.mandate? = some signed → signed.body.id ≠ id := by
        rintro signed found rfl
        exact holder (mandate signed found) held
      refine ⟨?_, commits.other_countSince other, ?_⟩
      · change id ∈ (db.view t).revocations ↔ _
        rw [commits.revocations]
      · intro looked
        change policy.Recent _ ((db.view t).reservations.lookup id)
        rcases commits.other_reservation other with same | ⟨target, record, next, moves, rfl, given, set⟩
        · rw [same]
          exact sound.recent_refl _
        · rw [set]
          exact sound.release consistent.tables allowed moves given set different looked

theorem permits_revoke {mandate : MandateId} (consistent : Consistent policy db)
    (viewed : db.view t = db.tables.apply (.revoke mandate))
    (held : db.locks (mandateKey hashtext mandate) = some t) :
    (discipline hashtext policy sound).Permits t db (db.commit t) := by
  have committed : (db.commit t).tables = db.tables.apply (.revoke mandate) := viewed
  refine ⟨⟨?_, ?_, ?_⟩, ?_⟩
  · rw [committed]
    exact sound.revoke mandate consistent.tables
  · rw [committed]
    exact consistent.sequence
  · intro first second key owner other claimed again
    exact exclusive_finish consistent _ claimed again
  · intro u different
    refine
      { pending := Function.update_of_ne different _ _
        read := Function.update_of_ne different _ _
        locks := ?_
        sequence := le_rfl
        nonces := ?_
        claims := ?_
        context := ?_
        mandate := ?_
        log := ?_ }
    · intro key own
      simp [Db.commit, Db.finish, own, different]
    · rw [committed]
      exact fun _ _ claimed => claimed
    · rw [committed]
      exact fun _ _ _ => rfl
    · rw [committed]
      exact fun _ _ => ⟨rfl, rfl⟩
    · intro other own
      have elsewhere : other ≠ mandate := by
        rintro rfl
        rw [held] at own
        exact different (Option.some.inj own).symm
      rw [committed]
      exact ⟨by simp [Tables.apply, elsewhere], fun _ => rfl, fun _ => sound.recent_refl _⟩
    · rw [committed]
      exact fun _ => rfl

end Steps

end MandateLedger.Postgres
