import MandateLedger.Core.Store
import MandateLedger.Process.Concurrent

namespace MandateLedger.Postgres

open MandateLedger.Core MandateLedger.Data MandateLedger.Process

/-! # The database

The part of PostgreSQL the store relies on, at READ COMMITTED: a statement sees
everything committed before it and the writes of its own transaction; writes
become visible to others at commit; a row that another open transaction has
written makes a writer wait; advisory locks are exclusive and last until the
transaction ends.  A statement that has to wait is one that cannot take its
step yet.  Any statement may fail, and the client may disappear, which rolls
the transaction back.
-/

structure Authorization where
  mandate : MandateId
  ctx : ContextId
  recordedAt : Timestamp
deriving DecidableEq

structure Tables where
  contexts : Table ContextId Record
  reservations : Table MandateId Money
  authorizations : List Authorization
  nonces : Table (String × String) ContextId
  revocations : Finset MandateId
  events : List Event

/-- `ORDER BY seq DESC LIMIT 1`. -/
def latest (events : List Event) : Option Event :=
  events.foldl
    (fun best event => match best with
      | none => some event
      | some other => if other.seq < event.seq then some event else some other) none

namespace Tables

def empty : Tables := ⟨∅, ∅, [], ∅, ∅, []⟩

def countSince (tables : Tables) (mandate : MandateId) (since : Timestamp) : Nat :=
  tables.authorizations.countP fun row => row.mandate = mandate && since ≤ row.recordedAt

def chain (tables : Tables) (ctx : ContextId) : List Event :=
  tables.events.filter fun event => event.ctx = ctx

def denials (tables : Tables) (ctx : ContextId) : Nat :=
  (tables.chain ctx).countP fun event => event.body.isDenied

def lastHash (tables : Tables) (ctx : ContextId) : Option Hash32 :=
  (latest (tables.chain ctx)).map Event.hash

end Tables

/-- The writing statements of the store. -/
inductive Write where
  | reserve (mandate : MandateId) (total : Money)
  | authorize (row : Authorization)
  | setAmount (mandate : MandateId) (amount : Decimal)
  | create (record : Record)
  | advance (ctx : ContextId) (body : EventBody)
  | claim (key : String × String) (ctx : ContextId)
  | log (event : Event)
  | revoke (mandate : MandateId)

/-- What a write does.  An `UPDATE` of a row that is not there does nothing. -/
def Tables.apply (tables : Tables) : Write → Tables
  | .reserve mandate total =>
      { tables with reservations := tables.reservations.insert mandate total }
  | .authorize row => { tables with authorizations := tables.authorizations ++ [row] }
  | .setAmount mandate amount =>
      match tables.reservations.lookup mandate with
      | none => tables
      | some held =>
          { tables with reservations := tables.reservations.insert mandate ⟨amount, held.currency⟩ }
  | .create record => { tables with contexts := tables.contexts.insert record.ctx record }
  | .advance ctx body =>
      match tables.contexts.lookup ctx with
      | none => tables
      | some record => { tables with contexts := tables.contexts.insert ctx (record.advance body) }
  | .claim key ctx => { tables with nonces := tables.nonces.insert key ctx }
  | .log event => { tables with events := tables.events ++ [event] }
  | .revoke mandate => { tables with revocations := insert mandate tables.revocations }

theorem Tables.apply_advance {tables : Tables} {ctx : ContextId} {record : Record}
    (found : tables.contexts.lookup ctx = some record) (body : EventBody) :
    tables.apply (.advance ctx body) =
      { tables with contexts := tables.contexts.insert ctx (record.advance body) } := by
  simp [Tables.apply, found]

theorem Tables.apply_setAmount {tables : Tables} {mandate : MandateId} {ops : DecimalOps}
    {amount next : Money}
    (given : releaseFrom ops (tables.reservations.lookup mandate) mandate amount = .ok next) :
    tables.apply (.setAmount mandate next.amount) =
      { tables with reservations := tables.reservations.insert mandate next } := by
  obtain ⟨current, held, currency⟩ := releaseFrom_currency given
  simp [Tables.apply, held, ← currency]

def Write.event? : Write → Option Event
  | .log event => some event
  | _ => none

theorem Tables.foldl_apply_events (writes : List Write) (tables : Tables) :
    (writes.foldl Tables.apply tables).events = tables.events ++ writes.filterMap Write.event? := by
  induction writes generalizing tables with
  | nil => simp
  | cons write rest ih =>
      rw [List.foldl_cons, ih]
      cases write with
      | log event => simp [Tables.apply, Write.event?]
      | setAmount | advance =>
          simp only [Tables.apply]
          split <;> simp [List.filterMap_cons, Write.event?]
      | reserve | authorize | create | claim | revoke =>
          simp [Tables.apply, List.filterMap_cons, Write.event?]

theorem Tables.mem_foldl_revocations {mandate : MandateId} (writes : List Write) (tables : Tables) :
    mandate ∈ (writes.foldl Tables.apply tables).revocations ↔
      mandate ∈ tables.revocations ∨ Write.revoke mandate ∈ writes := by
  induction writes generalizing tables with
  | nil => simp
  | cons write rest ih =>
      rw [List.foldl_cons, ih]
      cases write with
      | revoke other =>
          simp only [Tables.apply, Finset.mem_insert, List.mem_cons, Write.revoke.injEq]
          tauto
      | setAmount | advance =>
          simp only [Tables.apply]
          split <;> simp
      | reserve | authorize | create | claim | log => simp [Tables.apply]

/-- The rows that can make a writer wait. -/
inductive Row where
  | reservation (mandate : MandateId)
  | context (ctx : ContextId)
  | nonce (key : String × String)
  | revocation (mandate : MandateId)
deriving DecidableEq

/-- The row a write locks.  The rows of the other two tables are always new. -/
def Write.row? : Write → Option Row
  | .reserve mandate _ | .setAmount mandate _ => some (.reservation mandate)
  | .create record => some (.context record.ctx)
  | .advance ctx _ => some (.context ctx)
  | .claim key _ => some (.nonce key)
  | .revoke mandate => some (.revocation mandate)
  | .authorize _ | .log _ => none

/-- The unique indexes a plain `INSERT` must not violate. -/
def Write.Admissible (tables : Tables) : Write → Prop
  | .create record => tables.contexts.lookup record.ctx = none
  | .log event => ∀ other ∈ tables.events, other.seq ≠ event.seq ∧ other.hash ≠ event.hash
  | _ => True

/-- The two arguments of `pg_advisory_xact_lock`. -/
abbrev LockKey := Int × Int

/-- The committed tables and what the open transactions hold.  `read` keeps
track of the reservations a transaction has looked at. -/
structure Db (Tid : Type) where
  tables : Tables
  nextSeq : Nat
  locks : LockKey → Option Tid
  pending : Tid → List Write
  read : Tid → Finset MandateId

namespace Db

variable {Tid : Type}

/-- `ml_event_seq` starts with 1. -/
def initial : Db Tid := ⟨.empty, 1, fun _ => none, fun _ => [], fun _ => ∅⟩

/-- What the statements of a transaction see. -/
def view (db : Db Tid) (t : Tid) : Tables := (db.pending t).foldl Tables.apply db.tables

def RowFree (db : Db Tid) (t : Tid) (row : Row) : Prop :=
  ∀ u, u ≠ t → ∀ write ∈ db.pending u, write.row? ≠ some row

def acquire (db : Db Tid) (t : Tid) (key : LockKey) : Db Tid :=
  { db with locks := Function.update db.locks key (some t) }

theorem acquire_self (db : Db Tid) (t : Tid) (key : LockKey) :
    (db.acquire t key).locks key = some t := by
  simp [acquire]

theorem acquire_held {db : Db Tid} {t : Tid} (key : LockKey) {other : LockKey}
    (held : db.locks other = some t) : (db.acquire t key).locks other = some t := by
  by_cases same : other = key
  · rw [same, acquire_self]
  · simp [acquire, same, held]

variable [DecidableEq Tid]

def push (db : Db Tid) (t : Tid) (write : Write) : Db Tid :=
  { db with pending := Function.update db.pending t (db.pending t ++ [write]) }

def note (db : Db Tid) (t : Tid) (mandate : MandateId) : Db Tid :=
  { db with read := Function.update db.read t (insert mandate (db.read t)) }

def finish (db : Db Tid) (t : Tid) (tables : Tables) : Db Tid where
  tables := tables
  nextSeq := db.nextSeq
  locks := fun key => if db.locks key = some t then none else db.locks key
  pending := Function.update db.pending t []
  read := Function.update db.read t ∅

def commit (db : Db Tid) (t : Tid) : Db Tid := db.finish t (db.view t)

def abort (db : Db Tid) (t : Tid) : Db Tid := db.finish t db.tables

end Db

inductive Statement where
  | lock (key : LockKey)
  | selectContext (ctx : ContextId)
  | selectRevocation (mandate : MandateId)
  | countAuthorizations (mandate : MandateId) (since : Timestamp)
  | selectReservation (mandate : MandateId)
  | claimNonce (key : String × String) (ctx : ContextId)
  | selectNonce (key : String × String)
  | countDenials (ctx : ContextId)
  | nextval
  | selectLastHash (ctx : ContextId)
  | write (write : Write)
  | commit
  | rollback

def Statement.isCommit : Statement → Bool
  | .commit => true
  | _ => false

def Statement.Result : Statement → Type
  | .selectContext _ => Option Record
  | .selectRevocation _ => Bool
  | .countAuthorizations .. | .countDenials _ | .nextval => Nat
  | .selectReservation _ => Option Money
  | .claimNonce .. | .selectNonce _ => Option ContextId
  | .selectLastHash _ => Option Hash32
  | .lock _ | .write _ | .commit | .rollback => Unit

abbrev Statement.Answer (statement : Statement) : Type := Except StoreError statement.Result

namespace Db

variable {Tid : Type}

/-- The statement does not have to wait and violates no unique index. -/
def Ready (db : Db Tid) (t : Tid) : Statement → Prop
  | .lock key => db.locks key = none ∨ db.locks key = some t
  | .claimNonce key _ => db.RowFree t (.nonce key)
  | .write write => (∀ row ∈ write.row?, db.RowFree t row) ∧ write.Admissible (db.view t)
  | _ => True

def result (db : Db Tid) (t : Tid) : (statement : Statement) → statement.Result
  | .selectContext ctx => (db.view t).contexts.lookup ctx
  | .selectRevocation mandate => decide (mandate ∈ (db.view t).revocations)
  | .countAuthorizations mandate since => (db.view t).countSince mandate since
  | .selectReservation mandate => (db.view t).reservations.lookup mandate
  -- `ON CONFLICT DO NOTHING RETURNING ctx`: a row that is there returns nothing
  | .claimNonce key ctx => if ((db.view t).nonces.lookup key).isSome then none else some ctx
  | .selectNonce key => (db.view t).nonces.lookup key
  | .countDenials ctx => (db.view t).denials ctx
  | .nextval => db.nextSeq
  | .selectLastHash ctx => (db.view t).lastHash ctx
  | .lock _ | .write _ | .commit | .rollback => ()

variable [DecidableEq Tid]

def after (db : Db Tid) (t : Tid) : Statement → Db Tid
  | .lock key => db.acquire t key
  | .selectReservation mandate => db.note t mandate
  | .claimNonce key ctx =>
      if ((db.view t).nonces.lookup key).isSome then db else db.push t (.claim key ctx)
  | .nextval => { db with nextSeq := db.nextSeq + 1 }
  | .write write => db.push t write
  | .commit => db.commit t
  | .rollback => db.abort t
  | _ => db

/-- A statement fails.  When the connection is lost during a commit, the
transaction may have been committed. -/
def Fails (db : Db Tid) (t : Tid) (statement : Statement) (error : StoreError)
    (after : Db Tid) : Prop :=
  (∃ message, error = .backend message) ∧ statement ≠ .rollback ∧
    (after = db ∨ statement = .commit ∧ after = db.commit t)

end Db

/-- The runs of concurrent transactions.  `Allowed` restricts the commits to be
looked at; `fun _ _ => True` is PostgreSQL. -/
def semantics (Tid : Type) [DecidableEq Tid] (Allowed : Db Tid → Tid → Prop) :
    Semantics Tid (Db Tid) Statement Statement.Answer where
  exec t db statement answer after :=
    (match answer with
      | .ok result => db.Ready t statement ∧ result = db.result t statement ∧
          after = db.after t statement
      | .error error => db.Fails t statement error after) ∧
    (statement.isCommit = true → after = db ∨ Allowed db t)
  env _ _ := False
  halt t before after := after = before.abort t

/-- The committed tables only change when somebody commits. -/
theorem Step.tables_eq {Tid α : Type} [DecidableEq Tid] {Allowed : Db Tid → Tid → Prop}
    {Start : Program Statement Statement.Answer α → Prop}
    {before after : Config Tid (Db Tid) Statement Statement.Answer α}
    (stepped : Step (semantics Tid Allowed) Start before after) :
    after.shared.tables = before.shared.tables ∨
      ∃ t, Allowed before.shared t ∧ after.shared.tables = before.shared.view t := by
  cases stepped with
  | spawn => exact .inl rfl
  | env after moved => exact moved.elim
  | halt t after halted =>
      subst halted
      exact .inl rfl
  | call t statement next answer after running executed =>
      obtain ⟨answered, guarded⟩ := executed
      have committed : statement = .commit → after = before.shared.commit t →
          after.tables = before.shared.tables ∨
            ∃ t, Allowed before.shared t ∧ after.tables = before.shared.view t := by
        intro commits same
        subst commits
        rcases guarded rfl with unchanged | allowed
        · exact .inl (congrArg Db.tables unchanged)
        · exact .inr ⟨t, allowed, congrArg Db.tables same⟩
      cases answer with
      | ok result =>
          obtain ⟨-, -, same⟩ := answered
          cases statement with
          | commit => exact committed rfl same
          | claimNonce =>
              rw [same, Db.after]
              split <;> exact .inl rfl
          | _ =>
              rw [same]
              exact .inl rfl
      | error error =>
          obtain ⟨-, -, same | ⟨commits, same⟩⟩ := answered
          · exact .inl (congrArg Db.tables same)
          · exact committed commits same

-- Statements one at a time: one that would wait is cancelled instead.
section Perform

variable {Tid : Type} [DecidableEq Tid] [Fintype Tid]

instance (db : Db Tid) (t : Tid) (row : Row) : Decidable (db.RowFree t row) :=
  inferInstanceAs (Decidable (∀ u, u ≠ t → ∀ write ∈ db.pending u, write.row? ≠ some row))

instance (tables : Tables) : (write : Write) → Decidable (write.Admissible tables)
  | .create record => inferInstanceAs (Decidable (tables.contexts.lookup record.ctx = none))
  | .log event => inferInstanceAs (Decidable
      (∀ other ∈ tables.events, other.seq ≠ event.seq ∧ other.hash ≠ event.hash))
  | .reserve .. | .authorize _ | .setAmount .. | .advance .. | .claim .. | .revoke _ => .isTrue trivial

instance (db : Db Tid) (t : Tid) : (statement : Statement) → Decidable (db.Ready t statement)
  | .lock key => inferInstanceAs (Decidable (db.locks key = none ∨ db.locks key = some t))
  | .claimNonce key _ => inferInstanceAs (Decidable (db.RowFree t (.nonce key)))
  | .write write => inferInstanceAs (Decidable
      ((∀ row ∈ write.row?, db.RowFree t row) ∧ write.Admissible (db.view t)))
  | .selectContext _ | .selectRevocation _ | .countAuthorizations .. | .selectReservation _
  | .selectNonce _ | .countDenials _ | .nextval | .selectLastHash _ | .commit | .rollback =>
      .isTrue trivial

def Db.perform (Allowed : Db Tid → Tid → Prop) [∀ db t, Decidable (Allowed db t)] (t : Tid)
    (db : Db Tid) (statement : Statement) : statement.Answer × Db Tid :=
  if db.Ready t statement ∧ (statement.isCommit = true → Allowed db t) then
    (.ok (db.result t statement), db.after t statement)
  else
    (.error (.backend "55P03: canceling statement due to lock timeout"), db)

theorem Db.perform_exec (Allowed : Db Tid → Tid → Prop) [∀ db t, Decidable (Allowed db t)]
    (t : Tid) (db : Db Tid) (statement : Statement) :
    (semantics Tid Allowed).exec t db statement (Db.perform Allowed t db statement).1
      (Db.perform Allowed t db statement).2 := by
  unfold Db.perform
  split
  · next possible => exact ⟨⟨possible.1, rfl, rfl⟩, fun commits => .inr (possible.2 commits)⟩
  · next waits =>
      have other : statement ≠ .rollback := by
        rintro rfl
        refine waits ⟨trivial, ?_⟩
        intro commits
        cases commits
      exact ⟨⟨⟨_, rfl⟩, other, .inl rfl⟩, fun _ => .inl rfl⟩

end Perform

end MandateLedger.Postgres
