import MandateLedger.Postgres.Append

namespace MandateLedger.Postgres

open MandateLedger.Core MandateLedger.Data MandateLedger.Process

structure Session where
  committed : Tables
  view : Tables
  nextSeq : Nat

namespace Session

def of (db : Db Unit) : Session := ⟨db.tables, db.view (), db.nextSeq⟩

def idle (tables : Tables) (nextSeq : Nat) : Session := ⟨tables, tables, nextSeq⟩

variable (session : Session)

def Ready : Statement → Prop
  | .write write => write.Admissible session.view
  | _ => True

def result : (statement : Statement) → statement.Result
  | .selectContext ctx => session.view.contexts.lookup ctx
  | .selectRevocation mandate => decide (mandate ∈ session.view.revocations)
  | .countAuthorizations mandate since => session.view.countSince mandate since
  | .selectReservation mandate => session.view.reservations.lookup mandate
  | .claimNonce key ctx => if (session.view.nonces.lookup key).isSome then none else some ctx
  | .selectNonce key => session.view.nonces.lookup key
  | .countDenials ctx => session.view.denials ctx
  | .nextval => session.nextSeq
  | .selectLastHash ctx => session.view.lastHash ctx
  | .lock _ | .write _ | .commit | .rollback => ()

def write (write : Write) : Session := { session with view := session.view.apply write }

def after : Statement → Session
  | .claimNonce key ctx =>
      if (session.view.nonces.lookup key).isSome then session else session.write (.claim key ctx)
  | .nextval => { session with nextSeq := session.nextSeq + 1 }
  | .write write => session.write write
  | .commit => idle session.view session.nextSeq
  | .rollback => idle session.committed session.nextSeq
  | _ => session

end Session

/-- The statements of the only client. -/
abbrev alone : Db Unit → (statement : Statement) → statement.Answer × Db Unit :=
  Db.perform (fun _ _ => True) ()

theorem Db.view_push (db : Db Unit) (write : Write) :
    (db.push () write).view () = (db.view ()).apply write := by
  simp [Db.push, Db.view]

theorem Db.view_finish (db : Db Unit) (tables : Tables) : (db.finish () tables).view () = tables := by
  simp [Db.finish, Db.view]

theorem Session.of_after (db : Db Unit) (statement : Statement) :
    of (db.after () statement) = (of db).after statement := by
  cases statement with
  | claimNonce key ctx =>
      by_cases taken : ((db.view ()).nonces.lookup key).isSome = true
      · have kept : (of db).after (.claimNonce key ctx) = of db := if_pos taken
        rw [kept, Db.after, if_pos taken]
      · have pushed : (of db).after (.claimNonce key ctx) = (of db).write (.claim key ctx) :=
          if_neg taken
        rw [pushed, Db.after, if_neg taken, of, Db.view_push]
        rfl
  | write write =>
      simp only [Db.after, Session.after, of, Db.view_push]
      rfl
  | commit =>
      simp only [Db.after, Session.after, of, Db.commit, Db.view_finish]
      rfl
  | rollback =>
      simp only [Db.after, Session.after, of, Db.abort, Db.view_finish]
      rfl
  | _ => rfl

theorem Session.ready_of {db : Db Unit} {statement : Statement}
    (ready : (Session.of db).Ready statement) : db.Ready () statement := by
  have free : ∀ row, db.RowFree () row := fun row other different => absurd rfl different
  cases statement with
  | lock key =>
      change db.locks key = none ∨ db.locks key = some ()
      cases db.locks key with
      | none => exact .inl rfl
      | some holder => exact .inr rfl
  | claimNonce key ctx => exact free _
  | write write => exact ⟨fun row _ => free row, ready⟩
  | _ => trivial

theorem Session.alone_eq {db : Db Unit} {statement : Statement}
    (ready : (Session.of db).Ready statement) :
    alone db statement = (.ok ((Session.of db).result statement), db.after () statement) := by
  have answer : db.result () statement = (Session.of db).result statement := by
    cases statement <;> rfl
  rw [← answer]
  exact if_pos ⟨ready_of ready, fun _ => trivial⟩

namespace Tx

variable {ρ α β : Type} {before between after : Session}

/-- From `before` the transaction comes to `outcome` and `after`. -/
def Runs (tx : Tx ρ α) (before : Session) (outcome : Except (Except StoreError ρ) α)
    (after : Session) : Prop :=
  ∀ db, Session.of db = before →
    (tx.run.run alone db).1 = outcome ∧ Session.of (tx.run.run alone db).2 = after

theorem runs_bind {first : Tx ρ α} {rest : α → Tx ρ β} {value : α}
    {outcome : Except (Except StoreError ρ) β} (begins : first.Runs before (.ok value) between)
    (continues : (rest value).Runs between outcome after) :
    (first >>= rest).Runs before outcome after := by
  intro db stands
  obtain ⟨returned, reached⟩ := begins db stands
  rw [Fallible.run_bind, Program.run_bind, returned]
  exact continues _ reached

theorem runs_stop {first : Tx ρ α} {rest : α → Tx ρ β} {stop : Except StoreError ρ}
    (stops : first.Runs before (.error stop) after) :
    (first >>= rest).Runs before (.error stop) after := by
  intro db stands
  obtain ⟨returned, reached⟩ := stops db stands
  rw [Fallible.run_bind, Program.run_bind, returned]
  exact ⟨rfl, reached⟩

theorem runs_pure (value : α) : (pure value : Tx ρ α).Runs before (.ok value) before :=
  fun _ stands => ⟨rfl, stands⟩

theorem runs_exit (result : ρ) : (exit result : Tx ρ α).Runs before (.error (.ok result)) before :=
  fun _ stands => ⟨rfl, stands⟩

theorem runs_require (result : Except StoreError α) :
    (require result : Tx ρ α).Runs before (result.mapError .error) before :=
  fun _ stands => ⟨rfl, stands⟩

theorem runs_query {statement : Statement} (ready : before.Ready statement) :
    (query statement : Tx ρ statement.Result).Runs before (.ok (before.result statement))
      (before.after statement) := by
  intro db stands
  subst stands
  have asked : ((query statement : Tx ρ statement.Result).run.run alone db) =
      ((alone db statement).1.mapError .error, (alone db statement).2) := rfl
  rw [asked, Session.alone_eq ready]
  exact ⟨rfl, Session.of_after db statement⟩

theorem Runs.committed {tx : Tx ρ ρ} {db : Db Unit} {result : ρ}
    (runs : tx.Runs (.of db) (.ok result) after) :
    (tx.transaction.run alone db).1 = .ok result ∧
      Session.of (tx.transaction.run alone db).2 = after := by
  obtain ⟨returned, reached⟩ := runs db rfl
  rw [transaction, Program.run_bind, returned]
  exact ⟨rfl, reached⟩

/-- A transaction that returned early leaves no trace but in the sequence. -/
theorem Runs.rolledBack {tx : Tx ρ ρ} {db : Db Unit} {result : Except StoreError ρ}
    (runs : tx.Runs (.of db) (.error result) after) :
    (tx.transaction.run alone db).1 = result ∧
      Session.of (tx.transaction.run alone db).2 = .idle after.committed after.nextSeq := by
  obtain ⟨returned, reached⟩ := runs db rfl
  rw [transaction, Program.run_bind, returned]
  generalize (tx.run.run alone db).2 = ended at reached
  subst reached
  have asked : alone ended .rollback = (.ok (), ended.after () .rollback) :=
    Session.alone_eq trivial
  refine ⟨rfl, ?_⟩
  change Session.of (alone ended .rollback).2 = _
  rw [asked]
  exact Session.of_after ended .rollback

end Tx

end MandateLedger.Postgres
