import MandateLedger.Postgres.Append
import MandateLedger.Process.Protocol

namespace MandateLedger.Postgres

open MandateLedger.Core MandateLedger.Data MandateLedger.Process

/-! # The order of the locks

Contexts before mandates before the log; a nonce after the context, and before the
log.  Every other row is written under an advisory lock that whoever else writes it
has to hold as well.  So the waits-for graph of the transactions has no cycle, even
where `hashtext` maps different names to one key.
-/

/-- Locks, uncommitted writes, and the mandates it has found not to be revoked. -/
structure Held where
  locks : Set LockKey
  writes : List Write
  cleared : Set MandateId

namespace Held

def empty : Held := ⟨∅, [], ∅⟩

def push (held : Held) (write : Write) : Held := { held with writes := held.writes ++ [write] }

def after (held : Held) : (statement : Statement) → statement.Result → Held
  | .lock key, _ => { held with locks := insert key held.locks }
  | .selectRevocation _, true => held
  | .selectRevocation mandate, false => { held with cleared := insert mandate held.cleared }
  | .claimNonce _ _, none => held
  | .claimNonce key ctx, some _ => held.push (.claim key ctx)
  | .write write, _ => held.push write
  | .commit, _ | .rollback, _ => .empty
  | .selectContext _, _ | .countAuthorizations .., _ | .selectReservation _, _
  | .selectNonce _, _ | .countDenials _, _ | .nextval, _ | .selectLastHash _, _ => held

def Appending (held : Held) : Prop := ∀ mandate, Write.revoke mandate ∉ held.writes

def Clears (held : Held) (body : EventBody) : Prop :=
  ∀ signed, body.mandate? = some signed → signed.body.id ∈ held.cleared

/-- What a transaction may ask for next. -/
def Permits (hashtext : String → Int) (held : Held) : Statement → Prop
  | .lock key => key.1 ≤ 3 ∧ (∀ other ∈ held.locks, other.1 < key.1) ∧ held.Appending ∧
      (held.writes = [] ∨ key = logKey)
  | .selectRevocation mandate => held.writes = [] ∧ mandateKey hashtext mandate ∈ held.locks
  | .claimNonce .. => held.writes = [] ∧ ∀ other ∈ held.locks, other.1 = 1
  | .write (.claim ..) => False
  | .write (.revoke mandate) => held.writes = [] ∧ mandateKey hashtext mandate ∈ held.locks
  | .write (.log event) =>
      logKey ∈ held.locks ∧ held.Appending ∧ held.Clears event.body ∧ 1 ≤ event.seq
  | .write _ => logKey ∈ held.locks ∧ held.Appending
  | _ => True

end Held

/-- The writes made under the log lock. -/
def Write.isLogged : Write → Bool
  | .claim .. | .revoke _ => false
  | _ => true

/-- Every uncommitted write is covered by a lock. -/
structure Held.Covered (hashtext : String → Int) (held : Held) : Prop where
  logged : ∀ write ∈ held.writes, write.isLogged = true → logKey ∈ held.locks
  revoking : ∀ mandate, Write.revoke mandate ∈ held.writes →
    held.writes = [.revoke mandate] ∧ mandateKey hashtext mandate ∈ held.locks
  cleared : ∀ mandate ∈ held.cleared, mandateKey hashtext mandate ∈ held.locks
  signed : ∀ event, Write.log event ∈ held.writes → held.Clears event.body
  numbered : ∀ event, Write.log event ∈ held.writes → 1 ≤ event.seq

/-- What an open transaction of the store can hold. -/
def Own (hashtext : String → Int) := { held : Held // held.Covered hashtext }

namespace Held

variable {hashtext : String → Int} {held : Held}

theorem covered_empty : empty.Covered hashtext := by
  constructor <;> simp [empty]

theorem Covered.lock (covered : held.Covered hashtext) (key : LockKey) :
    Covered hashtext { held with locks := insert key held.locks } where
  logged write listed logs := .inr (covered.logged write listed logs)
  revoking mandate listed :=
    ⟨(covered.revoking mandate listed).1, .inr (covered.revoking mandate listed).2⟩
  cleared mandate known := .inr (covered.cleared mandate known)
  signed := covered.signed
  numbered := covered.numbered

theorem Covered.clear (covered : held.Covered hashtext) {mandate : MandateId}
    (locked : mandateKey hashtext mandate ∈ held.locks) :
    Covered hashtext { held with cleared := insert mandate held.cleared } where
  logged := covered.logged
  revoking := covered.revoking
  cleared := by
    intro other known
    rcases known with rfl | known
    · exact locked
    · exact covered.cleared other known
  signed event listed signed found := .inr (covered.signed event listed signed found)
  numbered := covered.numbered

theorem Covered.push (covered : held.Covered hashtext) {write : Write}
    (appending : held.Appending) (other : ∀ mandate, write ≠ .revoke mandate)
    (logged : write.isLogged = true → logKey ∈ held.locks)
    (clears : ∀ event, write = .log event → held.Clears event.body ∧ 1 ≤ event.seq) :
    (held.push write).Covered hashtext where
  logged := by
    intro earlier listed logs
    rcases List.mem_append.mp listed with old | new
    · exact covered.logged earlier old logs
    · rw [List.mem_singleton] at new
      exact logged (new ▸ logs)
  revoking := by
    intro mandate listed
    rcases List.mem_append.mp listed with old | new
    · exact absurd old (appending mandate)
    · exact absurd (List.mem_singleton.mp new).symm (other mandate)
  cleared := covered.cleared
  signed := by
    intro event listed
    rcases List.mem_append.mp listed with old | new
    · exact covered.signed event old
    · exact (clears event (List.mem_singleton.mp new).symm).1
  numbered := by
    intro event listed
    rcases List.mem_append.mp listed with old | new
    · exact covered.numbered event old
    · exact (clears event (List.mem_singleton.mp new).symm).2

theorem Covered.revoke {mandate : MandateId} (covered : held.Covered hashtext)
    (first : held.writes = []) (locked : mandateKey hashtext mandate ∈ held.locks) :
    (held.push (.revoke mandate)).Covered hashtext where
  logged := by simp [Held.push, first, Write.isLogged]
  revoking := by
    intro other listed
    simp only [Held.push, first, List.nil_append, List.mem_singleton, Write.revoke.injEq] at listed
    subst listed
    exact ⟨by simp [Held.push, first], locked⟩
  cleared := covered.cleared
  signed := by simp [Held.push, first]
  numbered := by simp [Held.push, first]

theorem Covered.after {statement : Statement} (covered : held.Covered hashtext)
    (permits : held.Permits hashtext statement) (result : statement.Result) :
    (held.after statement result).Covered hashtext := by
  cases statement with
  | lock key => exact covered.lock key
  | selectRevocation mandate =>
      cases result with
      | true => exact covered
      | false => exact covered.clear permits.2
  | claimNonce key ctx =>
      cases result with
      | none => exact covered
      | some owner =>
          refine covered.push ?_ (by simp) (by simp [Write.isLogged]) (by simp)
          intro mandate listed
          rw [permits.1] at listed
          cases listed
  | write write =>
      cases write with
      | claim => exact permits.elim
      | revoke mandate => exact covered.revoke permits.1 permits.2
      | log event =>
          refine covered.push permits.2.1 (by simp) (fun _ => permits.1) ?_
          intro other same
          cases same
          exact permits.2.2
      | reserve | authorize | setAmount | create | advance =>
          exact covered.push permits.2 (by simp) (fun _ => permits.1) (by simp)
  | commit | rollback => exact covered_empty
  | selectContext | countAuthorizations | selectReservation | selectNonce | countDenials
  | nextval | selectLastHash => exact covered

end Held

/-- What is known of a result whatever the tables are: `ml_event_seq` starts with 1. -/
def Statement.Returns : (statement : Statement) → statement.Result → Prop
  | .nextval, seq => (1 : Nat) ≤ seq
  | _, _ => True

/-- The protocol of the store's transactions. -/
def protocol (hashtext : String → Int) : Protocol Statement Statement.Answer (Own hashtext) where
  Permits own statement := own.val.Permits hashtext statement
  Moves own statement answer next :=
    match answer with
    | .ok result => next.val = own.val.after statement result ∧ statement.Returns result
    | .error _ => next.val = own.val ∨ statement = .commit ∧ next.val = .empty

def Own.idle (hashtext : String → Int) : Own hashtext := ⟨.empty, Held.covered_empty⟩

section Transactions

variable {hashtext : String → Int} {externals : Externals} {own : Own hashtext} {ρ α β : Type}
  {ctx : ContextId} {now : Timestamp} {body : EventBody} {existing : Option Record}

/-- The transaction follows the protocol and ends in `Returns`, or stops early. -/
abbrev Ordered (tx : Tx ρ α) (Returns : α → Own hashtext → Prop) (own : Own hashtext) : Prop :=
  tx.run.Follows (protocol hashtext) (Ends Returns fun _ _ => True) own

namespace Ordered

variable {Returns : α → Own hashtext → Prop}

theorem bind {first : Tx ρ β} {rest : β → Tx ρ α}
    (ordered : Ordered first (fun value => Ordered (rest value) Returns) own) :
    Ordered (first >>= rest) Returns own :=
  (Fallible.follows_bind first rest).mpr ordered

theorem pure {value : α} (returns : Returns value own) :
    Ordered (pure value : Tx ρ α) Returns own := returns

theorem mono {tx : Tx ρ α} {Stronger : α → Own hashtext → Prop} (ordered : Ordered tx Stronger own)
    (implied : ∀ value after, Stronger value after → Returns value after) :
    Ordered tx Returns own := by
  refine Program.Follows.mono ordered ?_
  intro result after ended
  cases result with
  | ok value => exact implied value after ended
  | error error => trivial

theorem exit {result : ρ} : Ordered (Tx.exit result : Tx ρ α) Returns own := trivial

theorem require {result : Except StoreError α}
    (returns : ∀ value, result = .ok value → Returns value own) :
    Ordered (Tx.require result : Tx ρ α) Returns own := by
  cases result with
  | ok value => exact returns value rfl
  | error error => trivial

theorem query {statement : Statement} {Returns : statement.Result → Own hashtext → Prop}
    (permits : own.val.Permits hashtext statement)
    (returns : ∀ result after, after.val = own.val.after statement result → Returns result after) :
    Ordered (Tx.query statement : Tx ρ _) Returns own := by
  refine ⟨permits, ?_⟩
  intro answer after moved
  cases answer with
  | ok result => exact returns result after moved.1
  | error error => trivial

theorem nextval {Returns : Nat → Own hashtext → Prop}
    (returns : ∀ seq after, after.val = own.val → 1 ≤ seq → Returns seq after) :
    Ordered (Tx.query .nextval : Tx ρ _) Returns own := by
  refine ⟨trivial, ?_⟩
  intro answer after moved
  cases answer with
  | ok seq => exact returns seq after moved.1 moved.2
  | error error => trivial

theorem transaction {tx : Tx ρ ρ} (ordered : Ordered tx (fun _ _ => True) own) :
    tx.transaction.Follows (protocol hashtext) (fun _ _ => True) own := by
  refine (Program.follows_bind _ _).mpr (Program.Follows.mono ordered ?_)
  intro result after ended
  cases result with
  | ok result => trivial
  | error result => exact ⟨trivial, fun _ _ _ => trivial⟩

end Ordered

/-- Phase 1: nothing is written, and only the context and the mandate are locked. -/
structure Entered (hashtext : String → Int) (body : EventBody) (held : Held) : Prop where
  writes : held.writes = []
  classes : ∀ key ∈ held.locks, key.1 = 1 ∨ key.1 = 2 ∧ body.mandate?.isSome = true
  mandate : ∀ signed, body.mandate? = some signed →
    mandateKey hashtext signed.body.id ∈ held.locks

/-- What phase 1 leaves. -/
structure Passed (body : EventBody) (held : Held) : Prop where
  classes : ∀ key ∈ held.locks, key.1 < 3
  appending : held.Appending
  clears : held.Clears body

/-- Phase 2: the log is locked. -/
structure Logging (body : EventBody) (held : Held) : Prop where
  log : logKey ∈ held.locks
  appending : held.Appending
  clears : held.Clears body

theorem Entered.passed {held : Held} (entered : Entered hashtext body held)
    (clears : held.Clears body) : Passed body held where
  classes := by
    intro key locked
    rcases entered.classes key locked with context | mandate
    · omega
    · omega
  appending := by simp [Held.Appending, entered.writes]
  clears := clears

theorem Entered.passed_of_unsigned {held : Held} (entered : Entered hashtext body held)
    (unsigned : body.mandate? = none) : Passed body held :=
  entered.passed (by simp [Held.Clears, unsigned])

theorem lockMandate_ordered {own : Own hashtext} (empty : own.val.writes = [])
    (context : ∀ key ∈ own.val.locks, key.1 = 1) :
    Ordered (lockMandate hashtext body) (fun _ after => Entered hashtext body after.val) own := by
  have appending : own.val.Appending := by simp [Held.Appending, empty]
  cases body with
  | authorized mandate cart requestKey =>
      refine .query ⟨?_, ?_, appending, .inl empty⟩ ?_
      · simp [mandateKey]
      · intro key locked
        rw [context key locked]
        simp [mandateKey]
      · intro _ after moved
        rw [moved]
        refine ⟨empty, ?_, ?_⟩
        · intro key locked
          rcases locked with rfl | locked
          · exact .inr ⟨rfl, rfl⟩
          · exact .inl (context key locked)
        · intro signed same
          cases same
          exact Set.mem_insert _ _
  | denied | paid | settled | settlementFailed | compensated | delivered | expired =>
      refine .pure ⟨empty, fun key locked => .inl (context key locked), ?_⟩
      simp [EventBody.mandate?]

theorem decideVelocity_ordered {mandate : MandateId} {scope : Scope} :
    Ordered (decideVelocity now mandate scope) (fun _ after => after.val = own.val) own := by
  unfold decideVelocity
  cases scope.velocity with
  | none => exact .pure rfl
  | some velocity =>
      refine .bind (.query trivial ?_)
      intro rows after moved
      dsimp only
      split
      · exact .exit
      · exact .pure moved

theorem decideAuthorized_ordered {mandate : Mandate} {cart : CartSnapshot} {requestKey : String}
    (entered : Entered hashtext (.authorized mandate cart requestKey) own.val) :
    Ordered (decideAuthorized externals.decimals ctx now existing mandate cart)
      (fun _ after => Passed (.authorized mandate cart requestKey) after.val) own := by
  refine .bind (.require ?_)
  intro _ _
  refine .bind (.query ⟨entered.writes, entered.mandate mandate rfl⟩ ?_)
  intro revoked first cleared
  cases revoked with
  | true => exact .bind .exit
  | false =>
      have passed : Passed (.authorized mandate cart requestKey) first.val := by
        rw [cleared]
        refine Entered.passed ⟨entered.writes, entered.classes, entered.mandate⟩ ?_
        intro signed same
        cases same
        exact Set.mem_insert _ _
      refine .bind (.mono decideVelocity_ordered ?_)
      intro _ second paced
      refine .bind (.query trivial ?_)
      intro reserved third same
      refine .bind (.require ?_)
      intro verdict _
      cases verdict with
      | refused outcome => exact .exit
      | granted next =>
          have same : third.val = first.val := Eq.trans same paced
          exact .pure (same ▸ passed)

theorem decidePaid_ordered {rail reference nonce : String} {amount : Money} {key : Hash32}
    (entered : Entered hashtext (.paid rail reference nonce amount key) own.val) :
    Ordered (decidePaid ctx existing rail nonce)
      (fun _ after => Passed (.paid rail reference nonce amount key) after.val) own := by
  refine .bind (.require ?_)
  intro _ _
  refine .bind (.query ⟨entered.writes, ?_⟩ ?_)
  · intro other locked
    rcases entered.classes other locked with context | ⟨-, signed⟩
    · exact context
    · simp [EventBody.mandate?] at signed
  intro claimed first moved
  have passed := entered.passed_of_unsigned rfl
  cases claimed with
  | some owner =>
      refine .pure ?_
      rw [moved]
      refine ⟨passed.classes, ?_, passed.clears⟩
      simp [Held.after, Held.push, Held.Appending, entered.writes]
  | none =>
      have same : first.val = own.val := moved
      refine .bind (.query trivial ?_)
      intro holder second again
      have again : second.val = own.val := Eq.trans again same
      have passed : Passed (.paid rail reference nonce amount key) second.val := again ▸ passed
      cases holder with
      | none => exact .require (by simp)
      | some holder =>
          dsimp only
          split
          · exact .pure passed
          · exact .exit

theorem decideEffects_ordered (entered : Entered hashtext body own.val) :
    Ordered (decideEffects externals.decimals ctx now existing body)
      (fun _ after => Passed body after.val) own := by
  cases body with
  | authorized mandate cart requestKey => exact decideAuthorized_ordered entered
  | paid rail reference nonce amount key => exact decidePaid_ordered entered
  | settled | compensated | delivered =>
      exact .bind (.require fun _ _ => .pure (entered.passed_of_unsigned rfl))
  | settlementFailed | expired =>
      refine .bind (.require ?_)
      intro _ _
      cases existing with
      | none => exact .require (by simp)
      | some record => exact .pure (entered.passed_of_unsigned rfl)
  | denied =>
      refine .bind (.query trivial ?_)
      intro denials after same
      have same : after.val = own.val := same
      split
      · exact .exit
      · exact .pure (same ▸ entered.passed_of_unsigned rfl)

theorem Logging.push {held : Held} (logging : Logging body held) {write : Write}
    (other : ∀ mandate, write ≠ .revoke mandate) : Logging body (held.push write) where
  log := logging.log
  appending := by
    intro mandate listed
    rcases List.mem_append.mp listed with old | new
    · exact logging.appending mandate old
    · exact other mandate (List.mem_singleton.mp new).symm
  clears := logging.clears

theorem Logging.write (logging : Logging body own.val) {write : Write}
    (logged : write.isLogged = true)
    (same : ∀ event, write = .log event → event.body = body ∧ 1 ≤ event.seq) :
    Ordered (Tx.query (.write write) : Tx ρ _) (fun _ after => Logging body after.val) own := by
  have other : ∀ mandate, write ≠ .revoke mandate := by
    intro mandate revokes
    simp [revokes, Write.isLogged] at logged
  refine .query ?_ ?_
  · cases write with
    | claim | revoke => simp [Write.isLogged] at logged
    | log event =>
        refine ⟨logging.log, logging.appending, ?_, (same event rfl).2⟩
        rw [(same event rfl).1]
        exact logging.clears
    | reserve | authorize | setAmount | create | advance => exact ⟨logging.log, logging.appending⟩
  · intro _ after moved
    rw [moved]
    exact logging.push other

theorem writeEffects_ordered {effects : Effects} {event : Event}
    (logging : Logging event.body own.val) (numbered : 1 ≤ event.seq) :
    Ordered (writeEffects externals.decimals ctx now effects event) (fun _ _ => True) own := by
  have reserve : ∀ entry {own : Own hashtext}, Logging event.body own.val →
      Ordered (writeReserve ctx now entry) (fun _ after => Logging event.body after.val) own := by
    intro entry own logging
    cases entry with
    | none => exact .pure logging
    | some entry =>
        refine .bind (.mono (logging.write rfl (by simp)) ?_)
        intro _ after logging
        exact logging.write rfl (by simp)
  have release : ∀ entry {own : Own hashtext}, Logging event.body own.val →
      Ordered (writeRelease externals.decimals entry)
        (fun _ after => Logging event.body after.val) own := by
    intro entry own logging
    cases entry with
    | none => exact .pure logging
    | some entry =>
        refine .bind (.query trivial ?_)
        intro reserved after same
        have same : after.val = own.val := same
        refine .bind (.require ?_)
        intro next _
        exact Logging.write (same ▸ logging) rfl (by simp)
  have create : ∀ entry {own : Own hashtext}, Logging event.body own.val →
      Ordered (writeCreate entry) (fun _ after => Logging event.body after.val) own := by
    intro entry own logging
    cases entry with
    | none => exact .pure logging
    | some record => exact logging.write rfl (by simp)
  have advance : ∀ body {own : Own hashtext}, Logging event.body own.val →
      Ordered (writeAdvance ctx body) (fun _ after => Logging event.body after.val) own := by
    intro body own logging
    cases body with
    | authorized | denied => exact .pure logging
    | paid | settled | settlementFailed | compensated | delivered | expired =>
        exact logging.write rfl (by simp)
  refine .bind (.mono (reserve _ logging) ?_)
  intro _ first logging
  refine .bind (.mono (release _ logging) ?_)
  intro _ second logging
  refine .bind (.mono (create _ logging) ?_)
  intro _ third logging
  refine .bind (.mono (advance _ logging) ?_)
  intro _ fourth logging
  refine .bind (.mono (logging.write rfl ?_) ?_)
  · intro other same
    cases same
    exact ⟨rfl, numbered⟩
  intro _ fifth logging
  refine .bind (.query trivial ?_)
  intro _ _ _
  exact .pure trivial

theorem appendTx_ordered :
    Ordered (appendTx hashtext externals ctx now body) (fun _ _ => True) (.idle hashtext) := by
  refine .bind (.query ⟨by simp [contextKey], by simp [Own.idle, Held.empty],
    by simp [Held.Appending, Own.idle, Held.empty], .inl rfl⟩ ?_)
  intro _ first locked
  refine .bind (.mono (lockMandate_ordered (by rw [locked]; rfl) ?_) ?_)
  · intro key held
    rw [locked] at held
    rcases held with rfl | held
    · rfl
    · cases held
  intro _ second entered
  refine .bind (.query trivial ?_)
  intro existing third same
  have same : third.val = second.val := same
  refine .bind (.mono (decideEffects_ordered (same ▸ entered)) ?_)
  intro effects fourth passed
  refine .bind (.query ⟨le_rfl, passed.classes, passed.appending, .inr rfl⟩ ?_)
  intro _ fifth logging
  have logging : Logging body fifth.val := by
    rw [logging]
    exact ⟨Set.mem_insert _ _, passed.appending, passed.clears⟩
  refine .bind (.nextval ?_)
  intro seq sixth same positive
  refine .bind (.query trivial ?_)
  intro last seventh again
  have again : seventh.val = fifth.val := Eq.trans again same
  refine .bind (.require ?_)
  intro event built
  rw [mapError_eq_ok] at built
  obtain ⟨rfl, -, -, -, rfl, -⟩ := Event.new_eq_ok built
  exact writeEffects_ordered (again ▸ logging) positive

theorem revokeTx_ordered {mandate : MandateId} :
    Ordered (revokeTx hashtext mandate) (fun _ _ => True) (.idle hashtext) := by
  refine .bind (.query ⟨by simp [mandateKey], by simp [Own.idle, Held.empty],
    by simp [Held.Appending, Own.idle, Held.empty], .inl rfl⟩ ?_)
  intro _ first locked
  refine .bind (.query ?_ ?_)
  · rw [locked]
    exact ⟨rfl, Set.mem_insert _ _⟩
  intro _ second _
  exact .query trivial fun _ _ _ => trivial

/-- Every call a client makes follows the protocol. -/
theorem Requests.follows {Body : EventBody → Prop}
    {program : Program Statement Statement.Answer Reply}
    (started : Requests hashtext externals Body program) :
    program.Follows (protocol hashtext) (fun _ _ => True) (.idle hashtext) := by
  cases started with
  | append ctx now body allowed =>
      exact (Program.follows_bind _ _).mpr (Ordered.transaction appendTx_ordered)
  | revoke mandate =>
      exact (Program.follows_bind _ _).mpr (Ordered.transaction revokeTx_ordered)

end Transactions

section Runs

variable {Tid : Type} {hashtext : String → Int} {externals : Externals} {Body : EventBody → Prop}
  {Allowed : Db Tid → Tid → Prop} {t u : Tid} {db : Db Tid} {held mine theirs : Held}

structure Owns (db : Db Tid) (t : Tid) (held : Held) : Prop where
  locks : ∀ key, db.locks key = some t ↔ key ∈ held.locks
  writes : db.pending t = held.writes
  cleared : ∀ mandate ∈ held.cleared, mandate ∉ db.tables.revocations
  sequence : 1 ≤ db.nextSeq

theorem Owns.exclusive (owns : Owns db t mine) (others : Owns db u theirs) (different : u ≠ t)
    {key : LockKey} (locked : key ∈ mine.locks) : key ∉ theirs.locks := by
  intro again
  have first := (owns.locks key).mpr locked
  have second := (others.locks key).mpr again
  rw [first, Option.some.injEq] at second
  exact different second.symm

variable [DecidableEq Tid]

theorem owns_finish (positive : 1 ≤ db.nextSeq) (tables : Tables) :
    Owns (db.finish t tables) t .empty where
  locks := by simp [Db.finish, Held.empty]
  writes := Function.update_self ..
  cleared := by simp [Held.empty]
  sequence := positive

theorem Owns.finish (owns : Owns db u held) (different : u ≠ t) {tables : Tables}
    (cleared : ∀ mandate ∈ held.cleared, mandate ∉ tables.revocations) :
    Owns (db.finish t tables) u held where
  locks := by
    intro key
    rw [← owns.locks key]
    simp only [Db.finish]
    split
    · next own => simp [own, Ne.symm different]
    · exact Iff.rfl
  writes := (Function.update_of_ne different _ _).trans owns.writes
  cleared := cleared
  sequence := owns.sequence

/-- A transaction that commits does not revoke what another one has cleared. -/
theorem Owns.commit (owns : Owns db u theirs) (mover : Owns db t mine) (different : u ≠ t)
    (covered : theirs.Covered hashtext) (revokes : mine.Covered hashtext) :
    Owns (db.commit t) u theirs := by
  refine owns.finish different ?_
  intro mandate cleared revoked
  rw [Db.view, Tables.mem_foldl_revocations, mover.writes] at revoked
  rcases revoked with old | new
  · exact owns.cleared mandate cleared old
  · exact mover.exclusive owns different (revokes.revoking mandate new).2
      (covered.cleared mandate cleared)

theorem Owns.push (owns : Owns db t held) (write : Write) :
    Owns (db.push t write) t (held.push write) where
  locks := owns.locks
  writes := by simp [Db.push, Held.push, owns.writes]
  cleared := owns.cleared
  sequence := owns.sequence

theorem Owns.after (owns : Owns db t held) {statement : Statement}
    (permits : held.Permits hashtext statement) :
    Owns (db.after t statement) t (held.after statement (db.result t statement)) := by
  cases statement with
  | lock key =>
      refine ⟨?_, owns.writes, owns.cleared, owns.sequence⟩
      intro other
      by_cases same : other = key
      · subst same
        simp [Db.after, Db.acquire, Held.after]
      · simp [Db.after, Db.acquire, Held.after, same, owns.locks]
  | selectRevocation mandate =>
      have seen : db.view t = db.tables := by simp [Db.view, owns.writes, permits.1]
      have result : db.result t (.selectRevocation mandate) =
          decide (mandate ∈ db.tables.revocations) := by
        rw [Db.result, seen]
      rw [result]
      by_cases revoked : mandate ∈ db.tables.revocations
      · rw [decide_eq_true revoked]
        exact owns
      · rw [decide_eq_false revoked]
        refine ⟨owns.locks, owns.writes, ?_, owns.sequence⟩
        intro other cleared
        rcases cleared with rfl | cleared
        · exact revoked
        · exact owns.cleared other cleared
  | claimNonce key ctx =>
      by_cases taken : ((db.view t).nonces.lookup key).isSome = true
      · have result : db.result t (.claimNonce key ctx) = none := if_pos taken
        rw [result, Db.after, if_pos taken]
        exact owns
      · have result : db.result t (.claimNonce key ctx) = some ctx := if_neg taken
        rw [result, Db.after, if_neg taken]
        exact owns.push _
  | write write => exact owns.push write
  | commit => exact owns_finish owns.sequence _
  | rollback => exact owns_finish owns.sequence _
  | nextval => exact ⟨owns.locks, owns.writes, owns.cleared, Nat.le_add_left ..⟩
  | selectContext | countAuthorizations | selectReservation | selectNonce | countDenials
  | selectLastHash => exact ⟨owns.locks, owns.writes, owns.cleared, owns.sequence⟩

theorem Owns.frame (owns : Owns db u theirs) (mover : Owns db t mine) (different : u ≠ t)
    (covered : theirs.Covered hashtext) (revokes : mine.Covered hashtext) {statement : Statement}
    (ready : db.Ready t statement) : Owns (db.after t statement) u theirs := by
  have pushed : ∀ write, Owns (db.push t write) u theirs := by
    intro write
    exact ⟨owns.locks, (Function.update_of_ne different _ _).trans owns.writes, owns.cleared,
      owns.sequence⟩
  cases statement with
  | lock key =>
      refine ⟨?_, owns.writes, owns.cleared, owns.sequence⟩
      intro other
      rw [← owns.locks other]
      by_cases same : other = key
      · subst same
        rcases ready with free | taken
        · simp [Db.after, Db.acquire, free, Ne.symm different]
        · simp [Db.after, Db.acquire, taken]
      · simp [Db.after, Db.acquire, same]
  | claimNonce key ctx =>
      simp only [Db.after]
      split
      · exact owns
      · exact pushed _
  | write write => exact pushed write
  | commit => exact owns.commit mover different covered revokes
  | rollback => exact owns.finish different owns.cleared
  | nextval => exact ⟨owns.locks, owns.writes, owns.cleared, Nat.le_add_left ..⟩
  | selectContext | selectRevocation | countAuthorizations | selectReservation | selectNonce
  | countDenials | selectLastHash => exact ⟨owns.locks, owns.writes, owns.cleared, owns.sequence⟩

theorem protocol_tracks :
    (protocol hashtext).Tracks (semantics Tid Allowed) (fun db t own => Owns db t own.val)
      (.idle hashtext) where
  exec := by
    intro t before statement answer after own executed owns permits
    cases answer with
    | ok result =>
        obtain ⟨⟨ready, rfl, rfl⟩, -⟩ := executed
        refine ⟨⟨_, own.property.after permits _⟩, ⟨rfl, ?_⟩, owns.after permits⟩
        cases statement with
        | nextval => exact owns.sequence
        | _ => trivial
    | error error =>
        obtain ⟨⟨-, -, same | ⟨rfl, rfl⟩⟩, -⟩ := executed
        · subst same
          exact ⟨own, .inl rfl, owns⟩
        · exact ⟨.idle hashtext, .inr ⟨rfl, rfl⟩, owns_finish owns.sequence _⟩
  others := by
    intro t u before statement answer after other own executed mover permits different owns
    cases answer with
    | ok result =>
        obtain ⟨⟨ready, -, rfl⟩, -⟩ := executed
        exact owns.frame mover different own.property other.property ready
    | error error =>
        obtain ⟨⟨-, -, same | ⟨rfl, rfl⟩⟩, -⟩ := executed
        · subst same
          exact owns
        · exact owns.commit mover different own.property other.property
  env moved := moved.elim
  halts := by
    intro t before after own halted owns
    subst halted
    exact owns_finish owns.sequence _
  spares := by
    intro t u before after own halted different owns
    subst halted
    exact owns.finish different owns.cleared

theorem Reachable.owned {config : Config Tid (Db Tid) Statement Statement.Answer Reply}
    (reached : Reachable (semantics Tid Allowed) (Requests hashtext externals Body) .initial
      config) :
    config.Tracked (protocol hashtext) (fun db t own => Owns db t own.val) (.idle hashtext)
      (fun _ _ => True) := by
  refine reached.tracked protocol_tracks (fun _ started => started.follows) ?_
  intro t
  constructor <;> simp [Db.initial, Own.idle, Held.empty]

end Runs

section Waiting

variable {Tid : Type} {hashtext : String → Int} {db : Db Tid} {t u : Tid} {mine theirs : Held}

/-- The statement has to wait for `u`: for an advisory lock, for a row `u` has written,
or for an index entry `u` has inserted into the log. -/
inductive Blocks (db : Db Tid) (u : Tid) : Statement → Prop where
  | lock {key : LockKey} (taken : db.locks key = some u) : Blocks db u (.lock key)
  | nonce {key : String × String} {ctx : ContextId} {write : Write}
      (listed : write ∈ db.pending u) (same : write.row? = some (.nonce key)) :
      Blocks db u (.claimNonce key ctx)
  | row {write earlier : Write} {row : Row} (listed : earlier ∈ db.pending u)
      (needed : write.row? = some row) (same : earlier.row? = some row) :
      Blocks db u (.write write)
  | index {event earlier : Event} (listed : Write.log earlier ∈ db.pending u)
      (same : earlier.seq = event.seq ∨ earlier.hash = event.hash) :
      Blocks db u (.write (.log event))

def WaitsFor (config : Config Tid (Db Tid) Statement Statement.Answer Reply) (t u : Tid) : Prop :=
  u ≠ t ∧ ∃ statement next, config.threads t = some (.call statement next) ∧
    Blocks config.shared u statement

/-- Whatever keeps a statement from being executed is a transaction it waits for or a
violated index. -/
theorem Db.ready_or_blocked (db : Db Tid) (t : Tid) (statement : Statement) :
    db.Ready t statement ∨ (∃ u, u ≠ t ∧ Blocks db u statement) ∨
      ∃ write, statement = .write write ∧ ¬ write.Admissible (db.view t) := by
  have taken : ∀ row, ¬ db.RowFree t row →
      ∃ u, u ≠ t ∧ ∃ write ∈ db.pending u, write.row? = some row := by
    intro row
    simp [Db.RowFree]
  cases statement with
  | lock key =>
      cases held : db.locks key with
      | none => exact .inl (.inl held)
      | some u =>
          by_cases same : u = t
          · exact .inl (.inr (same ▸ held))
          · exact .inr (.inl ⟨u, same, .lock held⟩)
  | claimNonce key ctx =>
      by_cases free : db.RowFree t (.nonce key)
      · exact .inl free
      · obtain ⟨u, different, write, listed, same⟩ := taken _ free
        exact .inr (.inl ⟨u, different, .nonce listed same⟩)
  | write write =>
      by_cases free : ∀ row ∈ write.row?, db.RowFree t row
      · by_cases admissible : write.Admissible (db.view t)
        · exact .inl ⟨free, admissible⟩
        · exact .inr (.inr ⟨write, rfl, admissible⟩)
      · push Not at free
        obtain ⟨row, needed, busy⟩ := free
        obtain ⟨u, different, earlier, listed, same⟩ := taken _ busy
        exact .inr (.inl ⟨u, different, .row listed needed same⟩)
  | selectContext | selectRevocation | countAuthorizations | selectReservation | selectNonce
  | countDenials | nextval | selectLastHash | commit | rollback => exact .inl trivial

/-- A write never waits: its row is covered by a lock of the transaction. -/
theorem Owns.write_runs (owns : Owns db t mine) (others : Owns db u theirs) (different : u ≠ t)
    (covered : theirs.Covered hashtext) {write : Write}
    (permits : mine.Permits hashtext (.write write)) : ¬ Blocks db u (.write write) := by
  intro blocks
  -- whoever has an uncommitted write of the log has its lock
  have logged : ∀ earlier ∈ db.pending u, earlier.isLogged = true → logKey ∉ mine.locks := by
    intro earlier listed logs locked
    rw [others.writes] at listed
    exact owns.exclusive others different locked (covered.logged earlier listed logs)
  cases blocks with
  | index listed same => exact logged _ listed rfl permits.1
  | @row _ earlier row listed needed same =>
      cases write with
      | claim => exact permits
      | authorize | log => cases needed
      | revoke mandate =>
          cases needed
          cases earlier with
          | revoke other =>
              cases same
              rw [others.writes] at listed
              exact owns.exclusive others different permits.2
                (covered.revoking mandate listed).2
          | _ => cases same
      | reserve | setAmount | create | advance =>
          cases needed
          cases earlier with
          | reserve | setAmount | create | advance => exact logged _ listed rfl permits.1
          | claim | revoke | authorize | log => cases same

/-- A transaction that has the log lock asks for no other lock and for no nonce. -/
theorem Held.Permits.log_runs {held : Held} {statement : Statement}
    (permits : held.Permits hashtext statement) (log : logKey ∈ held.locks)
    (blocks : Blocks db u statement) : ∃ write, statement = .write write := by
  cases blocks with
  | lock taken =>
      obtain ⟨bounded, above, -⟩ := permits
      exact absurd bounded (Int.not_le.mpr (above logKey log))
  | nonce listed same => exact absurd (permits.2 logKey log) (by decide)
  | row | index => exact ⟨_, rfl⟩

/-- How late a statement comes in the order of the locks. -/
def Statement.rank : Statement → Int
  | .lock key => key.1
  | .claimNonce .. => 2
  | _ => 0

/-- A transaction that is waited for asks for something later in the order. -/
theorem Owns.rank_lt (owns : Owns db u mine) {wanted next : Statement}
    (permits : mine.Permits hashtext next) (blocks : Blocks db u wanted) (waits : Blocks db t next)
    (first : ∀ write, wanted ≠ .write write) (second : ∀ write, next ≠ .write write) :
    wanted.rank < next.rank := by
  cases blocks with
  | row | index => exact absurd rfl (first _)
  | @lock key taken =>
      have locked := (owns.locks key).mp taken
      cases waits with
      | lock => exact permits.2.1 key locked
      | nonce =>
          have context : key.1 = 1 := permits.2 key locked
          simp only [Statement.rank]
          omega
      | row | index => exact absurd rfl (second _)
  | nonce listed same =>
      rw [owns.writes] at listed
      cases waits with
      | lock =>
          rcases permits.2.2.2 with empty | last
          · simp [empty] at listed
          · simp [Statement.rank, last, logKey]
      | nonce => simp [permits.1] at listed
      | row | index => exact absurd rfl (second _)

variable {config : Config Tid (Db Tid) Statement Statement.Answer Reply}

def rank (config : Config Tid (Db Tid) Statement Statement.Answer Reply) (t : Tid) : Int :=
  match config.threads t with
  | some (.call statement _) => statement.rank
  | _ => 0

theorem rank_of_running {statement : Statement}
    {next : statement.Answer → Program Statement Statement.Answer Reply}
    (running : config.threads t = some (.call statement next)) :
    rank config t = statement.rank := by
  simp [rank, running]

variable [DecidableEq Tid] {externals : Externals}

theorem WaitsFor.not_write (reached : Reachable (semantics Tid fun _ _ => True)
      (Requests hashtext externals fun _ => True) .initial config)
    {statement : Statement} {next : statement.Answer → Program Statement Statement.Answer Reply}
    (running : config.threads t = some (.call statement next)) (different : u ≠ t)
    (blocks : Blocks config.shared u statement) (write : Write) : statement ≠ .write write := by
  intro same
  subst same
  obtain ⟨mine, owns, -, follows⟩ := Reachable.owned reached t
  obtain ⟨theirs, others, -⟩ := Reachable.owned reached u
  exact owns.write_runs others different theirs.property (follows _ running).1 blocks

/-- The transactions of the store cannot deadlock: in every reachable state nobody waits
for itself, directly or through others, and the holder of the log lock does not wait at
all.  A statement that cannot be executed waits for somebody or violates an index. -/
theorem transactions_never_deadlock (reached : Reachable (semantics Tid fun _ _ => True)
      (Requests hashtext externals fun _ => True) .initial config) :
    (∀ t, ¬ Relation.TransGen (WaitsFor config) t t) ∧
      (∀ t u, config.shared.locks logKey = some t → ¬ WaitsFor config t u) ∧
      ∀ t statement next, config.threads t = some (.call statement next) →
        config.shared.Ready t statement ∨ (∃ u, WaitsFor config t u) ∨
          ∃ write, statement = .write write ∧ ¬ write.Admissible (config.shared.view t) := by
  refine ⟨acyclic_of_rank (rank config) ?_, ?_, ?_⟩
  · intro t u v first second
    obtain ⟨different, wanted, rest, running, blocks⟩ := first
    obtain ⟨again, next, later, asking, waits⟩ := second
    obtain ⟨mine, owns, -, follows⟩ := Reachable.owned reached u
    rw [rank_of_running running, rank_of_running asking]
    exact owns.rank_lt (follows _ asking).1 blocks waits
      (WaitsFor.not_write reached running different blocks)
      (WaitsFor.not_write reached asking again waits)
  · intro t u log given
    obtain ⟨different, statement, rest, running, blocks⟩ := given
    obtain ⟨mine, owns, -, follows⟩ := Reachable.owned reached t
    have permits := (follows _ running).1
    obtain ⟨write, same⟩ := permits.log_runs ((owns.locks logKey).mp log) blocks
    exact WaitsFor.not_write reached running different blocks write same
  · intro t statement next running
    rcases config.shared.ready_or_blocked t statement with ready | ⟨u, different, blocks⟩ | refused
    · exact .inl ready
    · exact .inr (.inl ⟨u, different, statement, next, running, blocks⟩)
    · exact .inr (.inr refused)

end Waiting

namespace Sample

open Core.Sample

def lockAsked (config : Config (Fin 4) (Db (Fin 4)) Statement Statement.Answer Reply)
    (t : Fin 4) : Option LockKey :=
  match config.threads t with
  | some (.call (.lock key) _) => some key
  | _ => none

theorem waitsFor_of_lockAsked
    {config : Config (Fin 4) (Db (Fin 4)) Statement Statement.Answer Reply} {t u : Fin 4}
    {key : LockKey} (asks : lockAsked config t = some key)
    (taken : config.shared.locks key = some u) (different : u ≠ t) : WaitsFor config t u := by
  unfold lockAsked at asks
  split at asks
  · next running =>
      cases asks
      exact ⟨different, _, _, running, .lock taken⟩
  · cases asks

/-- Client 2 needs the context of client 1, which needs the mandate of client 0. -/
def queue : Config (Fin 4) (Db (Fin 4)) Statement Statement.Answer Reply :=
  run externals (fun _ _ => True)
    [ (0, firstCtx, .authorized (mandate alice) (cart.snapshot Core.Sample.sha256) "k1"),
      (1, secondCtx, .authorized (mandate alice) smallCart "k2"),
      (2, secondCtx, .expired) ]
    (List.replicate 6 0 ++ [1])

end Sample

theorem queue_not_deadlocked :
    WaitsFor Sample.queue 2 1 ∧ WaitsFor Sample.queue 1 0 ∧
      (∀ u, ¬ WaitsFor Sample.queue 0 u) ∧ ¬ Relation.TransGen (WaitsFor Sample.queue) 2 2 := by
  have free := transactions_never_deadlock (Sample.run_reachable Sample.externals (fun _ _ => True)
    (by decide) (fun _ _ => trivial) _ : Reachable _
      (Requests Sample.hashtext Sample.externals fun _ => True) _ Sample.queue)
  have second : Sample.lockAsked Sample.queue 2 = some (1, 2) := by decide +kernel
  have first : Sample.lockAsked Sample.queue 1 = some (2, 3) := by decide +kernel
  refine ⟨?_, ?_, ?_, free.1 2⟩
  · exact Sample.waitsFor_of_lockAsked second (by decide +kernel) (by decide)
  · exact Sample.waitsFor_of_lockAsked first (by decide +kernel) (by decide)
  · intro u
    exact free.2.1 0 u (by decide +kernel)

end MandateLedger.Postgres
