import MandateLedger.Adapters.Mock
import MandateLedger.Engine.Invocations
import MandateLedger.Postgres.Locks

namespace MandateLedger.Postgres

open MandateLedger.Core MandateLedger.Data MandateLedger.Engine MandateLedger.Memory
  MandateLedger.Process

/-- What a store says about revocations: who is revoked, and every event it ever appended. -/
structure Revocations where
  revoked : Finset MandateId
  events : List Event

/-- Between an earlier and a later state nothing is authorized under a mandate that was
revoked. -/
structure Revocations.Final (earlier later : Revocations) : Prop where
  revoked : earlier.revoked ⊆ later.revoked
  events : ∃ since, later.events = earlier.events ++ since ∧
    ∀ event ∈ since, ∀ signed, event.body.mandate? = some signed →
      signed.body.id ∉ earlier.revoked

namespace Revocations.Final

variable {first second third : Revocations}

theorem refl (revocations : Revocations) : Final revocations revocations :=
  ⟨subset_rfl, [], by simp, by simp⟩

theorem trans (earlier : Final first second) (later : Final second third) : Final first third := by
  obtain ⟨some, split, active⟩ := earlier.events
  obtain ⟨more, splits, actives⟩ := later.events
  refine ⟨earlier.revoked.trans later.revoked, some ++ more, ?_, ?_⟩
  · rw [splits, split, List.append_assoc]
  · intro event listed signed found
    rcases List.mem_append.mp listed with old | new
    · exact active event old signed found
    · intro revoked
      exact actives event new signed found (earlier.revoked revoked)

theorem of_events_eq (revoked : first.revoked ⊆ second.revoked)
    (same : second.events = first.events) : Final first second :=
  ⟨revoked, [], by simp [same], by simp⟩

end Revocations.Final

section Ledgers

variable {Proof Evidence Tid α : Type} {externals : Externals} {world : World Proof Evidence}

def revocations (world : World Proof Evidence) : Revocations :=
  ⟨world.inner.revoked, world.history⟩

theorem append_final (externals : Externals) (world : World Proof Evidence) (ctx : ContextId)
    (now : Timestamp) (body : EventBody) :
    (revocations world).Final (revocations (world.append externals ctx now body).2) := by
  have traced := world.append_traced externals ctx now body
  obtain ⟨result, refused, -⟩ | ⟨event, tables, writes, built, appended⟩ :=
    world.traced.append_cases externals ctx now body
  · rw [refused] at traced
    have inner := congrArg Traced.inner traced
    have history := congrArg Traced.history traced
    exact .of_events_eq (subset_of_eq (congrArg Inner.revoked inner).symm) history
  · rw [appended] at traced
    have inner : (world.append externals ctx now body).2.inner = tables.log event :=
      congrArg Traced.inner traced
    have history : (world.append externals ctx now body).2.history = world.history ++ [event] :=
      congrArg Traced.history traced
    refine ⟨?_, [event], history, ?_⟩
    · simp only [revocations, inner, Inner.log, writes.frame.2.2.2]
      exact subset_rfl
    · intro other listed signed found
      rw [List.mem_singleton.mp listed] at found
      obtain ⟨-, -, -, -, rfl, -⟩ := Event.new_eq_ok built
      generalize event.body = written at found writes
      cases writes with
      | @authorized mandate cart requestKey next absent active paced granted =>
          cases found
          exact active
      | paid | denied => cases found
      | moved moves plain | released moves plain =>
          rw [EventBody.mandate?_eq_none moves ?_] at found
          · cases found
          · rcases plain with rfl | rfl | rfl <;> decide

theorem exec_final {op : Op Proof Evidence} {answer : op.Answer} {after : World Proof Evidence}
    (executed : world.Exec externals op answer after) :
    (revocations world).Final (revocations after) := by
  cases op with
  | append ctx now body =>
      have same : after = (world.append externals ctx now body).2 := congrArg Prod.snd executed
      rw [same]
      exact append_final externals world ctx now body
  | revoke mandate =>
      obtain ⟨-, rfl⟩ := executed
      exact .of_events_eq (Finset.subset_insert _ _) rfl
  | verifyProof | checkFinality =>
      have same : after = world.saw _ := executed
      rw [same]
      exact .of_events_eq subset_rfl (by simp [revocations, World.history_saw, Act.event?])
  | now =>
      have same : after = world := executed
      exact same ▸ .refl _
  | record | events | authorizedMandate | isRevoked =>
      obtain ⟨-, rfl⟩ := executed
      exact .refl _

theorem prune_final (world : World Proof Evidence) (instant : Timestamp) :
    (revocations world).Final (revocations (world.prune instant)) := by
  obtain ⟨events, byCtx, pruned⟩ := world.inner.prune_frame instant
  refine .of_events_eq ?_ rfl
  simp only [revocations, World.prune, pruned]
  exact subset_rfl

theorem step_final [DecidableEq Tid] {Start : Program (Op Proof Evidence) Op.Answer α → Prop}
    {before after : Config Tid (World Proof Evidence) (Op Proof Evidence) Op.Answer α}
    (stepped : Step (Engine.semantics Tid externals) Start before after) :
    (revocations before.shared).Final (revocations after.shared) := by
  cases stepped with
  | spawn => exact .refl _
  | call t op next answer after running executed => exact exec_final executed
  | env after pruned =>
      obtain ⟨instant, rfl⟩ := pruned
      exact prune_final _ instant
  | halt t after halted =>
      have same : after = before.shared := halted
      exact same ▸ .refl _

/-- Whatever runs, a mandate that is revoked stays so. -/
def revoking (Tid : Type) : Discipline Tid (World Proof Evidence) where
  Inv _ := True
  Rely _ before after := before.inner.revoked ⊆ after.inner.revoked
  Idle _ _ := True
  refl _ _ := subset_rfl
  trans := Finset.Subset.trans
  idle_stable _ _ := trivial

theorem revoking_sound :
    (revoking Tid : Discipline Tid (World Proof Evidence)).Sound (Engine.semantics Tid externals) where
  env := by
    intro before after pruned _
    obtain ⟨instant, rfl⟩ := pruned
    exact ⟨trivial, fun _ => (prune_final before instant).revoked⟩
  halt := by
    intro t before after halted _
    cases halted
    exact ⟨⟨trivial, fun _ _ => subset_rfl⟩, trivial⟩

/-- A revocation that returned `Ok` has revoked its mandate. -/
def Confirmed (invocation : Invocation Proof Evidence) (world : World Proof Evidence) : Prop :=
  ∀ mandate exchanges, invocation = ⟨.revoke mandate, exchanges, .revoke (.ok ())⟩ →
    mandate ∈ world.inner.revoked

theorem invoke_confirmed (request : Request Proof Evidence) (t : Tid) :
    (invoke externals request).Keeps (Engine.semantics Tid externals) (revoking Tid) t Confirmed
      world := by
  rw [invoke, Program.keeps_map]
  have permits : ∀ (before : World Proof Evidence) (op : Op Proof Evidence) (answer : op.Answer)
      (after : World Proof Evidence), (revoking Tid).Inv before →
      (Engine.semantics Tid externals).exec t before op answer after →
      (revoking Tid).Permits t before after :=
    fun _ _ _ _ _ executed => ⟨trivial, fun _ _ => (exec_final executed).revoked⟩
  cases request with
  | revoke mandate =>
      intro before _ invariant answer after executed
      refine ⟨permits _ _ _ _ invariant executed, ?_⟩
      obtain ⟨rfl, rfl⟩ := executed
      intro other exchanges same
      cases same
      exact Finset.mem_insert_self _ _
  | _ =>
      refine (Program.keeps_any permits _).mono ?_
      intro _ _ _ mandate exchanges same
      cases same

theorem reachable_confirmed [DecidableEq Tid] {ledgers : Set Ledger}
    {config : Config Tid (World Proof Evidence) (Op Proof Evidence) Op.Answer
      (Invocation Proof Evidence)}
    (reached : Process.Reachable (Engine.semantics Tid externals) (Invocations externals ledgers)
      World.empty config) {t : Tid} {invocation : Invocation Proof Evidence}
    (returned : config.finished t = some invocation) : Confirmed invocation config.shared := by
  have kept : config.Kept (Engine.semantics Tid externals) (revoking Tid) (fun _ => Confirmed) := by
    refine Process.Reachable.keeps revoking_sound ?_ ?_ trivial (fun _ => trivial) reached
    · intro _ _ before after grown _ confirmed mandate exchanges same
      exact grown (confirmed mandate exchanges same)
    · intro program allowed t _ _ _
      obtain ⟨request, -, rfl⟩ := allowed
      exact invoke_confirmed request t
  exact kept.running t _ (Config.threads_of_finished returned)

end Ledgers

section Transactions

variable {Tid : Type} [DecidableEq Tid] {hashtext : String → Int} {externals : Externals}
  {config : Config Tid (Db Tid) Statement Statement.Answer Reply} {t : Tid}

def Tables.revoking (tables : Tables) : Revocations := ⟨tables.revocations, tables.events⟩

theorem view_final (reached : Reachable (Postgres.semantics Tid fun _ _ => True)
      (Requests hashtext externals fun _ => True) .initial config) (t : Tid) :
    config.shared.tables.revoking.Final (config.shared.view t).revoking := by
  obtain ⟨own, owns, -⟩ := Reachable.owned reached t
  refine ⟨?_, _, Tables.foldl_apply_events _ _, ?_⟩
  · intro mandate revoked
    exact (Tables.mem_foldl_revocations _ _).mpr (.inl revoked)
  · intro event listed signed found
    obtain ⟨write, pending, logs⟩ := List.mem_filterMap.mp listed
    have same : write = .log event := by
      cases write <;> simp_all [Write.event?]
    rw [same, owns.writes] at pending
    exact owns.cleared _ (own.property.signed event pending signed found)

theorem Tables.step_final {before after : Config Tid (Db Tid) Statement Statement.Answer Reply}
    (reached : Reachable (Postgres.semantics Tid fun _ _ => True)
      (Requests hashtext externals fun _ => True) .initial before)
    (stepped : Step (Postgres.semantics Tid fun _ _ => True)
      (Requests hashtext externals fun _ => True) before after) :
    before.shared.tables.revoking.Final after.shared.tables.revoking := by
  rcases Step.tables_eq stepped with same | ⟨t, -, same⟩
  · rw [same]
    exact .refl _
  · rw [same]
    exact view_final reached t

/-- A statement fails without effect, has its effect, or does both. -/
theorem exec_after {Allowed : Db Tid → Tid → Prop} {db after : Db Tid} {statement : Statement}
    {answer : statement.Answer}
    (executed : (Postgres.semantics Tid Allowed).exec t db statement answer after) :
    after = db ∨ after = db.after t statement := by
  obtain ⟨answered, -⟩ := executed
  cases answer with
  | ok result => exact .inr answered.2.2
  | error error =>
      obtain ⟨-, -, same | ⟨rfl, same⟩⟩ := answered
      · exact .inl same
      · exact .inr same

/-- The committed revocations only grow, and nobody else writes for a transaction. -/
def committing (Tid : Type) : Discipline Tid (Db Tid) where
  Inv _ := True
  Rely t before after :=
    before.tables.revocations ⊆ after.tables.revocations ∧ after.pending t = before.pending t
  Idle _ _ := True
  refl _ _ := ⟨subset_rfl, rfl⟩
  trans first second := ⟨first.1.trans second.1, second.2.trans first.2⟩
  idle_stable _ _ := trivial

theorem committing_finish (db : Db Tid) (t : Tid) {tables : Tables}
    (grown : db.tables.revocations ⊆ tables.revocations) :
    (committing Tid).Permits t db (db.finish t tables) :=
  ⟨trivial, fun _ different => ⟨grown, Function.update_of_ne different _ _⟩⟩

theorem committing_after (db : Db Tid) (t : Tid) (statement : Statement) :
    (committing Tid).Permits t db (db.after t statement) := by
  have pushed : ∀ write, (committing Tid).Permits t db (db.push t write) :=
    fun _ => ⟨trivial, fun _ different => ⟨subset_rfl, Function.update_of_ne different _ _⟩⟩
  have unchanged : (committing Tid).Permits t db db :=
    ⟨trivial, fun other _ => (committing Tid).refl other db⟩
  cases statement with
  | write write => exact pushed write
  | claimNonce key ctx =>
      simp only [Db.after]
      split
      · exact unchanged
      · exact pushed _
  | commit =>
      refine committing_finish db t ?_
      intro mandate revoked
      exact (Tables.mem_foldl_revocations _ _).mpr (.inl revoked)
  | rollback => exact committing_finish db t subset_rfl
  | lock | selectReservation | nextval => exact ⟨trivial, fun _ _ => ⟨subset_rfl, rfl⟩⟩
  | selectContext | selectRevocation | countAuthorizations | selectNonce | countDenials
  | selectLastHash => exact unchanged

theorem committing_exec {db after : Db Tid} {statement : Statement} {answer : statement.Answer}
    (executed : (Postgres.semantics Tid fun _ _ => True).exec t db statement answer after) :
    (committing Tid).Permits t db after := by
  rcases exec_after executed with rfl | rfl
  · exact ⟨trivial, fun other _ => (committing Tid).refl other _⟩
  · exact committing_after db t statement

/-- A call of the store. -/
inductive TxRequest where
  | append (ctx : ContextId) (now : Timestamp) (body : EventBody)
  | revoke (mandate : MandateId)
deriving DecidableEq

def TxRequest.program (hashtext : String → Int) (externals : Externals) :
    TxRequest → Program Statement Statement.Answer Reply
  | .append ctx now body => Postgres.append hashtext externals ctx now body
  | .revoke mandate => Postgres.revoke hashtext mandate

/-- The programs of the calls, which name the call beside its reply. -/
def NamedCalls (hashtext : String → Int) (externals : Externals)
    (program : Program Statement Statement.Answer (TxRequest × Reply)) : Prop :=
  ∃ call : TxRequest, program = (fun reply => (call, reply)) <$> call.program hashtext externals

/-- A revocation that replied `Ok` has committed. -/
def Committed (returned : TxRequest × Reply) (db : Db Tid) : Prop :=
  ∀ mandate, returned = (.revoke mandate, .revoke (.ok ())) → mandate ∈ db.tables.revocations

theorem revokeTx_committed (mandate : MandateId) (db : Db Tid) :
    (revokeTx hashtext mandate).run.Keeps (Postgres.semantics Tid fun _ _ => True)
      (committing Tid) t
      (Ends (fun _ after => mandate ∈ after.tables.revocations)
        (fun result _ => ∃ error, result = .error error)) db := by
  refine (Fallible.keeps_bind _ _).mpr ?_
  intro first _ _ answer second executed
  refine ⟨committing_exec executed, ?_⟩
  cases answer with
  | error error => exact ⟨error, rfl⟩
  | ok _ =>
      refine (Fallible.keeps_bind _ _).mpr ?_
      intro third _ _ answer fourth executed
      refine ⟨committing_exec executed, ?_⟩
      cases answer with
      | error error => exact ⟨error, rfl⟩
      | ok _ =>
          -- the row is among the transaction's writes until it commits
          have written : Write.revoke mandate ∈ fourth.pending t := by
            rw [executed.1.2.2]
            simp [Db.after, Db.push]
          intro fifth related _ answer sixth executed
          refine ⟨committing_exec executed, ?_⟩
          cases answer with
          | error error => exact ⟨error, rfl⟩
          | ok _ =>
              rw [executed.1.2.2]
              rw [← related.2] at written
              exact (Tables.mem_foldl_revocations _ _).mpr (.inr written)

theorem call_committed (call : TxRequest) (t : Tid) (db : Db Tid) :
    ((fun reply => (call, reply)) <$> call.program hashtext externals).Keeps
      (Postgres.semantics Tid fun _ _ => True) (committing Tid) t Committed db := by
  rw [Program.keeps_map]
  cases call with
  | append ctx now body =>
      refine (Program.keeps_any (fun _ _ _ _ _ executed => committing_exec executed) _).mono ?_
      intro _ _ _ mandate same
      cases same
  | revoke mandate =>
      unfold TxRequest.program revoke
      rw [Program.keeps_map]
      refine (Program.keeps_bind _ _).mpr ((revokeTx_committed mandate db).mono ?_)
      intro result after ended
      cases result with
      | ok _ =>
          intro other same
          cases same
          exact ended
      | error result =>
          obtain ⟨error, rfl⟩ := ended
          intro before _ _ answer rolled executed
          refine ⟨committing_exec executed, ?_⟩
          intro other same
          cases same

theorem reachable_committed
    {config : Config Tid (Db Tid) Statement Statement.Answer (TxRequest × Reply)}
    (reached : Reachable (Postgres.semantics Tid fun _ _ => True) (NamedCalls hashtext externals)
      .initial config) {t : Tid} {returned : TxRequest × Reply}
    (finished : config.finished t = some returned) : Committed returned config.shared := by
  have kept : config.Kept (Postgres.semantics Tid fun _ _ => True) (committing Tid)
      (fun _ => Committed) := by
    refine Process.Reachable.keeps ⟨?_, ?_⟩ ?_ ?_ trivial (fun _ => trivial) reached
    · intro before after moved
      cases moved
    · rintro t before after rfl _
      exact ⟨committing_finish before t subset_rfl, trivial⟩
    · intro _ _ before after grown _ committed mandate same
      exact grown.1 (committed mandate same)
    · intro program allowed t db _ _
      obtain ⟨call, rfl⟩ := allowed
      exact call_committed call t db
  exact kept.running t _ (Config.threads_of_finished finished)

theorem step_revocations {α : Type} {Start : Program Statement Statement.Answer α → Prop}
    {before after : Config Tid (Db Tid) Statement Statement.Answer α}
    (stepped : Step (Postgres.semantics Tid fun _ _ => True) Start before after) :
    before.shared.tables.revocations ⊆ after.shared.tables.revocations := by
  rcases Step.tables_eq stepped with same | ⟨t, -, same⟩
  · rw [same]
  · rw [same]
    intro mandate revoked
    exact (Tables.mem_foldl_revocations _ _).mpr (.inl revoked)

theorem view_revoke (reached : Reachable (Postgres.semantics Tid fun _ _ => True)
      (Requests hashtext externals fun _ => True) .initial config) {mandate : MandateId}
    (revokes : Write.revoke mandate ∈ config.shared.pending t) :
    config.shared.view t = config.shared.tables.apply (.revoke mandate) := by
  obtain ⟨own, owns, -⟩ := Reachable.owned reached t
  rw [owns.writes] at revokes
  rw [Db.view, owns.writes, (own.property.revoking mandate revokes).1]
  rfl

end Transactions

/-- The revocations of an in-memory store shared by ledgers. -/
structure MemoryRevocations {Proof Evidence : Type} (externals : Externals)
    (earlier later : World Proof Evidence) : Prop where
  final : (revocations earlier).Final (revocations later)
  alone : ∀ mandate answer after, later.Exec externals (.revoke mandate) answer after →
    after = { later with
      inner := { later.inner with revoked := insert mandate later.inner.revoked } }

/-- The committed revocations of the database. -/
structure PostgresRevocations {Tid : Type} [DecidableEq Tid] (earlier later : Db Tid) : Prop where
  final : earlier.tables.revoking.Final later.tables.revoking
  alone : ∀ t mandate, Write.revoke mandate ∈ later.pending t →
    (later.commit t).tables =
      { later.tables with revocations := insert mandate later.tables.revocations }

/-- Whatever calls run concurrently, an event that authorizes under a mandate is not
appended after the mandate was revoked, and a revocation touches nothing else.  Once a
revocation has returned `Ok` its mandate is revoked for good. -/
theorem revocations_final (externals : Externals) :
    (∀ (Proof Evidence Tid : Type) [DecidableEq Tid] (ledgers : Set Ledger),
      (∀ earlier later : Config Tid (World Proof Evidence) (Op Proof Evidence) Op.Answer Response,
        Engine.Reachable externals ledgers earlier →
        Relation.ReflTransGen (Step (Engine.semantics Tid externals) (Calls externals ledgers))
          earlier later → MemoryRevocations externals earlier.shared later.shared) ∧
      ∀ earlier later : Config Tid (World Proof Evidence) (Op Proof Evidence) Op.Answer
          (Invocation Proof Evidence),
        Process.Reachable (Engine.semantics Tid externals) (Invocations externals ledgers)
          World.empty earlier →
        Relation.ReflTransGen (Step (Engine.semantics Tid externals)
          (Invocations externals ledgers)) earlier later →
        ∀ t mandate exchanges,
          earlier.finished t = some ⟨.revoke mandate, exchanges, .revoke (.ok ())⟩ →
            mandate ∈ later.shared.inner.revoked) ∧
    ∀ (Tid : Type) [DecidableEq Tid] (hashtext : String → Int),
      (∀ earlier later : Config Tid (Db Tid) Statement Statement.Answer Reply,
        Reachable (Postgres.semantics Tid fun _ _ => True)
          (Requests hashtext externals fun _ => True) .initial earlier →
        Relation.ReflTransGen (Step (Postgres.semantics Tid fun _ _ => True)
          (Requests hashtext externals fun _ => True)) earlier later →
        PostgresRevocations earlier.shared later.shared) ∧
      ∀ earlier later : Config Tid (Db Tid) Statement Statement.Answer (TxRequest × Reply),
        Reachable (Postgres.semantics Tid fun _ _ => True) (NamedCalls hashtext externals)
          .initial earlier →
        Relation.ReflTransGen (Step (Postgres.semantics Tid fun _ _ => True)
          (NamedCalls hashtext externals)) earlier later →
        ∀ t mandate, earlier.finished t = some (.revoke mandate, .revoke (.ok ())) →
          mandate ∈ later.shared.tables.revocations := by
  constructor
  · intro Proof Evidence Tid _ ledgers
    constructor
    · intro earlier later reached steps
      refine ⟨?_, fun _ _ _ executed => executed.2⟩
      exact Process.Reachable.relates revocations .refl .trans
        (fun _ stepped => step_final stepped) reached steps
    · intro earlier later reached steps t mandate exchanges returned
      have lasting := Process.Reachable.relates revocations .refl .trans
        (fun _ stepped => step_final stepped) reached steps
      exact lasting.revoked (reachable_confirmed reached returned mandate exchanges rfl)
  · intro Tid _ hashtext
    constructor
    · intro earlier later reached steps
      refine ⟨?_, fun _ _ revokes => view_revoke (reached.steps steps) revokes⟩
      exact Process.Reachable.relates (fun db : Db Tid => db.tables.revoking) .refl .trans
        (fun reached stepped => Tables.step_final reached stepped) reached steps
    · intro earlier later reached steps t mandate returned
      have lasting := Process.Reachable.relates (fun db : Db Tid => db.tables.revocations)
        (fun _ => subset_rfl) Finset.Subset.trans (fun _ stepped => step_revocations stepped)
        reached steps
      exact lasting (reachable_committed reached returned mandate rfl)

namespace Sample

open Core.Sample Adapters

/-- An authorization and a revocation of its mandate take turns. -/
def ledgerRace {α : Type}
    (program : Request MockProof MockFinality → Program (Op MockProof MockFinality) Op.Answer α)
    (turns : List Bool) :
    Config Bool (World MockProof MockFinality) (Op MockProof MockFinality) Op.Answer α :=
  Config.schedule
    (fun _ world op => world.perform Core.Sample.externals
      (Adapters.Sample.rail.surroundings ⟨10⟩) op)
    (.started World.empty
      [ (false, program (.authorize Adapters.Sample.ledger (mandate alice) cart "k1")),
        (true, program (.revoke mandateId)) ]) turns

section Ledgers

variable {α : Type}
  (program : Request MockProof MockFinality → Program (Op MockProof MockFinality) Op.Answer α)
  {Start : Program (Op MockProof MockFinality) Op.Answer α → Prop}

theorem ledgerRace_reachable
    (starts : ∀ request, (∀ ledger ∈ request.ledger?, ledger ∈ ({Adapters.Sample.ledger} : Set _)) →
      Start (program request)) (turns : List Bool) :
    Process.Reachable (Engine.semantics Bool Core.Sample.externals) Start World.empty
      (ledgerRace program turns) := by
  refine Process.Reachable.schedule (fun _ world op => World.perform_exec _ world _ op) ?_ _
  refine Process.Reachable.started _ (by simp) ?_
  intro entry listed
  simp only [List.mem_cons, List.not_mem_nil, or_false] at listed
  rcases listed with rfl | rfl
  · exact starts _ (by simp [Request.ledger?])
  · exact starts _ (by simp [Request.ledger?])

theorem ledgerRace_steps (earlier later : List Bool) :
    Relation.ReflTransGen (Step (Engine.semantics Bool Core.Sample.externals) Start)
      (ledgerRace program earlier) (ledgerRace program (earlier ++ later)) := by
  unfold ledgerRace
  rw [Config.schedule_append]
  exact Config.schedule_steps (fun _ world op => World.perform_exec _ world _ op) _ later

end Ledgers

def transactionRace {α : Type} (program : TxRequest → Program Statement Statement.Answer α)
    (turns : List Bool) : Config Bool (Db Bool) Statement Statement.Answer α :=
  Config.schedule (Db.perform fun _ _ => True)
    (.started .initial
      [ (false, program (.append firstCtx ⟨10⟩
          (.authorized (mandate alice) (cart.snapshot Core.Sample.sha256) "k1"))),
        (true, program (.revoke mandateId)) ]) turns

section Transactions

variable {α : Type} (program : TxRequest → Program Statement Statement.Answer α)
  {Start : Program Statement Statement.Answer α → Prop}

theorem transactionRace_reachable (starts : ∀ call, Start (program call)) (turns : List Bool) :
    Reachable (Postgres.semantics Bool fun _ _ => True) Start .initial
      (transactionRace program turns) := by
  refine Process.Reachable.schedule (Db.perform_exec _) ?_ _
  refine Process.Reachable.started _ (by simp) ?_
  intro entry listed
  simp only [List.mem_cons, List.not_mem_nil, or_false] at listed
  rcases listed with rfl | rfl <;> exact starts _

theorem transactionRace_steps (earlier later : List Bool) :
    Relation.ReflTransGen (Step (Postgres.semantics Bool fun _ _ => True) Start)
      (transactionRace program earlier) (transactionRace program (earlier ++ later)) := by
  unfold transactionRace
  rw [Config.schedule_append]
  exact Config.schedule_steps (Db.perform_exec _) _ later

theorem requests_program (call : TxRequest) :
    Requests hashtext externals (fun _ => True) (call.program hashtext externals) := by
  cases call with
  | append ctx now body => exact .append ctx now body trivial
  | revoke mandate => exact .revoke mandate

end Transactions

/-- The calls, and the calls that report. -/
def calls : Request MockProof MockFinality → Program (Op MockProof MockFinality) Op.Answer Response :=
  Request.program Core.Sample.externals

def invocations : Request MockProof MockFinality →
    Program (Op MockProof MockFinality) Op.Answer (Invocation MockProof MockFinality) :=
  invoke Core.Sample.externals

/-- The mandate that a returned call has revoked. -/
def revokedBy : Invocation MockProof MockFinality → Option MandateId
  | ⟨.revoke mandate, _, .revoke (.ok ())⟩ => some mandate
  | _ => none

theorem revokedBy_eq_some {invocation : Invocation MockProof MockFinality} {mandate : MandateId}
    (revoked : revokedBy invocation = some mandate) :
    ∃ exchanges, invocation = ⟨.revoke mandate, exchanges, .revoke (.ok ())⟩ := by
  unfold revokedBy at revoked
  split at revoked
  · cases revoked
    exact ⟨_, rfl⟩
  · cases revoked

def named (call : TxRequest) : Program Statement Statement.Answer (TxRequest × Reply) :=
  (fun reply => (call, reply)) <$> call.program hashtext externals

def aboutToAppend
    (config : Config Bool (World MockProof MockFinality) (Op MockProof MockFinality) Op.Answer
      Response) : Option EventBody :=
  match config.threads false with
  | some (.call (.append _ _ body) _) => some body
  | _ => none

end Sample

/-- The authorizations have passed their first check, or locked their context, when the
revocation comes in between. -/
theorem races_revocations_final :
    ((Sample.aboutToAppend (Sample.ledgerRace Sample.calls [false, false, false, true])).bind
          EventBody.mandate? = some (Core.Sample.mandate Core.Sample.alice) ∧
      ((Sample.ledgerRace Sample.calls
          [false, false, false, true, false, false]).shared.history.map fun event =>
        event.body.isDenied) = [true] ∧
      MemoryRevocations Core.Sample.externals
        (Sample.ledgerRace Sample.calls [false, false, false, true]).shared
        (Sample.ledgerRace Sample.calls [false, false, false, true, false, false]).shared ∧
      Core.Sample.mandateId ∈ (Sample.ledgerRace Sample.invocations
        [false, false, false, true, false, false]).shared.inner.revoked) ∧
    ((Sample.transactionRace (TxRequest.program Sample.hashtext Sample.externals)
          [false, true, true, true, false, false, false, false]).finished false =
        some (.append (.ok .mandateRevoked)) ∧
      PostgresRevocations
        (Sample.transactionRace (TxRequest.program Sample.hashtext Sample.externals)
          [false, true, true, true]).shared
        (Sample.transactionRace (TxRequest.program Sample.hashtext Sample.externals)
          [false, true, true, true, false, false, false, false]).shared ∧
      Core.Sample.mandateId ∈ (Sample.transactionRace Sample.named
        [false, true, true, true, false, false, false, false]).shared.tables.revocations) := by
  have ledgers := (revocations_final Core.Sample.externals).1 Adapters.MockProof
    Adapters.MockFinality Bool {Adapters.Sample.ledger}
  have transactions := (revocations_final Sample.externals).2 Bool Sample.hashtext
  refine ⟨⟨by decide +kernel, by decide +kernel, ?_, ?_⟩, by decide +kernel, ?_, ?_⟩
  · exact ledgers.1 _ _
      (Sample.ledgerRace_reachable Sample.calls (fun request named => ⟨request, named, rfl⟩) _)
      (Sample.ledgerRace_steps Sample.calls [false, false, false, true] [false, false])
  · have returned : ((Sample.ledgerRace Sample.invocations
        [false, false, false, true]).finished true).bind Sample.revokedBy =
          some Core.Sample.mandateId := by decide +kernel
    obtain ⟨invocation, finished, revoked⟩ := Option.bind_eq_some_iff.mp returned
    obtain ⟨exchanges, rfl⟩ := Sample.revokedBy_eq_some revoked
    exact ledgers.2 _ _
      (Sample.ledgerRace_reachable Sample.invocations
        (fun request named => ⟨request, named, rfl⟩) _)
      (Sample.ledgerRace_steps Sample.invocations [false, false, false, true] [false, false])
      true _ _ finished
  · exact transactions.1 _ _ (Sample.transactionRace_reachable _ Sample.requests_program _)
      (Sample.transactionRace_steps _ [false, true, true, true] [false, false, false, false])
  · have returned : (Sample.transactionRace Sample.named [false, true, true, true]).finished true =
        some (.revoke Core.Sample.mandateId, .revoke (.ok ())) := by decide +kernel
    exact transactions.2 _ _
      (Sample.transactionRace_reachable Sample.named (fun call => ⟨call, rfl⟩) _)
      (Sample.transactionRace_steps Sample.named [false, true, true, true]
        [false, false, false, false]) true _ returned

end MandateLedger.Postgres
