import MandateLedger.Postgres.Discipline

namespace MandateLedger.Postgres

open MandateLedger.Core MandateLedger.Data MandateLedger.Process

section Rules

variable {Tid ρ α β : Type} [DecidableEq Tid] {externals : Externals} {hashtext : String → Int}
  {policy : Policy Tid} {sound : policy.Sound externals} {t : Tid} {db : Db Tid}
  {Fails : Except StoreError ρ → Prop}

/-- The transaction keeps the discipline from `db`; it ends in `Returns` or
stops early with a result that satisfies `Fails`. -/
abbrev Respects (hashtext : String → Int) (sound : policy.Sound externals) (t : Tid)
    (Fails : Except StoreError ρ → Prop) (tx : Tx ρ α) (Returns : α → Db Tid → Prop)
    (db : Db Tid) : Prop :=
  tx.run.Keeps (semantics Tid policy.Allowed) (discipline hashtext policy sound) t
    (Ends Returns fun result _ => Fails result) db

namespace Respects

variable {Returns : α → Db Tid → Prop}

theorem bind {first : Tx ρ β} {rest : β → Tx ρ α}
    (kept : Respects hashtext sound t Fails first
      (fun value => Respects hashtext sound t Fails (rest value) Returns) db) :
    Respects hashtext sound t Fails (first >>= rest) Returns db :=
  (Fallible.keeps_bind first rest).mpr kept

theorem pure {value : α} (returns : Returns value db) :
    Respects hashtext sound t Fails (pure value) Returns db := returns

theorem mono {tx : Tx ρ α} {Stronger : α → Db Tid → Prop}
    (kept : Respects hashtext sound t Fails tx Stronger db)
    (implied : ∀ value after, Stronger value after → Returns value after) :
    Respects hashtext sound t Fails tx Returns db := by
  refine Program.Keeps.mono kept ?_
  intro result after ended
  cases result with
  | ok value => exact implied value after ended
  | error error => exact ended

theorem exit {result : ρ} (fails : Fails (.ok result)) :
    Respects hashtext sound t Fails (Tx.exit result : Tx ρ α) Returns db := fails

theorem require {result : Except StoreError α}
    (returns : ∀ value, result = .ok value → Returns value db)
    (fails : ∀ error, result = .error error → Fails (.error error)) :
    Respects hashtext sound t Fails (Tx.require result) Returns db := by
  cases result with
  | ok value => exact returns value rfl
  | error error => exact fails error rfl

theorem query {statement : Statement} {Returns : statement.Result → Db Tid → Prop}
    (unfinished : statement.isCommit = false)
    (fails : ∀ message, Fails (.error (.backend message)))
    (returns : ∀ before, Undisturbed hashtext policy.Recent t db before →
      Consistent policy before → before.Ready t statement →
      Returns (before.result t statement) (before.after t statement)) :
    Respects hashtext sound t Fails (Tx.query statement) Returns db := by
  intro before related consistent answer after executed
  cases answer with
  | ok result =>
      obtain ⟨⟨ready, rfl, rfl⟩, -⟩ := executed
      exact ⟨permits_after consistent ready unfinished, returns before related consistent ready⟩
  | error error =>
      obtain ⟨⟨⟨message, rfl⟩, -, same⟩, -⟩ := executed
      have kept : after = before := by
        rcases same with same | ⟨rfl, -⟩
        · exact same
        · cases unfinished
      subst kept
      exact ⟨⟨consistent, fun other _ => (discipline hashtext policy sound).refl other _⟩,
        fails message⟩

theorem commit {Returns : Unit → Db Tid → Prop}
    (fails : ∀ message, Fails (.error (.backend message)))
    (permits : ∀ before, Undisturbed hashtext policy.Recent t db before →
      Consistent policy before → policy.Allowed before t →
      (discipline hashtext policy sound).Permits t before (before.commit t))
    (returns : ∀ before : Db Tid, Returns () (before.commit t)) :
    Respects hashtext sound t Fails (Tx.query .commit) Returns db := by
  intro before related consistent answer after executed
  obtain ⟨answered, guarded⟩ := executed
  have permitted : after = before.commit t ∨ after = before →
      (discipline hashtext policy sound).Permits t before after := by
    intro reached
    rcases guarded rfl with rfl | allowed
    · exact ⟨consistent, fun other _ => (discipline hashtext policy sound).refl other _⟩
    · rcases reached with rfl | rfl
      · exact permits before related consistent allowed
      · exact ⟨consistent, fun other _ => (discipline hashtext policy sound).refl other _⟩
  cases answer with
  | ok result =>
      obtain ⟨-, -, rfl⟩ := answered
      exact ⟨permitted (.inl rfl), returns before⟩
  | error error =>
      obtain ⟨⟨message, rfl⟩, -, reached⟩ := answered
      exact ⟨permitted (reached.symm.imp And.right id), fails message⟩

theorem transaction {tx : Tx ρ ρ}
    (kept : Respects hashtext sound t Fails tx
      (fun result db => db.pending t = [] ∧ Fails (.ok result)) db) :
    tx.transaction.Keeps (semantics Tid policy.Allowed) (discipline hashtext policy sound) t
      (fun result db => db.pending t = [] ∧ Fails result) db := by
  refine (Program.keeps_bind _ _).mpr (Program.Keeps.mono kept ?_)
  intro result after ended
  cases result with
  | ok result => exact ended
  | error result =>
      intro before related consistent answer rolled executed
      cases answer with
      | ok _ =>
          obtain ⟨⟨-, -, rfl⟩, -⟩ := executed
          exact ⟨permits_abort consistent, Function.update_self .., ended⟩
      | error error => exact absurd rfl executed.1.2.1

end Respects

end Rules

section Decide

variable {Tid : Type} {hashtext : String → Int} {t : Tid} {db before : Db Tid} {ctx : ContextId}
  {now : Timestamp} {body : EventBody} {ops : DecimalOps}
  {Recent : Option Money → Option Money → Prop} {claims : List Write} {effects : Effects}

/-- The locks an append holds in phase 1. -/
structure Locked (hashtext : String → Int) (t : Tid) (ctx : ContextId) (body : EventBody)
    (db : Db Tid) : Prop where
  context : db.locks (contextKey hashtext ctx) = some t
  mandate : ∀ signed, body.mandate? = some signed →
    db.locks (mandateKey hashtext signed.body.id) = some t

theorem Locked.acquire {Tid : Type} {hashtext : String → Int} {t : Tid} {ctx : ContextId}
    {body : EventBody} {db : Db Tid} (locked : Locked hashtext t ctx body db) (key : LockKey) :
    Locked hashtext t ctx body (db.acquire t key) where
  context := Db.acquire_held key locked.context
  mandate signed found := Db.acquire_held key (locked.mandate signed found)

/-- The decision of phase 1 and what keeps it true. -/
structure Decided (hashtext : String → Int) (ops : DecimalOps)
    (Recent : Option Money → Option Money → Prop) (t : Tid) (ctx : ContextId) (now : Timestamp)
    (body : EventBody) (claims : List Write) (effects : Effects) (db : Db Tid) : Prop extends
    Locked hashtext t ctx body db where
  pending : db.pending t = claims
  read : ∀ signed, body.mandate? = some signed → signed.body.id ∈ db.read t
  decides : Decides ops Recent db.tables ctx now body claims effects

theorem Locked.stable (locked : Locked hashtext t ctx body db)
    (related : Undisturbed hashtext Recent t db before) : Locked hashtext t ctx body before where
  context := related.locks _ locked.context
  mandate signed found := related.locks _ (locked.mandate signed found)

theorem Moves.stable {target : PaymentState} {record : Record}
    (moves : Moves db.tables ctx body target record)
    (held : db.locks (contextKey hashtext ctx) = some t)
    (related : Undisturbed hashtext Recent t db before) :
    Moves before.tables ctx body target record :=
  { moves with found := (related.context ctx held).1.trans moves.found }

theorem Decided.stable
    (transitive : ∀ first second third, Recent first second → Recent second third →
      Recent first third)
    (decided : Decided hashtext ops Recent t ctx now body claims effects db)
    (related : Undisturbed hashtext Recent t db before) :
    Decided hashtext ops Recent t ctx now body claims effects before := by
  refine ⟨decided.toLocked.stable related, related.pending.trans decided.pending, ?_, ?_⟩
  · intro signed found
    rw [related.read]
    exact decided.read signed found
  · obtain ⟨locked, pending, read, decides⟩ := decided
    obtain ⟨record, chain⟩ := related.context ctx locked.context
    cases decides with
    | @authorized mandate cart requestKey next opens =>
        obtain ⟨revoked, counted, recent⟩ :=
          related.mandate mandate.body.id (locked.mandate mandate rfl)
        obtain ⟨held, granted, earlier⟩ := opens.budget
        have paced : before.tables.countSince mandate.body.id =
            db.tables.countSince mandate.body.id := funext counted
        exact .authorized
          { absent := record.trans opens.absent
            active := fun listed => opens.active (revoked.mp listed)
            paced := paced ▸ opens.paced
            budget := ⟨held, granted, transitive _ _ _ earlier (recent (read mandate rfl))⟩ }
    | claimed moves free =>
        have unclaimed := related.claims _ _ (pending ▸ List.mem_singleton_self _)
        exact .claimed (moves.stable locked.context related) (unclaimed.trans free)
    | replayed moves own =>
        exact .replayed (moves.stable locked.context related) (related.nonces _ _ own)
    | moved moves plain => exact .moved (moves.stable locked.context related) plain
    | released moves giving => exact .released (moves.stable locked.context related) giving
    | denied uncapped =>
        refine .denied ?_
        rw [Tables.denials, chain]
        exact uncapped

end Decide

section PhaseOne

variable {Tid : Type} {externals : Externals} {hashtext : String → Int}
  {policy : Policy Tid} {sound : policy.Sound externals} {t : Tid} {db : Db Tid}
  {ctx : ContextId} {now : Timestamp} {body : EventBody} {existing : Option Record}

theorem Policy.Sound.backend (sound : policy.Sound externals) (message : String) :
    policy.Result (.error (.backend message)) := sound.result (by simp)

theorem Policy.Sound.outcome (sound : policy.Sound externals) (outcome : AppendOutcome) :
    policy.Result (.ok outcome) := sound.result (by simp)

theorem Db.view_of_nil (idle : db.pending t = []) : db.view t = db.tables := by
  simp [Db.view, idle]

theorem checkTransition_result (sound : policy.Sound externals) {target : PaymentState}
    {error : StoreError} (failed : checkTransition existing ctx target = .error error) :
    policy.Result (.error error) := by
  rw [checkTransition_error failed]
  exact sound.result (by simp)

/-- What phase 1 has to establish. -/
abbrev Decision (hashtext : String → Int) (externals : Externals) (policy : Policy Tid) (t : Tid)
    (ctx : ContextId) (now : Timestamp) (body : EventBody) (effects : Effects)
    (db : Db Tid) : Prop :=
  ∃ claims, Decided hashtext externals.decimals policy.Recent t ctx now body claims effects db

theorem Moves.unsigned {tables : Tables} {target : PaymentState} {record : Record}
    (moves : Moves tables ctx body target record) : body.mandate? = none :=
  EventBody.mandate?_eq_none moves.moves moves.later

theorem Moves.decision {tables : Tables} {target : PaymentState} {record : Record}
    {claims : List Write} {effects : Effects} (moves : Moves tables ctx body target record)
    (locked : Locked hashtext t ctx body db) (pending : db.pending t = claims)
    (decides : Decides externals.decimals policy.Recent db.tables ctx now body claims effects) :
    Decision hashtext externals policy t ctx now body effects db :=
  ⟨claims, locked, pending, by simp [moves.unsigned], decides⟩

variable [DecidableEq Tid]

theorem Respects.transition {α : Type} {target : PaymentState} (body : EventBody)
    {rest : Unit → Tx AppendOutcome α} {Returns : α → Db Tid → Prop}
    (found : existing = db.tables.contexts.lookup ctx)
    (moves : body.resultingState = some target) (later : target ≠ .authorized)
    (kept : ∀ record, existing = some record → Moves db.tables ctx body target record →
      Respects hashtext sound t policy.Result (rest ()) Returns db) :
    Respects hashtext sound t policy.Result
      (Tx.require (checkTransition existing ctx target) >>= rest) Returns db := by
  refine .bind (.require ?_ fun error failed => checkTransition_result sound failed)
  intro _ passed
  obtain ⟨record, present, legal⟩ := (checkTransition_advance later).mp passed
  exact kept record present ⟨moves, later, found ▸ present, legal⟩

theorem decideMove_respects {target : PaymentState} (locked : Locked hashtext t ctx body db)
    (idle : db.pending t = []) (found : existing = db.tables.contexts.lookup ctx)
    (moves : body.resultingState = some target)
    (plain : target = .settled ∨ target = .compensated ∨ target = .delivered) :
    Respects hashtext sound t policy.Result (decideMove ctx existing target)
      (Decision hashtext externals policy t ctx now body) db := by
  have later : target ≠ .authorized := by
    rintro rfl
    simp at plain
  refine .transition body found moves later ?_
  intro record present moves
  exact .pure (moves.decision locked idle (.moved moves plain))

theorem decideRelease_respects {target : PaymentState} (locked : Locked hashtext t ctx body db)
    (idle : db.pending t = []) (found : existing = db.tables.contexts.lookup ctx)
    (moves : body.resultingState = some target)
    (giving : target = .settlementFailed ∨ target = .expired) :
    Respects hashtext sound t policy.Result (decideRelease ctx existing target)
      (Decision hashtext externals policy t ctx now body) db := by
  have later : target ≠ .authorized := by
    rintro rfl
    simp at giving
  refine .transition body found moves later ?_
  intro record present moves
  subst present
  exact .pure (moves.decision locked idle (.released moves giving))

theorem decidePaid_respects {rail reference nonce : String} {amount : Money} {key : Hash32}
    (locked : Locked hashtext t ctx (.paid rail reference nonce amount key) db)
    (idle : db.pending t = []) (found : existing = db.tables.contexts.lookup ctx) :
    Respects hashtext sound t policy.Result (decidePaid ctx existing rail nonce)
      (Decision hashtext externals policy t ctx now (.paid rail reference nonce amount key)) db := by
  refine .transition (.paid rail reference nonce amount key) found rfl (by decide) ?_
  intro record present moves
  refine .bind (.query rfl sound.backend ?_)
  intro first related consistent ready
  have unclaimed := related.pending.trans idle
  have holding := locked.stable related
  have moving := moves.stable locked.context related
  simp only [Db.result, Db.after, Db.view_of_nil unclaimed]
  cases owned : first.tables.nonces.lookup (rail, nonce) with
  | none =>
      refine .pure (moves.decision ⟨holding.context, holding.mandate⟩ ?_ (.claimed moving owned))
      simp [Db.push, unclaimed]
  | some holder =>
      refine .bind (.query rfl sound.backend ?_)
      intro second again _ _
      have idle := again.pending.trans unclaimed
      have answer := again.nonces _ _ owned
      simp only [Db.result, Db.view_of_nil idle, answer]
      by_cases own : holder = ctx
      · subst own
        simp only [if_pos]
        exact .pure (moves.decision (holding.stable again) idle
          (.replayed (moving.stable holding.context again) answer))
      · rw [if_neg own]
        exact .exit (sound.outcome _)

theorem decideDenied_respects {stage : Stage} {reason : DenyReason} {detail : String}
    (locked : Locked hashtext t ctx (.denied stage reason detail) db) (idle : db.pending t = []) :
    Respects hashtext sound t policy.Result (decideDenied ctx)
      (Decision hashtext externals policy t ctx now (.denied stage reason detail)) db := by
  refine .bind (.query rfl sound.backend ?_)
  intro before related _ _
  have idle := related.pending.trans idle
  simp only [Db.result, Db.view_of_nil idle]
  by_cases capped : denialCap ≤ before.tables.denials ctx
  · rw [if_pos capped]
    exact .exit (sound.outcome _)
  · rw [if_neg capped]
    refine .pure ⟨[], locked.stable related, idle, ?_, .denied (Nat.lt_of_not_le capped)⟩
    simp [EventBody.mandate?]

theorem decideVelocity_respects {mandate : MandateId} {scope : Scope} (idle : db.pending t = []) :
    Respects hashtext sound t policy.Result (decideVelocity now mandate scope)
      (fun _ after => Undisturbed hashtext policy.Recent t db after ∧
        checkVelocity scope now (after.tables.countSince mandate) = none) db := by
  unfold decideVelocity checkVelocity
  cases scope.velocity with
  | none => exact .pure ⟨(discipline hashtext policy sound).refl t db, rfl⟩
  | some velocity =>
      refine .bind (.query rfl sound.backend ?_)
      intro before related _ _
      simp only [Db.result, Db.view_of_nil (related.pending.trans idle)]
      split
      · exact .exit (sound.outcome _)
      · next below => exact .pure ⟨related, if_neg below⟩

theorem decideAuthorized_respects {mandate : Mandate} {cart : CartSnapshot} {requestKey : String}
    (locked : Locked hashtext t ctx (.authorized mandate cart requestKey) db)
    (idle : db.pending t = []) (found : existing = db.tables.contexts.lookup ctx) :
    Respects hashtext sound t policy.Result
      (decideAuthorized externals.decimals ctx now existing mandate cart)
      (Decision hashtext externals policy t ctx now (.authorized mandate cart requestKey)) db := by
  refine .bind (.require ?_ fun error failed => checkTransition_result sound failed)
  intro _ passed
  have absent := found ▸ checkTransition_authorized.mp passed
  have held := locked.mandate mandate rfl
  refine .bind (.query rfl sound.backend ?_)
  intro first related _ _
  simp only [Db.result, Db.after, Db.view_of_nil (related.pending.trans idle), decide_eq_true_eq]
  by_cases revoked : mandate.body.id ∈ first.tables.revocations
  · rw [if_pos revoked]
    exact .bind (.exit (sound.outcome _))
  rw [if_neg revoked]
  refine .bind (Respects.mono (decideVelocity_respects (related.pending.trans idle)) ?_)
  intro _ second given
  obtain ⟨later, paced⟩ := given
  refine .bind (.query rfl sound.backend ?_)
  intro third last _ _
  -- what was read earlier still stands
  have throughout := (related.trans sound.recent_trans later).trans sound.recent_trans last
  have lockedFirst := related.locks _ held
  have lockedSecond := later.locks _ lockedFirst
  have active : mandate.body.id ∉ third.tables.revocations := by
    rw [((later.trans sound.recent_trans last).mandate _ lockedFirst).1]
    exact revoked
  have paced : checkVelocity mandate.body.scope now
      (third.tables.countSince mandate.body.id) = none := by
    rw [show third.tables.countSince mandate.body.id = second.tables.countSince mandate.body.id
      from funext (last.mandate _ lockedSecond).2.1]
    exact paced
  simp only [Db.result, Db.after, Db.view_of_nil (throughout.pending.trans idle)]
  refine .bind (.require ?_ ?_)
  · intro verdict budget
    cases verdict with
    | refused outcome => exact .exit (sound.outcome _)
    | granted next =>
        have holding := locked.stable throughout
        refine .pure ⟨[], ⟨holding.context, holding.mandate⟩, throughout.pending.trans idle,
          ?_, .authorized
            { absent := (throughout.context ctx locked.context).1.trans absent
              active := active
              paced := paced
              budget := ⟨_, budget, sound.recent_refl _⟩ }⟩
        intro signed same
        cases same
        simp [Db.note]
  · intro error failed
    obtain ⟨cause, rfl⟩ := checkBudget_error failed
    exact sound.result (by simp)

theorem decideEffects_respects (locked : Locked hashtext t ctx body db) (idle : db.pending t = [])
    (found : existing = db.tables.contexts.lookup ctx) :
    Respects hashtext sound t policy.Result
      (decideEffects externals.decimals ctx now existing body)
      (Decision hashtext externals policy t ctx now body) db := by
  cases body with
  | authorized mandate cart requestKey => exact decideAuthorized_respects locked idle found
  | paid rail reference nonce amount key => exact decidePaid_respects locked idle found
  | settled rail reference => exact decideMove_respects locked idle found rfl (by simp)
  | settlementFailed rail reason => exact decideRelease_respects locked idle found rfl (by simp)
  | compensated reference => exact decideMove_respects locked idle found rfl (by simp)
  | delivered receipt => exact decideMove_respects locked idle found rfl (by simp)
  | expired => exact decideRelease_respects locked idle found rfl (by simp)
  | denied stage reason detail => exact decideDenied_respects locked idle

end PhaseOne

/-- The tables an append decided on, up to revocations of other mandates. -/
structure Frozen (decided : Tables) (body : EventBody) (tables : Tables) : Prop where
  same : tables = { decided with revocations := tables.revocations }
  active : ∀ signed, body.mandate? = some signed →
    (signed.body.id ∈ tables.revocations ↔ signed.body.id ∈ decided.revocations)

section Writing

variable {Tid : Type} {hashtext : String → Int} {t : Tid} {db before : Db Tid} {decided : Tables}
  {ctx : ContextId} {now : Timestamp} {body : EventBody} {bound : Nat} {writes : List Write}
  {Recent : Option Money → Option Money → Prop}

/-- An append under the log lock. -/
structure Writing (hashtext : String → Int) (t : Tid) (decided : Tables) (ctx : ContextId)
    (body : EventBody) (bound : Nat) (writes : List Write) (db : Db Tid) : Prop extends
    Locked hashtext t ctx body db where
  log : db.locks logKey = some t
  pending : db.pending t = writes
  frozen : Frozen decided body db.tables
  bounded : bound ≤ db.nextSeq

theorem Writing.stable (writing : Writing hashtext t decided ctx body bound writes db)
    (related : Undisturbed hashtext Recent t db before) :
    Writing hashtext t decided ctx body bound writes before where
  toLocked := writing.toLocked.stable related
  log := related.locks _ writing.log
  pending := related.pending.trans writing.pending
  frozen :=
    { same := by
        have tables := related.log writing.log
        rw [writing.frozen.same] at tables
        exact tables
      active := fun signed found =>
        (related.mandate _ (writing.mandate signed found)).1.trans
          (writing.frozen.active signed found) }
  bounded := writing.bounded.trans related.sequence

theorem Writing.view (writing : Writing hashtext t decided ctx body bound writes db) :
    db.view t = writes.foldl Tables.apply db.tables := by
  rw [Db.view, writing.pending]

theorem Writing.push [DecidableEq Tid]
    (writing : Writing hashtext t decided ctx body bound writes db) (write : Write) :
    Writing hashtext t decided ctx body bound (writes ++ [write]) (db.push t write) :=
  { writing with pending := by simp [Db.push, writing.pending] }

end Writing

/-- The writes of a release. -/
def Releases (ops : DecimalOps) (tables : Tables) : Option (MandateId × Money) → List Write → Prop
  | none, writes => writes = []
  | some (mandate, amount), writes => ∃ next,
      releaseFrom ops (tables.reservations.lookup mandate) mandate amount = .ok next ∧
        writes = [.setAmount mandate next.amount]

/-- The writes of an authorization, before it creates the record. -/
def reserveWrites (ctx : ContextId) (now : Timestamp) : Option (MandateId × Money) → List Write
  | none => []
  | some (mandate, next) => [.reserve mandate next, .authorize ⟨mandate, ctx, now⟩]

def advanceWrites (ctx : ContextId) : EventBody → List Write
  | .authorized .. | .denied .. => []
  | body => [.advance ctx body]

theorem Moves.advances {tables : Tables} {ctx : ContextId} {body : EventBody}
    {target : PaymentState} {record : Record} (moves : Moves tables ctx body target record) :
    advanceWrites ctx body = [.advance ctx body] := by
  have opened := moves.moves
  cases body with
  | authorized => exact absurd (Option.some.inj opened).symm moves.later
  | denied => cases opened
  | _ => rfl

/-- Phase 2 commits what phase 1 decided. -/
theorem Decides.commits {ops : DecimalOps} {Recent : Option Money → Option Money → Prop}
    {tables : Tables} {event : Event} {claims released : List Write} {effects : Effects}
    (decides : Decides ops Recent tables event.ctx event.recordedAt event.body claims effects)
    (releases : Releases ops tables effects.release released) :
    Commits ops Recent tables event
      ((claims ++ reserveWrites event.ctx event.recordedAt effects.reserve ++ released ++
        effects.create.toList.map Write.create ++ advanceWrites event.ctx event.body ++
        [Write.log event]).foldl Tables.apply tables) := by
  generalize body : event.body = written at decides
  cases decides with
  | authorized opens =>
      cases releases
      exact .authorized body opens
  | @claimed rail reference nonce amount key record moves free =>
      cases releases
      have found : (tables.apply (.claim (rail, nonce) event.ctx)).contexts.lookup event.ctx =
          some record := moves.found
      rw [← body] at moves ⊢
      rw [moves.advances]
      change Commits ops Recent tables event
        (((tables.apply (.claim (rail, nonce) event.ctx)).apply
          (.advance event.ctx event.body)).apply (.log event))
      rw [Tables.apply_advance found]
      exact .claimed body moves free
  | replayed moves own =>
      cases releases
      rw [← body] at moves ⊢
      rw [moves.advances]
      change Commits ops Recent tables event
        ((tables.apply (.advance event.ctx event.body)).apply (.log event))
      rw [Tables.apply_advance moves.found]
      exact .replayed body moves own
  | moved moves plain =>
      cases releases
      subst body
      rw [moves.advances]
      change Commits ops Recent tables event
        ((tables.apply (.advance event.ctx event.body)).apply (.log event))
      rw [Tables.apply_advance moves.found]
      exact .moved moves plain
  | @released _ target record moves giving =>
      obtain ⟨next, given, rfl⟩ := releases
      subst body
      have found : (tables.apply (.setAmount record.mandateId next.amount)).contexts.lookup
          event.ctx = some record := by
        rw [Tables.apply_setAmount given]
        exact moves.found
      rw [moves.advances]
      change Commits ops Recent tables event
        (((tables.apply (.setAmount record.mandateId next.amount)).apply
          (.advance event.ctx event.body)).apply (.log event))
      rw [Tables.apply_advance found, Tables.apply_setAmount given]
      exact .released moves giving given
  | denied uncapped =>
      cases releases
      exact .denied (by simp [body, EventBody.isDenied]) uncapped

section Decisions

variable {ops : DecimalOps} {Recent : Option Money → Option Money → Prop}
  {tables decided : Tables} {ctx : ContextId} {now : Timestamp} {body : EventBody}
  {claims : List Write} {effects : Effects}

/-- A decision does not depend on the revocation of other mandates. -/
theorem Decides.frozen (decides : Decides ops Recent decided ctx now body claims effects)
    (frozen : Frozen decided body tables) :
    Decides ops Recent tables ctx now body claims effects := by
  obtain ⟨same, active⟩ := frozen
  generalize tables.revocations = revocations at same active
  subst same
  cases decides with
  | @authorized mandate cart requestKey next opens =>
      exact .authorized
        { absent := opens.absent
          active := fun listed => opens.active ((active mandate rfl).mp listed)
          paced := opens.paced
          budget := opens.budget }
  | claimed moves free => exact .claimed ⟨moves.moves, moves.later, moves.found, moves.legal⟩ free
  | replayed moves own => exact .replayed ⟨moves.moves, moves.later, moves.found, moves.legal⟩ own
  | moved moves plain => exact .moved ⟨moves.moves, moves.later, moves.found, moves.legal⟩ plain
  | released moves giving =>
      exact .released ⟨moves.moves, moves.later, moves.found, moves.legal⟩ giving
  | denied uncapped => exact .denied uncapped

/-- A release stands alone: no nonce was claimed and nothing is reserved. -/
theorem Decides.gives (decides : Decides ops Recent tables ctx now body claims effects)
    {mandate : MandateId} {amount : Money} (release : effects.release = some (mandate, amount)) :
    claims ++ reserveWrites ctx now effects.reserve = [] ∧
      ∃ target record, Moves tables ctx body target record ∧
        (target = .settlementFailed ∨ target = .expired) ∧
        record.mandateId = mandate ∧ record.amount = amount := by
  cases decides with
  | @released _ target record moves giving =>
      cases release
      exact ⟨rfl, target, record, moves, giving, rfl, rfl⟩
  | authorized | claimed | replayed | moved | denied => cases release

theorem Decides.lastHash (decides : Decides ops Recent tables ctx now body claims effects) :
    (claims.foldl Tables.apply tables).lastHash ctx = tables.lastHash ctx := by
  cases decides <;> rfl

end Decisions

section PhaseTwo

variable {Tid : Type} [DecidableEq Tid] {externals : Externals} {hashtext : String → Int}
  {policy : Policy Tid} {sound : policy.Sound externals} {t : Tid} {db : Db Tid}
  {decided : Tables} {ctx : ContextId} {now : Timestamp} {body : EventBody} {bound : Nat}
  {writes : List Write}

theorem Writing.write (writing : Writing hashtext t decided ctx body bound writes db)
    (write : Write) :
    Respects hashtext sound t policy.Result (Tx.query (.write write))
      (fun _ => Writing hashtext t decided ctx body bound (writes ++ [write])) db :=
  .query rfl sound.backend fun _ related _ _ => (writing.stable related).push write

theorem writeReserve_respects (writing : Writing hashtext t decided ctx body bound writes db)
    (reserve : Option (MandateId × Money)) :
    Respects hashtext sound t policy.Result (writeReserve ctx now reserve)
      (fun _ => Writing hashtext t decided ctx body bound (writes ++ reserveWrites ctx now reserve))
      db := by
  cases reserve with
  | none => exact .pure (by simpa [reserveWrites] using writing)
  | some entry =>
      refine .bind (Respects.mono (writing.write _) ?_)
      intro _ after reserved
      refine Respects.mono (reserved.write _) ?_
      intro _ last authorized
      simpa [reserveWrites] using authorized

theorem writeRelease_respects (writing : Writing hashtext t decided ctx body bound writes db)
    (release : Option (MandateId × Money))
    (first : ∀ entry, release = some entry → writes = [])
    (fails : ∀ mandate amount error, release = some (mandate, amount) →
      releaseFrom externals.decimals (decided.reservations.lookup mandate) mandate amount =
        .error error → policy.Result (.error error)) :
    Respects hashtext sound t policy.Result (writeRelease externals.decimals release)
      (fun _ after => ∃ released, Releases externals.decimals decided release released ∧
        Writing hashtext t decided ctx body bound (writes ++ released) after) db := by
  cases release with
  | none => exact .pure ⟨[], rfl, by simpa using writing⟩
  | some entry =>
      obtain ⟨mandate, amount⟩ := entry
      have empty := first _ rfl
      subst empty
      refine .bind (.query rfl sound.backend ?_)
      intro before related _ _
      have standing := writing.stable related
      have read : before.result t (.selectReservation mandate) =
          decided.reservations.lookup mandate := by
        rw [Db.result, standing.view, List.foldl_nil, standing.frozen.same]
      rw [read]
      refine .bind (.require ?_ (fails mandate amount · rfl))
      intro next given
      have noted : Writing hashtext t decided ctx body bound []
          (before.after t (.selectReservation mandate)) := { standing with }
      refine Respects.mono (noted.write _) ?_
      intro _ after written
      exact ⟨_, ⟨next, given, rfl⟩, written⟩

theorem writeCreate_respects (writing : Writing hashtext t decided ctx body bound writes db)
    (create : Option Record) :
    Respects hashtext sound t policy.Result (writeCreate create)
      (fun _ => Writing hashtext t decided ctx body bound
        (writes ++ create.toList.map Write.create)) db := by
  cases create with
  | none => exact .pure (by simpa using writing)
  | some record => exact writing.write _

theorem writeAdvance_respects (writing : Writing hashtext t decided ctx body bound writes db)
    (advanced : EventBody) :
    Respects hashtext sound t policy.Result (writeAdvance ctx advanced)
      (fun _ => Writing hashtext t decided ctx body bound (writes ++ advanceWrites ctx advanced))
      db := by
  cases advanced with
  | authorized | denied => exact .pure (by simpa [advanceWrites] using writing)
  | paid | settled | settlementFailed | compensated | delivered | expired => exact writing.write _

theorem writeEffects_respects {event : Event} {effects : Effects} {claims : List Write}
    (writing : Writing hashtext t decided event.ctx event.body (event.seq + 1) claims db)
    (allowed : policy.Body event.body) (invariant : policy.Inv decided)
    (decides : Decides externals.decimals policy.Recent decided event.ctx event.recordedAt
      event.body claims effects)
    (built : Event.new externals ((decided.lastHash event.ctx).getD .zero) event.seq event.ctx
      event.recordedAt event.body = .ok event)
    (last : ∀ other ∈ decided.events, other.seq < event.seq) :
    Respects hashtext sound t policy.Result
      (writeEffects externals.decimals event.ctx event.recordedAt effects event)
      (fun outcome after => after.pending t = [] ∧ policy.Result (.ok outcome)) db := by
  refine .bind (Respects.mono (writeReserve_respects writing effects.reserve) ?_)
  intro _ first reserved
  refine .bind (Respects.mono (writeRelease_respects reserved effects.release ?_ ?_) ?_)
  · intro entry gives
    exact (decides.gives gives).1
  · intro mandate amount error gives failed
    obtain ⟨-, target, record, moves, giving, rfl, rfl⟩ := decides.gives gives
    exact sound.released invariant moves giving failed
  intro _ second given
  obtain ⟨released, releases, given⟩ := given
  refine .bind (Respects.mono (writeCreate_respects given effects.create) ?_)
  intro _ third created
  refine .bind (Respects.mono (writeAdvance_respects created event.body) ?_)
  intro _ fourth advanced
  refine .bind (Respects.mono (advanced.write (.log event)) ?_)
  intro _ fifth logged
  refine .bind (.commit sound.backend ?_ ?_)
  · intro before related consistent permitted
    have standing := logged.stable related
    have same := standing.frozen.same
    have releases : Releases externals.decimals before.tables effects.release released := by
      rw [same]
      exact releases
    refine permits_append consistent permitted allowed standing.view ?_ standing.context
      standing.mandate standing.log standing.bounded
    refine ⟨?_, ?_, (decides.frozen standing.frozen).commits releases⟩
    · rw [same]
      exact built
    · rw [same]
      exact last
  · intro before
    exact .pure ⟨Function.update_self .., sound.outcome _⟩

end PhaseTwo

section Store

variable {Tid : Type} [DecidableEq Tid] {externals : Externals} {hashtext : String → Int}
  {policy : Policy Tid} {t : Tid} {db : Db Tid} {ctx : ContextId} {now : Timestamp}
  {body : EventBody}

section Transactions

variable {sound : policy.Sound externals}

theorem lockMandate_respects (idle : db.pending t = [])
    (context : db.locks (contextKey hashtext ctx) = some t) :
    Respects hashtext sound t policy.Result (lockMandate hashtext body)
      (fun _ after => Locked hashtext t ctx body after ∧ after.pending t = []) db := by
  cases body with
  | authorized mandate cart requestKey =>
      refine .query rfl sound.backend ?_
      intro before related _ _
      refine ⟨⟨Db.acquire_held _ (related.locks _ context), ?_⟩, related.pending.trans idle⟩
      intro signed same
      cases same
      exact Db.acquire_self _ _ _
  | denied | paid | settled | settlementFailed | compensated | delivered | expired =>
      exact .pure ⟨⟨context, by simp [EventBody.mandate?]⟩, idle⟩

/-- An append keeps the discipline. -/
theorem appendTx_respects (allowed : policy.Body body) (idle : db.pending t = []) :
    Respects hashtext sound t policy.Result (appendTx hashtext externals ctx now body)
      (fun outcome after => after.pending t = [] ∧ policy.Result (.ok outcome)) db := by
  refine .bind (.query rfl sound.backend ?_)
  intro first related _ _
  refine .bind (Respects.mono (lockMandate_respects (related.pending.trans idle)
    (Db.acquire_self _ _ _)) ?_)
  intro _ second given
  obtain ⟨locked, idle⟩ := given
  refine .bind (.query rfl sound.backend ?_)
  intro third related _ _
  have idle := related.pending.trans idle
  have found : third.result t (.selectContext ctx) = third.tables.contexts.lookup ctx := by
    rw [Db.result, Db.view_of_nil idle]
  refine .bind (Respects.mono (decideEffects_respects (locked.stable related) idle found) ?_)
  intro effects fourth given
  obtain ⟨claims, decided⟩ := given
  refine .bind (.query rfl sound.backend ?_)
  intro fifth related consistent _
  have standing := decided.stable sound.recent_trans related
  have invariant := consistent.tables
  have writing : Writing hashtext t fifth.tables ctx body 0 claims (fifth.acquire t logKey) :=
    { standing.toLocked.acquire logKey with
      log := Db.acquire_self _ _ logKey
      pending := standing.pending
      frozen := ⟨rfl, fun _ _ => Iff.rfl⟩
      bounded := Nat.zero_le _ }
  refine .bind (.query rfl sound.backend ?_)
  intro sixth related consistent _
  have numbering := writing.stable related
  have last : ∀ other ∈ fifth.tables.events, other.seq < sixth.nextSeq := by
    have sequence := consistent.sequence
    rw [numbering.frozen.same] at sequence
    exact sequence
  have numbered : Writing hashtext t fifth.tables ctx body (sixth.nextSeq + 1) claims
      (sixth.after t .nextval) := { numbering with bounded := le_rfl }
  refine .bind (.query rfl sound.backend ?_)
  intro seventh related _ _
  have numbered := numbered.stable related
  have previous : seventh.result t (.selectLastHash ctx) = fifth.tables.lastHash ctx := by
    rw [Db.result, numbered.view, (standing.decides.frozen numbered.frozen).lastHash,
      numbered.frozen.same]
    rfl
  rw [previous]
  refine .bind (.require ?_ ?_)
  · intro event built
    rw [mapError_eq_ok] at built
    obtain ⟨seq, rfl, rfl, -, rfl, -⟩ := Event.new_eq_ok built
    have seq : sixth.result t .nextval = event.seq := seq.symm
    rw [seq] at built
    change sixth.nextSeq = event.seq at seq
    rw [seq] at numbered last
    exact writeEffects_respects numbered allowed invariant standing.decides built last
  · intro error failed
    obtain ⟨cause, -, rfl⟩ := mapError_eq_error.mp failed
    exact sound.result (by simp)

theorem revokeTx_respects {mandate : MandateId} (idle : db.pending t = []) :
    Respects hashtext sound t (fun _ => True) (revokeTx hashtext mandate)
      (fun _ after => after.pending t = [] ∧ True) db := by
  refine .bind (.query rfl (fun _ => trivial) ?_)
  intro first related _ _
  have idle := related.pending.trans idle
  refine .bind (.query rfl (fun _ => trivial) ?_)
  intro second later _ _
  have held := later.locks _ (Db.acquire_self _ _ (mandateKey hashtext mandate))
  refine .commit (fun _ => trivial) ?_ fun _ => ⟨Function.update_self .., trivial⟩
  intro third last consistent _
  refine permits_revoke consistent ?_ (last.locks _ held)
  have pending : third.pending t = [.revoke mandate] := by
    rw [last.pending]
    simp [Db.after, Db.push, later.pending, Db.acquire, idle]
  rw [Db.view, pending]
  rfl

end Transactions

def Policy.Replies (policy : Policy Tid) : Reply → Prop
  | .append result => policy.Result result
  | .revoke _ => True

/-- In every interleaving of the store's transactions the committed tables
satisfy the invariant, and a transaction that has ended left nothing open. -/
theorem Reachable.sound {config : Config Tid (Db Tid) Statement Statement.Answer Reply}
    (sound : policy.Sound externals)
    (reached : Reachable (semantics Tid policy.Allowed)
      (Requests hashtext externals policy.Body) .initial config) :
    policy.Inv config.shared.tables ∧
      (∀ t, config.threads t = none → config.shared.pending t = []) ∧
      ∀ t reply, config.finished t = some reply →
        config.shared.pending t = [] ∧ policy.Replies reply := by
  have kept : config.Kept (semantics Tid policy.Allowed) (discipline hashtext policy sound)
      (fun t reply db => db.pending t = [] ∧ policy.Replies reply) := by
    refine Reachable.keeps ⟨?_, ?_⟩ ?_ ?_ ?_ ?_ reached
    · intro before after moved
      cases moved
    · rintro t before after rfl consistent
      exact ⟨permits_abort consistent, Function.update_self ..⟩
    · rintro t reply before after related - ⟨idle, replies⟩
      exact ⟨related.pending.trans idle, replies⟩
    · intro program started t db consistent idle
      cases started with
      | append ctx now body allowed =>
          exact (Program.keeps_bind _ _).mpr
            (Respects.transaction (appendTx_respects allowed idle))
      | revoke mandate =>
          refine (Program.keeps_bind _ _).mpr ?_
          exact (Respects.transaction (revokeTx_respects idle)).mono fun _ _ ended => ended
    · exact ⟨sound.empty, by simp [Db.initial, Tables.empty], by simp [Db.initial]⟩
    · intro t
      rfl
  refine ⟨kept.inv.tables, kept.idle, ?_⟩
  intro t reply returned
  unfold Config.finished at returned
  split at returned
  · next value running =>
      cases returned
      exact kept.running t _ running
  · cases returned

end Store

end MandateLedger.Postgres
