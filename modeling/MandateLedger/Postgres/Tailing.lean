import MandateLedger.Data.Cursor
import MandateLedger.Data.Linked
import MandateLedger.Postgres.Locks
import MandateLedger.Postgres.Queries
import MandateLedger.Postgres.Transactions

namespace MandateLedger.Postgres

open MandateLedger.Core MandateLedger.Data MandateLedger.Process

/-- The log is in order, and each context's part of it is a chain. -/
structure InOrder (tables : Tables) : Prop where
  ascending : Ascending tables.events
  linked : ∀ ctx, Linked Event.prevHash Event.hash .zero (tables.chain ctx)

theorem InOrder.chain {tables : Tables} (ordered : InOrder tables) (ctx : ContextId) :
    Ascending (tables.chain ctx) := ordered.ascending.filter _

theorem InOrder.lastHash {tables : Tables} (ordered : InOrder tables) (ctx : ContextId) :
    (tables.lastHash ctx).getD .zero = tip Event.hash .zero (tables.chain ctx) := by
  rw [Tables.lastHash, (ordered.chain ctx).latest_eq]
  rfl

theorem InOrder.append {externals : Externals} {Recent : Option Money → Option Money → Prop}
    {tables after : Tables} {event : Event} (ordered : InOrder tables)
    (appends : Appends externals Recent tables event after) : InOrder after := by
  have logged := appends.commits.logged
  constructor
  · rw [logged]
    exact ordered.ascending.append appends.last
  · intro ctx
    by_cases own : event.ctx = ctx
    · subst own
      have grown : after.chain event.ctx = tables.chain event.ctx ++ [event] := by
        simp [Tables.chain, logged]
      obtain ⟨-, -, -, prevHash, -⟩ := Event.new_eq_ok appends.built
      rw [grown, linked_append]
      exact ⟨ordered.linked event.ctx, prevHash.trans (ordered.lastHash event.ctx)⟩
    · have same : after.chain ctx = tables.chain ctx := by
        simp [Tables.chain, logged, own]
      rw [same]
      exact ordered.linked ctx

section Log

variable {Tid : Type}

/-- `seq` is a `BIGINT`, and `ml_event_seq` ends with the largest one. -/
def Storable (db : Db Tid) (t : Tid) : Prop :=
  ∀ write ∈ db.pending t, ∀ event ∈ write.event?, event.seq ≤ maxBigint

def orderedLog (Tid : Type) : Policy Tid where
  Body _ := True
  Inv := InOrder
  Recent _ _ := True
  Allowed := Storable
  Result _ := True

theorem orderedLog_sound (Tid : Type) (externals : Externals) :
    (orderedLog Tid).Sound externals where
  recent_refl _ := trivial
  recent_trans _ _ _ _ _ := trivial
  empty := ⟨List.Pairwise.nil, fun _ => trivial⟩
  append ordered _ _ appends := ordered.append appends
  revoke _ ordered := ⟨ordered.ascending, ordered.linked⟩
  release _ _ _ _ _ _ _ := trivial
  result _ := trivial
  released _ _ _ _ := trivial

variable [DecidableEq Tid] {hashtext : String → Int} {externals : Externals}
  {config before after : Config Tid (Db Tid) Statement Statement.Answer Reply}

theorem reachable_inOrder (reached : Reachable (semantics Tid Storable)
      (Requests hashtext externals fun _ => True) .initial config) :
    InOrder config.shared.tables :=
  (Reachable.sound (orderedLog_sound Tid externals) reached).1

theorem step_events (reached : Reachable (semantics Tid Storable)
      (Requests hashtext externals fun _ => True) .initial before)
    (stepped : Step (semantics Tid Storable) (Requests hashtext externals fun _ => True)
      before after) :
    ∃ more, after.shared.tables.events = before.shared.tables.events ++ more ∧
      ∀ event ∈ more, 1 ≤ event.seq ∧ event.seq ≤ maxBigint := by
  rcases Step.tables_eq stepped with same | ⟨t, storable, same⟩
  · exact ⟨[], by simp [same], by simp⟩
  · refine ⟨_, by rw [same, Db.view, Tables.foldl_apply_events], ?_⟩
    intro event listed
    obtain ⟨write, pending, logs⟩ := List.mem_filterMap.mp listed
    obtain ⟨own, owns, -⟩ := Reachable.owned reached t
    refine ⟨?_, storable write pending event logs⟩
    have written : write = .log event := by
      cases write <;> simp_all [Write.event?]
    rw [written, owns.writes] at pending
    exact own.property.numbered event pending

theorem reachable_numbered (reached : Reachable (semantics Tid Storable)
      (Requests hashtext externals fun _ => True) .initial config) :
    ∀ event ∈ config.shared.tables.events, 1 ≤ event.seq ∧ event.seq ≤ maxBigint := by
  induction reached with
  | initial => simp [Config.initial, Db.initial, Tables.empty]
  | step reached stepped ih =>
      obtain ⟨more, grown, numbered⟩ := step_events reached stepped
      intro event listed
      rw [grown] at listed
      rcases List.mem_append.mp listed with old | new
      · exact ih event old
      · exact numbered event new

end Log

/-- A client that reads the log page by page. -/
structure Reader where
  cursor : Nat
  seen : List Event

/-- `events_after(cursor, limit)`, and the last number it returned is the next cursor. -/
def Reader.read (reader : Reader) (tables : Tables) (limit : Nat) : Reader :=
  let rows := tables.eventsAfter reader.cursor limit
  ⟨nextCursor Event.seq reader.cursor rows, reader.seen ++ rows⟩

theorem Tables.eventsAfter_eq {tables : Tables} {cursor : Nat}
    (ascending : Ascending tables.events) (small : cursor ≤ maxBigint) (limit : Nat) :
    tables.eventsAfter cursor limit = page Event.seq tables.events cursor (bigint limit) := by
  rw [Tables.eventsAfter, bigint_of_le small, (ascending.filter _).bySeq_eq]
  rfl

/-- Transactions and a reader beside them. -/
structure Tailing (Tid : Type) where
  config : Config Tid (Db Tid) Statement Statement.Answer Reply
  reader : Reader

namespace Tailing

variable {Tid : Type}

def initial : Tailing Tid := ⟨.initial .initial, 0, []⟩

def events (state : Tailing Tid) : List Event := state.config.shared.tables.events

variable {state : Tailing Tid}

/-- What the reader knows: its cursor is a number it has seen, and it has seen everything
up to it. -/
structure Caught (state : Tailing Tid) : Prop where
  cursor : state.reader.cursor = 0 ∨ ∃ event ∈ state.events, event.seq = state.reader.cursor
  seen : state.reader.seen = upTo Event.seq state.events state.reader.cursor

theorem Caught.grow {reader : Reader}
    {before after : Config Tid (Db Tid) Statement Statement.Answer Reply}
    (caught : Caught ⟨before, reader⟩) {more : List Event}
    (grown : after.shared.tables.events = before.shared.tables.events ++ more)
    (ascending : Ascending after.shared.tables.events)
    (positive : ∀ event ∈ more, 1 ≤ event.seq) : Caught ⟨after, reader⟩ := by
  have events : (⟨after, reader⟩ : Tailing Tid).events =
      (⟨before, reader⟩ : Tailing Tid).events ++ more := grown
  constructor
  · rcases caught.cursor with start | ⟨event, listed, same⟩
    · exact .inl start
    · rw [events]
      exact .inr ⟨event, List.mem_append_left _ listed, same⟩
  · -- new events come after the cursor
    have above : ∀ event ∈ more, reader.cursor < event.seq := by
      intro event new
      rcases caught.cursor with start | ⟨last, listed, same⟩
      · exact start ▸ positive event new
      · rw [grown] at ascending
        exact same ▸ (List.pairwise_append.mp ascending).2.2 last listed event new
    rw [events, upTo_append, upTo_of_above above, List.append_nil]
    exact caught.seen

theorem Caught.read (caught : Caught state) (ascending : Ascending state.events)
    (small : ∀ event ∈ state.events, event.seq ≤ maxBigint) (limit : Nat) :
    Caught { state with reader := state.reader.read state.config.shared.tables limit } := by
  have bounded : state.reader.cursor ≤ maxBigint := by
    rcases caught.cursor with start | ⟨event, listed, same⟩
    · rw [start]
      exact Nat.zero_le _
    · rw [← same]
      exact small event listed
  have rows := Tables.eventsAfter_eq ascending bounded limit
  constructor
  · simp only [Reader.read, rows]
    rcases nextCursor_mem (page Event.seq state.config.shared.tables.events state.reader.cursor
      (bigint limit)) with ⟨-, same⟩ | ⟨event, listed, same⟩
    · rw [same]
      exact caught.cursor
    · exact .inr ⟨event, (mem_page listed).1, same⟩
  · simp only [Reader.read, rows, caught.seen]
    exact (upTo_nextCursor ascending).symm

variable [DecidableEq Tid] {hashtext : String → Int} {externals : Externals}
  {later : Tailing Tid}

inductive Step (hashtext : String → Int) (externals : Externals) :
    Tailing Tid → Tailing Tid → Prop where
  | transaction {before after : Config Tid (Db Tid) Statement Statement.Answer Reply}
      (reader : Reader)
      (stepped : Process.Step (semantics Tid Storable) (Requests hashtext externals fun _ => True)
        before after) : Step hashtext externals ⟨before, reader⟩ ⟨after, reader⟩
  | read (state : Tailing Tid) (limit : Nat) (positive : 1 ≤ limit) :
      Step hashtext externals state
        { state with reader := state.reader.read state.config.shared.tables limit }

/-- The transactions of a run are a run of their own, and the reader keeps up with it. -/
theorem reachable_caught
    (reached : Relation.ReflTransGen (Step hashtext externals) .initial state) :
    Reachable (semantics Tid Storable) (Requests hashtext externals fun _ => True) .initial
      state.config ∧ Caught state := by
  induction reached with
  | refl => exact ⟨.initial, .inl rfl, rfl⟩
  | tail _ last ih =>
      obtain ⟨running, caught⟩ := ih
      cases last with
      | transaction reader stepped =>
          have reached := running.step stepped
          obtain ⟨more, grown, numbered⟩ := step_events running stepped
          exact ⟨reached, caught.grow grown (reachable_inOrder reached).ascending
            fun event listed => (numbered event listed).1⟩
      | read _ limit positive =>
          exact ⟨running, caught.read (reachable_inOrder running).ascending
            (fun event listed => (reachable_numbered running event listed).2) limit⟩

theorem events_grow (reached : Relation.ReflTransGen (Step hashtext externals) .initial state)
    (steps : Relation.ReflTransGen (Step hashtext externals) state later) :
    ∃ more, later.events = state.events ++ more := by
  induction steps with
  | refl => exact ⟨[], (List.append_nil _).symm⟩
  | tail before last ih =>
      obtain ⟨some, grown⟩ := ih
      obtain ⟨running, -⟩ := reachable_caught (reached.trans before)
      cases last with
      | transaction reader stepped =>
          obtain ⟨more, added, -⟩ := step_events running stepped
          refine ⟨some ++ more, ?_⟩
          rw [← List.append_assoc, ← grown]
          exact added
      | read => exact ⟨some, grown⟩

/-- What a reader of the log can rely on. -/
structure Exact (hashtext : String → Int) (externals : Externals) (state : Tailing Tid) : Prop where
  seen : state.reader.seen = state.events.filter fun event => event.seq ≤ state.reader.cursor
  increasing : state.reader.seen.Pairwise fun first second => first.seq < second.seq
  commits : ∀ later, Relation.ReflTransGen (Step hashtext externals) state later →
    ∃ more, later.events = state.events ++ more
  visible : ∀ later, Relation.ReflTransGen (Step hashtext externals) state later →
    ∀ event ∈ state.events, ∀ other ∈ later.events, other.seq ≤ event.seq → other ∈ state.events
  chains : ∀ ctx, Ascending (state.config.shared.tables.chain ctx) ∧
    Linked Event.prevHash Event.hash .zero (state.config.shared.tables.chain ctx)

/-- In every interleaving of transactions and reads, the reader has seen exactly the
committed events up to its cursor, in order. -/
theorem reachable_exact
    (reached : Relation.ReflTransGen (Step hashtext externals) .initial state) :
    Exact hashtext externals state := by
  obtain ⟨running, caught⟩ := reachable_caught reached
  have ordered := reachable_inOrder running
  refine
    { seen := caught.seen
      increasing := ?_
      commits := fun later steps => events_grow reached steps
      visible := ?_
      chains := fun ctx => ⟨ordered.chain ctx, ordered.linked ctx⟩ }
  · rw [caught.seen]
    exact ordered.ascending.filter _
  · intro later steps event listed other found below
    obtain ⟨more, grown⟩ := events_grow reached steps
    rw [grown] at found
    rcases List.mem_append.mp found with old | new
    · exact old
    · have sorted := (reachable_inOrder (reachable_caught (reached.trans steps)).1).ascending
      have split : Ascending (state.events ++ more) := grown ▸ sorted
      have above := (List.pairwise_append.mp split).2.2 event listed other new
      exact absurd below (Nat.not_le.mpr above)

theorem transactions {before after : Config Tid (Db Tid) Statement Statement.Answer Reply}
    (reader : Reader)
    (steps : Relation.ReflTransGen (Process.Step (semantics Tid Storable)
      (Requests hashtext externals fun _ => True)) before after) :
    Relation.ReflTransGen (Step hashtext externals) ⟨before, reader⟩ ⟨after, reader⟩ := by
  induction steps with
  | refl => exact .refl
  | tail _ last ih => exact ih.tail (.transaction reader last)

end Tailing

namespace Sample

open Core.Sample

instance (db : Db (Fin 4)) (t : Fin 4) : Decidable (Storable db t) :=
  inferInstanceAs (Decidable
    (∀ write ∈ db.pending t, ∀ event ∈ write.event?, event.seq ≤ maxBigint))

/-- Client 0 has drawn its number. -/
def drawn : Config (Fin 4) (Db (Fin 4)) Statement Statement.Answer Reply :=
  run externals Storable
    [ (0, firstCtx, .authorized (mandate alice) (cart.snapshot Core.Sample.sha256) "k1"),
      (1, secondCtx, .authorized (mandate alice) smallCart "k2") ]
    (List.replicate 7 0)

/-- Client 0 disappears, and client 1 appends. -/
def gapped : Config (Fin 4) (Db (Fin 4)) Statement Statement.Answer Reply :=
  Config.schedule (Db.perform Storable)
    { shared := drawn.shared.abort 0, threads := Function.update drawn.threads 0 none }
    (List.replicate 13 1)

/-- The reader has asked in between. -/
def tailed : Tailing (Fin 4) :=
  ⟨gapped, ((⟨0, []⟩ : Reader).read drawn.shared.tables 1).read gapped.shared.tables 5⟩

theorem tailed_reachable :
    Relation.ReflTransGen (Tailing.Step hashtext externals) .initial tailed := by
  have start : Relation.ReflTransGen (Process.Step (semantics (Fin 4) Storable)
      (Requests hashtext externals fun _ => True)) (.initial .initial) drawn :=
    Reachable.run_steps (run_reachable externals Storable (by decide) (fun _ _ => trivial) _)
  have more : Relation.ReflTransGen (Process.Step (semantics (Fin 4) Storable)
      (Requests hashtext externals fun _ => True)) drawn gapped :=
    .head (.halt 0 _ rfl) (Config.schedule_steps (Db.perform_exec Storable) _ _)
  refine Relation.ReflTransGen.tail (b := ⟨gapped, (⟨0, []⟩ : Reader).read drawn.shared.tables 1⟩)
    ?_ (.read _ 5 (by decide))
  refine Relation.ReflTransGen.trans ?_ (Tailing.transactions _ more)
  exact (Tailing.transactions _ start).tail (.read _ 1 (by decide))

end Sample

/-- The number client 0 drew is never used, and the reader has not waited for it. -/
theorem tailed_exact :
    Sample.drawn.shared.nextSeq = 2 ∧
      Sample.tailed.reader.seen.map Event.seq = [2] ∧ Sample.tailed.reader.cursor = 2 ∧
      Sample.tailed.Exact Sample.hashtext Sample.externals :=
  ⟨by decide +kernel, by decide +kernel, by decide +kernel,
    Tailing.reachable_exact Sample.tailed_reachable⟩

end MandateLedger.Postgres
