import MandateLedger.Data.History
import MandateLedger.Memory.Provenance
import MandateLedger.Process.Concurrent

namespace MandateLedger.Engine

open MandateLedger.Core MandateLedger.Data MandateLedger.Memory MandateLedger.Process

/-! # Ledgers over one store

Any number of ledgers, each with a rail and a signer policy of its own, share a
`MemoryStore`.  Their calls run concurrently: an operation is atomic, and
everything else interleaves.  A rail may answer anything and a clock may show
anything; `prune` may run at any time.

The world records what happened in order: the events the store appended and the
answers the rails gave.
-/

variable {Proof Evidence : Type}

inductive Act (Proof Evidence : Type) where
  | appended (event : Event)
  | verified (rail : String) (proof : Proof) (expected : PaymentExpectation)
      (answer : Except RailError VerifiedProof)
  | judged (rail : String) (evidence : Evidence) (expected : SettlementExpectation)
      (answer : Except RailError FinalityStatus)

def Act.event? : Act Proof Evidence → Option Event
  | .appended event => some event
  | _ => none

/-- The store and everything that happened. -/
structure World (Proof Evidence : Type) where
  inner : Inner
  acts : List (Act Proof Evidence)

namespace World

def empty : World Proof Evidence := ⟨.empty, []⟩

def history (world : World Proof Evidence) : List Event := world.acts.filterMap Act.event?

/-- The world as a run of the store alone sees it. -/
def traced (world : World Proof Evidence) : Traced := ⟨world.inner, world.history⟩

def saw (world : World Proof Evidence) (act : Act Proof Evidence) : World Proof Evidence :=
  { world with acts := world.acts ++ [act] }

def append (externals : Externals) (world : World Proof Evidence) (ctx : ContextId)
    (now : Timestamp) (body : EventBody) :
    Except StoreError AppendOutcome × World Proof Evidence :=
  let (result, inner) := world.inner.append externals ctx now body
  (result, ⟨inner, world.acts ++ ((appendedEvent result).map Act.appended).toList⟩)

def revoke (world : World Proof Evidence) (mandate : MandateId) : World Proof Evidence :=
  { world with inner := world.inner.revoke mandate }

def prune (world : World Proof Evidence) (before : Timestamp) : World Proof Evidence :=
  { world with inner := world.inner.prune before }

def Exec (externals : Externals) (world : World Proof Evidence) :
    (op : Op Proof Evidence) → op.Answer → World Proof Evidence → Prop
  | .now, _, after => after = world
  | .record ctx, answer, after => answer = .ok (world.inner.records.lookup ctx) ∧ after = world
  | .events ctx, answer, after => answer = .ok (world.inner.chain ctx) ∧ after = world
  | .authorizedMandate ctx, answer, after =>
      answer = .ok (world.inner.authorizedMandate ctx) ∧ after = world
  | .isRevoked mandate, answer, after =>
      answer = .ok (decide (mandate ∈ world.inner.revoked)) ∧ after = world
  | .revoke mandate, answer, after => answer = .ok () ∧ after = world.revoke mandate
  | .append ctx now body, answer, after => (answer, after) = world.append externals ctx now body
  | .verifyProof rail proof expected, answer, after =>
      after = world.saw (.verified rail proof expected answer)
  | .checkFinality rail evidence expected, answer, after =>
      after = world.saw (.judged rail evidence expected answer)

end World

/-- Ledger calls over a shared store. -/
def semantics (Tid : Type) (externals : Externals) :
    Semantics Tid (World Proof Evidence) (Op Proof Evidence) Op.Answer where
  exec _ before op answer after := before.Exec externals op answer after
  env before after := ∃ instant, after = before.prune instant
  halt _ before after := after = before

/-- The calls of a set of ledgers. -/
def Calls (externals : Externals) (ledgers : Set Ledger)
    (program : Program (Op Proof Evidence) Op.Answer Response) : Prop :=
  ∃ request : Request Proof Evidence, (∀ ledger ∈ request.ledger?, ledger ∈ ledgers) ∧
    program = request.program externals

/-- The configurations of every run of such calls from an empty store. -/
def Reachable {Tid : Type} [DecidableEq Tid] (externals : Externals) (ledgers : Set Ledger)
    (config : Config Tid (World Proof Evidence) (Op Proof Evidence) Op.Answer Response) : Prop :=
  Process.Reachable (semantics Tid externals) (Calls externals ledgers) World.empty config

/-- What a call meets while it runs alone: a clock and a rail. -/
structure Surroundings (Proof Evidence : Type) where
  now : Timestamp
  verify : String → Proof → PaymentExpectation → Except RailError VerifiedProof
  judge : String → Evidence → SettlementExpectation → Except RailError FinalityStatus

namespace World

variable (externals : Externals) (world : World Proof Evidence)
  (around : Surroundings Proof Evidence)

def perform : (op : Op Proof Evidence) → op.Answer × World Proof Evidence
  | .now => (around.now, world)
  | .record ctx => (.ok (world.inner.records.lookup ctx), world)
  | .events ctx => (.ok (world.inner.chain ctx), world)
  | .authorizedMandate ctx => (.ok (world.inner.authorizedMandate ctx), world)
  | .isRevoked mandate => (.ok (decide (mandate ∈ world.inner.revoked)), world)
  | .revoke mandate => (.ok (), world.revoke mandate)
  | .append ctx now body => world.append externals ctx now body
  | .verifyProof rail proof expected =>
      let answer := around.verify rail proof expected
      (answer, world.saw (.verified rail proof expected answer))
  | .checkFinality rail evidence expected =>
      let answer := around.judge rail evidence expected
      (answer, world.saw (.judged rail evidence expected answer))

theorem perform_exec (op : Op Proof Evidence) :
    world.Exec externals op (world.perform externals around op).1
      (world.perform externals around op).2 := by
  cases op with
  | now => rfl
  | record ctx => exact ⟨rfl, rfl⟩
  | events ctx => exact ⟨rfl, rfl⟩
  | authorizedMandate ctx => exact ⟨rfl, rfl⟩
  | isRevoked mandate => exact ⟨rfl, rfl⟩
  | revoke mandate => exact ⟨rfl, rfl⟩
  | append ctx now body => rfl
  | verifyProof rail proof expected => rfl
  | checkFinality rail evidence expected => rfl

def complete {α : Type} (call : Program (Op Proof Evidence) Op.Answer α) :
    α × World Proof Evidence :=
  call.run (fun world op => world.perform externals around op) world

@[simp] theorem complete_bind {α β : Type} (first : Call Proof Evidence α)
    (rest : α → Call Proof Evidence β) :
    world.complete externals around (first >>= rest).run =
      match world.complete externals around first.run with
      | (.ok value, after) => after.complete externals around (rest value).run
      | (.error error, after) => (.error error, after) := by
  unfold complete
  rw [Fallible.run_bind, Program.run_bind]
  cases (first.run.run (fun world op => world.perform externals around op) world) with
  | mk result after => cases result <;> rfl

@[simp] theorem complete_pure {α : Type} (value : α) :
    world.complete externals around (pure value : Call Proof Evidence α).run =
      (.ok value, world) := rfl

@[simp] theorem complete_throw {α : Type} (error : LedgerError) :
    world.complete externals around (throw error : Call Proof Evidence α).run =
      (.error error, world) := rfl

@[simp] theorem complete_now :
    world.complete externals around (Ledger.now).run = (.ok around.now, world) := rfl

@[simp] theorem complete_record (ctx : ContextId) :
    world.complete externals around (Ledger.record ctx).run =
      (.ok (world.inner.records.lookup ctx), world) := rfl

@[simp] theorem complete_verifyProof (ledger : Ledger) (proof : Proof)
    (expected : PaymentExpectation) :
    world.complete externals around (ledger.verifyProof proof expected).run =
      (.ok (around.verify ledger.railId proof expected),
        world.saw (.verified ledger.railId proof expected
          (around.verify ledger.railId proof expected))) := rfl

variable {externals world around} in
theorem complete_deny {α : Type} {ctx : ContextId} {now : Timestamp} {stage : Stage}
    {reason : DenyReason} {detail : String} {value : α}
    (returned : (world.complete externals around
      (Ledger.deny ctx now stage reason detail : Call Proof Evidence α).run).1 = .ok value) :
    False := by
  unfold Ledger.deny at returned
  rw [complete_bind] at returned
  split at returned
  · next outcome after _ => cases outcome <;> cases returned
  · cases returned

def serve (calls : List (Surroundings Proof Evidence × Request Proof Evidence)) :
    World Proof Evidence :=
  calls.foldl
    (fun world call => (world.complete externals call.1 (call.2.program externals)).2) world

end World

section Serial

variable {Tid : Type} [DecidableEq Tid] {externals : Externals} {ledgers : Set Ledger}
  {config : Config Tid (World Proof Evidence) (Op Proof Evidence) Op.Answer Response}

theorem Reachable.serve (reached : Reachable externals ledgers config) (t : Tid)
    (idle : config.threads t = none)
    (calls : List (Surroundings Proof Evidence × Request Proof Evidence))
    (listed : ∀ call ∈ calls, ∀ ledger ∈ call.2.ledger?, ledger ∈ ledgers) :
    Reachable externals ledgers
      { config with shared := config.shared.serve externals calls } := by
  induction calls generalizing config with
  | nil => exact reached
  | cons call rest ih =>
      have served := Process.Reachable.serve _
        (fun world op => World.perform_exec externals world call.1 op) reached idle
        ⟨call.2, listed call (by simp), rfl⟩ (fun _ => rfl)
      exact ih served idle fun later member => listed later (by simp [member])

end Serial

section Traces

variable {externals : Externals} {world : World Proof Evidence}

theorem World.history_saw (act : Act Proof Evidence) :
    (world.saw act).history = world.history ++ act.event?.toList := by
  cases act <;> simp [saw, history, Act.event?]

theorem World.traced_saw {act : Act Proof Evidence} (silent : act.event? = none) :
    (world.saw act).traced = world.traced := by
  rw [traced, history_saw, silent, Option.toList_none, List.append_nil]
  rfl

/-- An append of a ledger is an append of the store's own runs. -/
theorem World.append_traced (externals : Externals) (world : World Proof Evidence)
    (ctx : ContextId) (now : Timestamp) (body : EventBody) :
    (world.append externals ctx now body).2.traced =
      (world.traced.append externals ctx now body).2 := by
  simp only [World.append, Traced.append, traced, history, List.filterMap_append]
  cases appendedEvent (world.inner.append externals ctx now body).1 <;> rfl

/-- What an append adds to the acts: nothing, or the event it built. -/
theorem World.append_acts (externals : Externals) (world : World Proof Evidence)
    (ctx : ContextId) (now : Timestamp) (body : EventBody) :
    ((world.append externals ctx now body).2 = world ∧
      ∀ outcome, (world.append externals ctx now body).1 = .ok outcome →
        outcome.refuses body = true) ∨
    ∃ event, event.ctx = ctx ∧ event.recordedAt = now ∧ event.body = body ∧
      (world.append externals ctx now body).1 = .ok (.appended event) ∧
      (world.append externals ctx now body).2.acts = world.acts ++ [.appended event] := by
  obtain ⟨result, appended, refusal⟩ | ⟨event, tables, writes, built, appended⟩ :=
    world.inner.append_cases externals ctx now body
  · left
    simpa [World.append, appended, appendedEvent_of_refusal refusal] using refusal
  · right
    obtain ⟨-, own, time, -, same, -⟩ := Event.new_eq_ok built
    refine ⟨event, own, time, same, ?_⟩
    simp [World.append, appended, appendedEvent]

/-- What an operation leaves of the world: all of it, a revocation, an append or a
word of the rail. -/
inductive World.Leaves (externals : Externals) (world : World Proof Evidence) :
    (op : Op Proof Evidence) → op.Answer → World Proof Evidence → Prop
  | reads (op : Op Proof Evidence) (answer : op.Answer) : Leaves externals world op answer world
  | revokes (mandate : MandateId) (answer : Except StoreError Unit) :
      Leaves externals world (.revoke mandate) answer (world.revoke mandate)
  | appends (ctx : ContextId) (now : Timestamp) (body : EventBody) :
      Leaves externals world (.append ctx now body) (world.append externals ctx now body).1
        (world.append externals ctx now body).2
  | verifies (rail : String) (proof : Proof) (expected : PaymentExpectation)
      (answer : Except RailError VerifiedProof) :
      Leaves externals world (.verifyProof rail proof expected) answer
        (world.saw (.verified rail proof expected answer))
  | judges (rail : String) (evidence : Evidence) (expected : SettlementExpectation)
      (answer : Except RailError FinalityStatus) :
      Leaves externals world (.checkFinality rail evidence expected) answer
        (world.saw (.judged rail evidence expected answer))

theorem World.Exec.leaves {after : World Proof Evidence} {op : Op Proof Evidence}
    {answer : op.Answer} (executed : world.Exec externals op answer after) :
    world.Leaves externals op answer after := by
  cases op with
  | now =>
      cases executed
      exact .reads _ _
  | record | events | authorizedMandate | isRevoked =>
      cases executed.2
      exact .reads _ _
  | revoke mandate =>
      cases executed.2
      exact .revokes mandate answer
  | append ctx now body =>
      obtain ⟨rfl, rfl⟩ := Prod.mk.inj executed
      exact .appends ctx now body
  | verifyProof rail proof expected =>
      cases executed
      exact .verifies rail proof expected answer
  | checkFinality rail evidence expected =>
      cases executed
      exact .judges rail evidence expected answer

/-- What an operation adds to the history: nothing, or the event it appended. -/
theorem World.Exec.history_cases {after : World Proof Evidence} {op : Op Proof Evidence}
    {answer : op.Answer} (executed : world.Exec externals op answer after) :
    after.history = world.history ∨
      ∃ event now, op = .append event.ctx now event.body ∧
        after.history = world.history ++ [event] := by
  cases executed.leaves with
  | reads | revokes => exact .inl rfl
  | appends ctx now body =>
      obtain ⟨same, -⟩ | ⟨event, rfl, -, rfl, -, logged⟩ := world.append_acts externals ctx now body
      · exact .inl (congrArg World.history same)
      · right
        refine ⟨event, now, rfl, ?_⟩
        rw [World.history, logged, List.filterMap_append]
        rfl
  | verifies | judges => exact .inl (by simp [World.history_saw, Act.event?])

end Traces

end MandateLedger.Engine
