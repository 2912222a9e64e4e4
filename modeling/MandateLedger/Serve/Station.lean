import MandateLedger.Adapters.Sandbox
import MandateLedger.Engine.Repeats
import MandateLedger.Process.Sequence

namespace MandateLedger.Serve

open MandateLedger.Core MandateLedger.Data MandateLedger.Memory MandateLedger.Process
  MandateLedger.Engine MandateLedger.Adapters

/-- The rail spoke about finality. -/
def isVerdict : Act MockProof Finality → Bool
  | .judged .. => true
  | .appended _ | .verified .. => false

structure Station where
  world : World MockProof Finality
  checks : MemoryChecks

def Station.initial (capacity : Nat) : Station := ⟨.empty, .new capacity⟩

/-- What the rail answers, and what it remembers then. -/
def Speaks (rail : SandboxRail) (memory : MemoryChecks) :
    (op : Op MockProof Finality) → op.Answer → MemoryChecks → Prop
  | .verifyProof _ proof _, answer, after =>
      answer = SandboxRail.verifyProof proof ∧ after = memory
  | .checkFinality _ finality expected, answer, after =>
      (answer, after) = rail.checkFinality memory finality expected
  | _, _, after => after = memory

structure Station.Exec (externals : Externals) (rail : SandboxRail) (station : Station)
    (op : Op MockProof Finality) (answer : op.Answer) (after : Station) : Prop where
  world : station.world.Exec externals op answer after.world
  speaks : Speaks rail station.checks op answer after.checks

/-- Programs over the store and the sandbox rail.  The service has no route that
prunes. -/
def semantics (Tid : Type) (externals : Externals) (rail : SandboxRail) :
    Semantics Tid Station (Op MockProof Finality) Op.Answer where
  exec _ before op answer after := before.Exec externals rail op answer after
  env _ _ := False
  halt _ before after := after = before

namespace Station

variable (externals : Externals) (rail : SandboxRail) (now : Timestamp) (station : Station)

/-- What a call meets at this moment. -/
def around : Surroundings MockProof Finality where
  now := now
  verify := fun _ proof _ => SandboxRail.verifyProof proof
  judge := fun _ finality expected => (rail.checkFinality station.checks finality expected).1

/-- What the rail remembers after an operation. -/
def remembers : Op MockProof Finality → MemoryChecks
  | .checkFinality _ finality expected => (rail.checkFinality station.checks finality expected).2
  | _ => station.checks

def perform (op : Op MockProof Finality) : op.Answer × Station :=
  let (answer, world) := station.world.perform externals (station.around rail now) op
  (answer, ⟨world, station.remembers rail op⟩)

theorem perform_exec (op : Op MockProof Finality) :
    station.Exec externals rail op (station.perform externals rail now op).1
      (station.perform externals rail now op).2 := by
  refine ⟨station.world.perform_exec externals (station.around rail now) op, ?_⟩
  cases op with
  | verifyProof id proof expected => exact ⟨rfl, rfl⟩
  | _ => rfl

end Station

section Runs

variable {Tid α : Type} [DecidableEq Tid] {externals : Externals} {rail : SandboxRail}
  {Start : Program (Op MockProof Finality) Op.Answer α → Prop} {capacity : Nat}
  {config : Config Tid Station (Op MockProof Finality) Op.Answer α}

/-- Without the rail's memory, a run is one of the engine on some rail. -/
theorem reachable_world
    (reached : Process.Reachable (semantics Tid externals rail) Start (.initial capacity) config) :
    Process.Reachable (unpruned Tid externals) Start World.empty
      ⟨config.shared.world, config.threads⟩ := by
  refine reached.project Station.world ?_ ?_ ?_
  · intro t before op answer after executed
    exact executed.world
  · intro before after moved
    exact moved
  · intro t before after stopped
    exact congrArg Station.world stopped

/-- What an operation leaves of the rail's memory and of the acts: the rail is asked
about finality, or it forgets nothing and no verdict is added. -/
theorem Station.Exec.cases {station after : Station} {op : Op MockProof Finality}
    {answer : op.Answer} (executed : station.Exec externals rail op answer after) :
    (after.checks = station.checks ∧
      ∃ more : List (Act MockProof Finality), after.world.acts = station.world.acts ++ more ∧
        ∀ act ∈ more, isVerdict act = false) ∨
    ∃ id finality expected,
      after.world.acts = station.world.acts ++ [.judged id finality expected
        (rail.checkFinality station.checks finality expected).1] ∧
      after.checks = (rail.checkFinality station.checks finality expected).2 := by
  obtain ⟨moved, speaks⟩ := executed
  have kept : ∀ {memory : MemoryChecks}, memory = station.checks →
      after.world.acts = station.world.acts → memory = station.checks ∧
      ∃ more : List (Act MockProof Finality), after.world.acts = station.world.acts ++ more ∧
        ∀ act ∈ more, isVerdict act = false := by
    intro memory same acts
    exact ⟨same, [], by simp [acts], by simp⟩
  cases op with
  | now => exact .inl (kept speaks (by rw [show after.world = _ from moved]))
  | record | events | authorizedMandate | isRevoked =>
      exact .inl (kept speaks (by rw [show after.world = _ from moved.2]))
  | revoke mandate =>
      refine .inl (kept speaks ?_)
      rw [show after.world = _ from moved.2]
      rfl
  | append ctx now body =>
      have appended : after.world = (station.world.append externals ctx now body).2 :=
        congrArg Prod.snd moved
      obtain ⟨same, -⟩ | ⟨event, -, -, -, -, logged⟩ :=
        station.world.append_acts externals ctx now body
      · exact .inl (kept speaks (by rw [appended, same]))
      · refine .inl ⟨speaks, [.appended event], by rw [appended, logged], ?_⟩
        intro act listed
        rw [List.mem_singleton.mp listed]
        rfl
  | verifyProof id proof expected =>
      refine .inl ⟨speaks.2, [.verified id proof expected answer], ?_, ?_⟩
      · rw [show after.world = _ from moved]
        rfl
      · intro act listed
        rw [List.mem_singleton.mp listed]
        rfl
  | checkFinality id finality expected =>
      have answered : answer = (rail.checkFinality station.checks finality expected).1 :=
        congrArg Prod.fst speaks
      refine .inr ⟨id, finality, expected, ?_, congrArg Prod.snd speaks⟩
      rw [show after.world = _ from moved]
      exact congrArg (fun answer => station.world.acts ++ [.judged id finality expected answer])
        answered

/-- What holds at first and is kept by the rail's answers holds in every state. -/
theorem reachable_spoken (Inv : List (Act MockProof Finality) → MemoryChecks → Prop)
    (base : Inv [] (.new capacity))
    (silent : ∀ acts memory more, Inv acts memory → (∀ act ∈ more, isVerdict act = false) →
      Inv (acts ++ more) memory)
    (judged : ∀ acts memory id finality expected, Inv acts memory →
      Inv (acts ++ [.judged id finality expected (rail.checkFinality memory finality expected).1])
        (rail.checkFinality memory finality expected).2)
    (reached : Process.Reachable (semantics Tid externals rail) Start (.initial capacity) config) :
    Inv config.shared.world.acts config.shared.checks := by
  induction reached with
  | initial => exact base
  | step reached stepped ih =>
      cases stepped with
      | spawn => exact ih
      | call t op next answer after running executed =>
          obtain ⟨same, more, acts, quiet⟩ | ⟨id, finality, expected, acts, remembered⟩ :=
            Station.Exec.cases executed
          · rw [acts, same]
            exact silent _ _ more ih quiet
          · rw [acts, remembered]
            exact judged _ _ id finality expected ih
      | env after moved => exact moved.elim
      | halt t after stopped =>
          cases stopped
          exact ih

end Runs

end MandateLedger.Serve
