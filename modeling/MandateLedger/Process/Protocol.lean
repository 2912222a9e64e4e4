import MandateLedger.Process.Concurrent
import Mathlib.Order.Defs.PartialOrder
import Mathlib.Logic.Relation

namespace MandateLedger.Process

/-! # Protocols of single threads

A discipline says what the operations of a thread do once they are performed.  A
protocol says what a thread may ask for: which operation comes next, given what the
thread itself has done before.  So it also speaks of a thread that has to wait.

The thread's past is a state of its own.  `Tracks` relates it to the shared state,
and `Reachable.tracked` is the induction over runs.
-/

variable {Tid S Op σ : Type} {Answer : Op → Type} {α β ε : Type}

/-- What a thread may ask for, and what an answer makes of its own state. -/
structure Protocol (Op : Type) (Answer : Op → Type) (σ : Type) where
  Permits : σ → Op → Prop
  Moves : σ → (op : Op) → Answer op → σ → Prop

/-- Whatever it is answered, the program asks for what the protocol permits and ends
in `Post`. -/
def Program.Follows (protocol : Protocol Op Answer σ) :
    Program Op Answer α → (α → σ → Prop) → σ → Prop
  | .done value, Post, own => Post value own
  | .call op next, Post, own => protocol.Permits own op ∧
      ∀ answer after, protocol.Moves own op answer after →
        (next answer).Follows protocol Post after

section Rules

variable {protocol : Protocol Op Answer σ} {own : σ}

theorem Program.Follows.mono {program : Program Op Answer α} {Post Weaker : α → σ → Prop}
    (follows : program.Follows protocol Post own)
    (implied : ∀ value after, Post value after → Weaker value after) :
    program.Follows protocol Weaker own := by
  induction program generalizing own with
  | done value => exact implied value own follows
  | call op next ih =>
      refine ⟨follows.1, ?_⟩
      intro answer after moved
      exact ih answer (follows.2 answer after moved)

theorem Program.follows_bind (program : Program Op Answer α) (rest : α → Program Op Answer β)
    {Post : β → σ → Prop} :
    (program >>= rest).Follows protocol Post own ↔
      program.Follows protocol (fun value => (rest value).Follows protocol Post) own := by
  induction program generalizing own with
  | done value => exact Iff.rfl
  | call op next ih =>
      constructor
      · intro follows
        refine ⟨follows.1, ?_⟩
        intro answer after moved
        exact (ih answer).mp (follows.2 answer after moved)
      · intro follows
        refine ⟨follows.1, ?_⟩
        intro answer after moved
        exact (ih answer).mpr (follows.2 answer after moved)

theorem Fallible.follows_bind (first : Fallible Op Answer ε α)
    (rest : α → Fallible Op Answer ε β) {Post : Except ε β → σ → Prop} :
    (first >>= rest).run.Follows protocol Post own ↔
      first.run.Follows protocol
        (Ends (fun value => (rest value).run.Follows protocol Post)
          (fun error => Post (.error error))) own := by
  rw [Fallible.run_bind, Program.follows_bind]
  constructor
  · intro follows
    refine follows.mono ?_
    intro result after reached
    cases result <;> exact reached
  · intro follows
    refine follows.mono ?_
    intro result after reached
    cases result <;> exact reached

end Rules

/-- A relation between the shared state and the threads' own states that the
operations keep. -/
structure Protocol.Tracks (protocol : Protocol Op Answer σ) (semantics : Semantics Tid S Op Answer)
    (Owns : S → Tid → σ → Prop) (idle : σ) : Prop where
  exec : ∀ {t before op answer after own}, semantics.exec t before op answer after →
    Owns before t own → protocol.Permits own op →
    ∃ next, protocol.Moves own op answer next ∧ Owns after t next
  others : ∀ {t u before op answer after mover own}, semantics.exec t before op answer after →
    Owns before t mover → protocol.Permits mover op → u ≠ t → Owns before u own → Owns after u own
  env : ∀ {t before after own}, semantics.env before after → Owns before t own → Owns after t own
  halts : ∀ {t before after own}, semantics.halt t before after → Owns before t own →
    Owns after t idle
  spares : ∀ {t u before after own}, semantics.halt t before after → u ≠ t →
    Owns before u own → Owns after u own

section Runs

variable [DecidableEq Tid] {protocol : Protocol Op Answer σ}
  {semantics : Semantics Tid S Op Answer} {Owns : S → Tid → σ → Prop} {idle : σ}
  {Start : Program Op Answer α → Prop} {Post : α → σ → Prop} {initial : S}
  {config : Config Tid S Op Answer α}

/-- Every thread is somewhere in the protocol. -/
def Config.Tracked (protocol : Protocol Op Answer σ) (Owns : S → Tid → σ → Prop) (idle : σ)
    (Post : α → σ → Prop) (config : Config Tid S Op Answer α) : Prop :=
  ∀ t, ∃ own, Owns config.shared t own ∧ (config.threads t = none → own = idle) ∧
    ∀ program, config.threads t = some program → program.Follows protocol Post own

theorem Step.tracked {before after : Config Tid S Op Answer α}
    (tracks : protocol.Tracks semantics Owns idle)
    (started : ∀ program, Start program → program.Follows protocol Post idle)
    (tracked : before.Tracked protocol Owns idle Post)
    (stepped : Step semantics Start before after) : after.Tracked protocol Owns idle Post := by
  intro u
  obtain ⟨own, owned, stopped, running⟩ := tracked u
  cases stepped with
  | spawn t program free allowed =>
      refine ⟨own, owned, ?_⟩
      by_cases same : u = t
      · subst same
        simp only [Function.update_self, reduceCtorEq, false_implies, true_and, Option.some.injEq,
          forall_eq']
        rw [stopped free]
        exact started program allowed
      · simp only [Function.update_of_ne same]
        exact ⟨stopped, running⟩
  | call t op next answer after runs executed =>
      by_cases same : u = t
      · subst same
        obtain ⟨permits, continues⟩ := running _ runs
        obtain ⟨later, moved, owned⟩ := tracks.exec executed owned permits
        refine ⟨later, owned, ?_⟩
        simp only [Function.update_self, reduceCtorEq, false_implies, true_and, Option.some.injEq,
          forall_eq']
        exact continues answer later moved
      · obtain ⟨mover, moving, -, asks⟩ := tracked t
        refine ⟨own, tracks.others executed moving (asks _ runs).1 same owned, ?_⟩
        simp only [Function.update_of_ne same]
        exact ⟨stopped, running⟩
  | env after moved => exact ⟨own, tracks.env moved owned, stopped, running⟩
  | halt t after halted =>
      by_cases same : u = t
      · subst same
        refine ⟨idle, tracks.halts halted owned, fun _ => rfl, ?_⟩
        intro program found
        simp at found
      · refine ⟨own, tracks.spares halted same owned, ?_⟩
        simp only [Function.update_of_ne same]
        exact ⟨stopped, running⟩

/-- Every run of programs that follow the protocol follows it. -/
theorem Reachable.tracked (tracks : protocol.Tracks semantics Owns idle)
    (started : ∀ program, Start program → program.Follows protocol Post idle)
    (base : ∀ t, Owns initial t idle) (reached : Reachable semantics Start initial config) :
    config.Tracked protocol Owns idle Post := by
  induction reached with
  | initial =>
      intro t
      refine ⟨idle, base t, fun _ => rfl, ?_⟩
      intro program found
      cases found
  | step reached stepped ih => exact stepped.tracked tracks started ih

end Runs

/-- A waits-for relation has no cycle if a thread that is waited for only ever waits
for something of a higher rank. -/
theorem acyclic_of_rank {Rank : Type} [Preorder Rank] {WaitsFor : Tid → Tid → Prop}
    (rank : Tid → Rank)
    (climbs : ∀ {t u v}, WaitsFor t u → WaitsFor u v → rank t < rank u) (t : Tid) :
    ¬ Relation.TransGen WaitsFor t t := by
  have below : ∀ {u v}, Relation.TransGen WaitsFor t u → WaitsFor u v → rank t < rank u := by
    intro u v waits
    induction waits generalizing v with
    | single first => exact climbs first
    | tail _ last ih =>
        intro next
        exact lt_trans (ih last) (climbs last next)
  intro cycle
  obtain ⟨u, waits, -⟩ := Relation.TransGen.head'_iff.mp cycle
  exact lt_irrefl _ (below cycle waits)

end MandateLedger.Process
