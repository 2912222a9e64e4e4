import MandateLedger.Process.Program
import Mathlib.Logic.Function.Basic
import Mathlib.Logic.Relation

namespace MandateLedger.Process

/-! # Interleaved programs and rely-guarantee reasoning

Any number of programs run over one shared state.  A scheduler picks, at every
step, one of them and performs its next operation; it may also start a new
program, stop one, or let the environment act.  `Reachable` is the set of
configurations of all such runs.

A `Discipline` is a rely-guarantee specification: an invariant of the shared
state and, for each thread, what it may rely on the others to respect.
`Keeps` says that a program, from a given state and under any interference the
discipline allows, keeps the invariant and gives every other thread what that
thread relies on.  `Reachable.keeps` is the one induction over runs: if every
program that is ever started keeps the discipline, so does every run.
-/

variable {Tid S Op : Type} {Answer : Op → Type} {α β : Type}

/-- What the atomic operations do to the shared state, what may happen beside
the programs, and what stopping a thread leaves behind. -/
structure Semantics (Tid S Op : Type) (Answer : Op → Type) where
  exec : Tid → S → (op : Op) → Answer op → S → Prop
  env : S → S → Prop
  halt : Tid → S → S → Prop

/-- The shared state and the rest of every thread's program. -/
structure Config (Tid S Op : Type) (Answer : Op → Type) (α : Type) where
  shared : S
  threads : Tid → Option (Program Op Answer α)

def Config.initial (shared : S) : Config Tid S Op Answer α where
  shared := shared
  threads := fun _ => none

section Runs

variable [DecidableEq Tid]

/-- One step of the scheduler. -/
inductive Step (semantics : Semantics Tid S Op Answer)
    (Start : Program Op Answer α → Prop) :
    Config Tid S Op Answer α → Config Tid S Op Answer α → Prop where
  | spawn {config : Config Tid S Op Answer α} (t : Tid) (program : Program Op Answer α)
      (idle : config.threads t = none) (allowed : Start program) :
      Step semantics Start config
        { config with threads := Function.update config.threads t (some program) }
  | call {config : Config Tid S Op Answer α} (t : Tid) (op : Op)
      (next : Answer op → Program Op Answer α) (answer : Answer op) (after : S)
      (running : config.threads t = some (.call op next))
      (executed : semantics.exec t config.shared op answer after) :
      Step semantics Start config
        { shared := after,
          threads := Function.update config.threads t (some (next answer)) }
  | env {config : Config Tid S Op Answer α} (after : S)
      (moved : semantics.env config.shared after) :
      Step semantics Start config { config with shared := after }
  | halt {config : Config Tid S Op Answer α} (t : Tid) (after : S)
      (stopped : semantics.halt t config.shared after) :
      Step semantics Start config
        { shared := after, threads := Function.update config.threads t none }

/-- The configurations of every run from `initial`. -/
inductive Reachable (semantics : Semantics Tid S Op Answer)
    (Start : Program Op Answer α → Prop) (initial : S) :
    Config Tid S Op Answer α → Prop where
  | initial : Reachable semantics Start initial (.initial initial)
  | step {before after : Config Tid S Op Answer α}
      (reached : Reachable semantics Start initial before)
      (stepped : Step semantics Start before after) :
      Reachable semantics Start initial after

/-- A run of a semantics with fewer executions is a run of the semantics. -/
theorem Reachable.weaken {strict loose : Semantics Tid S Op Answer}
    {Start : Program Op Answer α → Prop} {initial : S}
    {config : Config Tid S Op Answer α}
    (reached : Reachable strict Start initial config)
    (exec : ∀ t before op answer after,
      strict.exec t before op answer after → loose.exec t before op answer after)
    (env : ∀ before after, strict.env before after → loose.env before after)
    (halt : ∀ t before after, strict.halt t before after → loose.halt t before after) :
    Reachable loose Start initial config := by
  induction reached with
  | initial => exact .initial
  | step reached stepped ih =>
      refine .step ih ?_
      cases stepped with
      | spawn t program idle allowed => exact .spawn t program idle allowed
      | call t op next answer after running executed =>
          exact .call t op next answer after running (exec _ _ _ _ _ executed)
      | env after moved => exact .env after (env _ _ moved)
      | halt t after stopped => exact .halt t after (halt _ _ _ stopped)

theorem Reachable.steps {semantics : Semantics Tid S Op Answer}
    {Start : Program Op Answer α → Prop} {initial : S} {earlier later : Config Tid S Op Answer α}
    (reached : Reachable semantics Start initial earlier)
    (steps : Relation.ReflTransGen (Step semantics Start) earlier later) :
    Reachable semantics Start initial later := by
  induction steps with
  | refl => exact reached
  | tail _ last ih => exact ih.step last

theorem Reachable.run_steps {semantics : Semantics Tid S Op Answer}
    {Start : Program Op Answer α → Prop} {initial : S} {config : Config Tid S Op Answer α}
    (reached : Reachable semantics Start initial config) :
    Relation.ReflTransGen (Step semantics Start) (.initial initial) config := by
  induction reached with
  | initial => exact .refl
  | step _ stepped ih => exact ih.tail stepped

/-- What every step does to a view of the shared state, every run does, if it composes. -/
theorem Reachable.relates {semantics : Semantics Tid S Op Answer}
    {Start : Program Op Answer α → Prop} {initial : S} {earlier later : Config Tid S Op Answer α}
    {View : Type} (view : S → View) {Relates : View → View → Prop}
    (refl : ∀ shared, Relates shared shared)
    (trans : ∀ {first second third}, Relates first second → Relates second third →
      Relates first third)
    (stepped : ∀ {before after}, Reachable semantics Start initial before →
      Step semantics Start before after → Relates (view before.shared) (view after.shared))
    (reached : Reachable semantics Start initial earlier)
    (steps : Relation.ReflTransGen (Step semantics Start) earlier later) :
    Relates (view earlier.shared) (view later.shared) := by
  induction steps with
  | refl => exact refl _
  | tail before last ih => exact trans ih (stepped (reached.steps before) last)

/-- A thread that runs on alone performs its program from beginning to end. -/
theorem Reachable.run_thread {semantics : Semantics Tid S Op Answer}
    {Start : Program Op Answer α → Prop} {initial : S} {config : Config Tid S Op Answer α}
    {t : Tid} {program : Program Op Answer α} (perform : S → (op : Op) → Answer op × S)
    (performs : ∀ state op,
      semantics.exec t state op (perform state op).1 (perform state op).2)
    (reached : Reachable semantics Start initial config)
    (running : config.threads t = some program) :
    Reachable semantics Start initial
      { shared := (program.run perform config.shared).2,
        threads := Function.update config.threads t
          (some (.done (program.run perform config.shared).1)) } := by
  induction program generalizing config with
  | done value =>
      rw [Program.run_done, ← running, Function.update_eq_self]
      exact reached
  | call op next ih =>
      have stepped := reached.step (.call t op next _ _ running (performs config.shared op))
      have finished := ih _ stepped (Function.update_self ..)
      rw [Function.update_idem] at finished
      exact finished

/-- A call made while nothing else runs, and cleared away afterwards. -/
theorem Reachable.serve {semantics : Semantics Tid S Op Answer}
    {Start : Program Op Answer α → Prop} {initial : S} {config : Config Tid S Op Answer α}
    {t : Tid} {program : Program Op Answer α} (perform : S → (op : Op) → Answer op × S)
    (performs : ∀ state op,
      semantics.exec t state op (perform state op).1 (perform state op).2)
    (reached : Reachable semantics Start initial config) (idle : config.threads t = none)
    (allowed : Start program)
    (halts : ∀ state, semantics.halt t state state) :
    Reachable semantics Start initial
      { config with shared := (program.run perform config.shared).2 } := by
  have spawned := reached.step (.spawn t program idle allowed)
  have finished := spawned.run_thread perform performs (Function.update_self ..)
  have cleared := finished.step (.halt t _ (halts _))
  rw [Function.update_idem, Function.update_idem, ← idle, Function.update_eq_self] at cleared
  exact cleared

/-- Several programs, each in a thread of its own and about to begin. -/
def Config.started (shared : S) :
    List (Tid × Program Op Answer α) → Config Tid S Op Answer α
  | [] => .initial shared
  | (t, program) :: rest =>
      { shared := shared,
        threads := Function.update (Config.started shared rest).threads t (some program) }

theorem Config.started_threads (shared : S) (programs : List (Tid × Program Op Answer α)) {t : Tid}
    (absent : t ∉ programs.map Prod.fst) : (Config.started shared programs).threads t = none := by
  induction programs with
  | nil => rfl
  | cons entry rest ih =>
      rw [List.map_cons, List.mem_cons, not_or] at absent
      exact (Function.update_of_ne absent.1 _ _).trans (ih absent.2)

theorem Reachable.started {semantics : Semantics Tid S Op Answer}
    {Start : Program Op Answer α → Prop} {initial : S}
    (programs : List (Tid × Program Op Answer α)) (distinct : (programs.map Prod.fst).Nodup)
    (allowed : ∀ entry ∈ programs, Start entry.2) :
    Reachable semantics Start initial (Config.started initial programs) := by
  induction programs with
  | nil => exact .initial
  | cons entry rest ih =>
      rw [List.map_cons, List.nodup_cons] at distinct
      have reached := ih distinct.2 fun other listed => allowed other (List.mem_cons_of_mem _ listed)
      have shared : (Config.started initial rest).shared = initial := by
        cases rest <;> rfl
      have spawned := reached.step (.spawn entry.1 entry.2
        (Config.started_threads initial rest distinct.1) (allowed entry List.mem_cons_self))
      rw [shared] at spawned
      exact spawned

/-- One operation of one thread, when the operations have functions. -/
def Config.advance (perform : Tid → S → (op : Op) → Answer op × S)
    (config : Config Tid S Op Answer α) (t : Tid) : Config Tid S Op Answer α :=
  match config.threads t with
  | some (.call op next) =>
      { shared := (perform t config.shared op).2,
        threads := Function.update config.threads t
          (some (next (perform t config.shared op).1)) }
  | _ => config

/-- The threads take turns as a schedule says. -/
def Config.schedule (perform : Tid → S → (op : Op) → Answer op × S)
    (config : Config Tid S Op Answer α) (turns : List Tid) : Config Tid S Op Answer α :=
  turns.foldl (Config.advance perform) config

theorem Config.schedule_steps {semantics : Semantics Tid S Op Answer}
    {Start : Program Op Answer α → Prop} {perform : Tid → S → (op : Op) → Answer op × S}
    (performs : ∀ t state op,
      semantics.exec t state op (perform t state op).1 (perform t state op).2)
    (config : Config Tid S Op Answer α) (turns : List Tid) :
    Relation.ReflTransGen (Step semantics Start) config (config.schedule perform turns) := by
  induction turns generalizing config with
  | nil => exact .refl
  | cons t rest ih =>
      refine Relation.ReflTransGen.trans ?_ (ih (config.advance perform t))
      unfold Config.advance
      split
      · next op next running =>
          exact .single (.call t op next _ _ running (performs t config.shared op))
      · exact .refl

theorem Reachable.schedule {semantics : Semantics Tid S Op Answer}
    {Start : Program Op Answer α → Prop} {initial : S} {config : Config Tid S Op Answer α}
    {perform : Tid → S → (op : Op) → Answer op × S}
    (performs : ∀ t state op,
      semantics.exec t state op (perform t state op).1 (perform t state op).2)
    (reached : Reachable semantics Start initial config) (turns : List Tid) :
    Reachable semantics Start initial (config.schedule perform turns) :=
  reached.steps (config.schedule_steps performs turns)

theorem Config.schedule_append (perform : Tid → S → (op : Op) → Answer op × S)
    (config : Config Tid S Op Answer α) (earlier later : List Tid) :
    config.schedule perform (earlier ++ later) =
      (config.schedule perform earlier).schedule perform later :=
  List.foldl_append

theorem Config.advance_call {perform : Tid → S → (op : Op) → Answer op × S}
    {config : Config Tid S Op Answer α} {t : Tid} {op : Op} {next : Answer op → Program Op Answer α}
    (running : config.threads t = some (.call op next)) :
    config.advance perform t =
      { shared := (perform t config.shared op).2,
        threads := Function.update config.threads t
          (some (next (perform t config.shared op).1)) } := by
  rw [Config.advance, running]

theorem Config.advance_done {perform : Tid → S → (op : Op) → Answer op × S}
    {config : Config Tid S Op Answer α} {t : Tid} {value : α}
    (done : config.threads t = some (.done value)) : config.advance perform t = config := by
  rw [Config.advance, done]

end Runs

def Config.finished (config : Config Tid S Op Answer α) (t : Tid) : Option α :=
  match config.threads t with
  | some (.done value) => some value
  | _ => none

theorem Config.threads_of_finished {config : Config Tid S Op Answer α} {t : Tid} {value : α}
    (finished : config.finished t = some value) : config.threads t = some (.done value) := by
  unfold Config.finished at finished
  split at finished
  · next running =>
      cases finished
      exact running
  · cases finished

theorem Config.finished_of_threads {config : Config Tid S Op Answer α} {t : Tid} {value : α}
    (done : config.threads t = some (.done value)) : config.finished t = some value := by
  rw [Config.finished, done]

/-- Of two threads one is done, and the other one will return `value`. -/
structure Config.Decided (perform : Bool → S → (op : Op) → Answer op × S)
    (config : Config Bool S Op Answer α) (winner : Bool) (first second : α) : Prop where
  done : config.threads winner = some (.done first)
  left : ∃ program, config.threads (!winner) = some program ∧
    (program.run (perform !winner) config.shared).1 = second

section Decided

variable {perform : Bool → S → (op : Op) → Answer op × S} {config : Config Bool S Op Answer α}
  {winner : Bool} {first second : α}

theorem Config.Decided.advance (decided : config.Decided perform winner first second) (t : Bool) :
    (config.advance perform t).Decided perform winner first second := by
  by_cases own : t = winner
  · subst own
    rw [Config.advance_done decided.done]
    exact decided
  · obtain rfl : t = !winner := Bool.eq_not.mpr own
    obtain ⟨program, running, returns⟩ := decided.left
    cases program with
    | done value =>
        rw [Config.advance_done running]
        exact decided
    | call op next =>
        rw [Config.advance_call running]
        refine ⟨?_, _, Function.update_self .., returns⟩
        rw [← decided.done]
        exact Function.update_of_ne (Ne.symm own) _ _

theorem Config.Decided.schedule (decided : config.Decided perform winner first second)
    (turns : List Bool) : (config.schedule perform turns).Decided perform winner first second := by
  induction turns generalizing config with
  | nil => exact decided
  | cons t rest ih => exact ih (decided.advance t)

theorem Config.Decided.finished (decided : config.Decided perform winner first second)
    (returned : (config.finished (!winner)).isSome = true) :
    config.finished winner = some first ∧ config.finished (!winner) = some second := by
  refine ⟨Config.finished_of_threads decided.done, ?_⟩
  obtain ⟨value, finished⟩ := Option.isSome_iff_exists.mp returned
  obtain ⟨program, running, returns⟩ := decided.left
  cases running.symm.trans (Config.threads_of_finished finished)
  exact finished.trans (congrArg some returns)

end Decided

/-- A rely-guarantee specification.  `Idle` is what a thread that is not
running has left in the shared state. -/
structure Discipline (Tid S : Type) where
  Inv : S → Prop
  Rely : Tid → S → S → Prop
  Idle : Tid → S → Prop
  refl : ∀ t state, Rely t state state
  trans : ∀ {t first second third}, Rely t first second → Rely t second third →
    Rely t first third
  idle_stable : ∀ {t before after}, Rely t before after → Idle t before → Idle t after

def Discipline.Permits (discipline : Discipline Tid S) (t : Tid) (before after : S) : Prop :=
  discipline.Inv after ∧ ∀ other, other ≠ t → discipline.Rely other before after

/-- The environment and a stopped thread respect the discipline. -/
structure Discipline.Sound (discipline : Discipline Tid S)
    (semantics : Semantics Tid S Op Answer) : Prop where
  env : ∀ {before after}, semantics.env before after → discipline.Inv before →
    discipline.Inv after ∧ ∀ t, discipline.Rely t before after
  halt : ∀ {t before after}, semantics.halt t before after → discipline.Inv before →
    discipline.Permits t before after ∧ discipline.Idle t after

/-- From `state`, under any interference its rely admits, the program only
makes permitted transitions and ends in `Post`. -/
def Program.Keeps (semantics : Semantics Tid S Op Answer) (discipline : Discipline Tid S)
    (t : Tid) : Program Op Answer α → (α → S → Prop) → S → Prop
  | .done value, Post, state => Post value state
  | .call op next, Post, state =>
      ∀ before, discipline.Rely t state before → discipline.Inv before →
      ∀ answer after, semantics.exec t before op answer after →
        discipline.Permits t before after ∧
          (next answer).Keeps semantics discipline t Post after

section Rules

variable {semantics : Semantics Tid S Op Answer} {discipline : Discipline Tid S} {t : Tid}
  {Post : α → S → Prop} {state : S}

@[simp] theorem Program.keeps_done (value : α) :
    (Program.done value : Program Op Answer α).Keeps semantics discipline t Post state ↔
      Post value state := Iff.rfl

theorem Program.keeps_call (op : Op) (next : Answer op → Program Op Answer α) :
    (Program.call op next).Keeps semantics discipline t Post state ↔
      ∀ before, discipline.Rely t state before → discipline.Inv before →
      ∀ answer after, semantics.exec t before op answer after →
        discipline.Permits t before after ∧
          (next answer).Keeps semantics discipline t Post after := Iff.rfl

/-- The rule for sequencing: the first program has to end where the rest can
start. -/
theorem Program.keeps_bind (program : Program Op Answer α) (rest : α → Program Op Answer β)
    {Post : β → S → Prop} :
    (program >>= rest).Keeps semantics discipline t Post state ↔
      program.Keeps semantics discipline t
        (fun value => (rest value).Keeps semantics discipline t Post) state := by
  induction program generalizing state with
  | done value => rfl
  | call op next ih =>
      rw [call_bind, keeps_call, keeps_call]
      constructor
      · intro kept before related invariant answer after executed
        obtain ⟨permitted, continued⟩ := kept before related invariant answer after executed
        exact ⟨permitted, (ih answer).mp continued⟩
      · intro kept before related invariant answer after executed
        obtain ⟨permitted, continued⟩ := kept before related invariant answer after executed
        exact ⟨permitted, (ih answer).mpr continued⟩

theorem Program.Keeps.mono {program : Program Op Answer α} {Weaker : α → S → Prop}
    (kept : program.Keeps semantics discipline t Post state)
    (implied : ∀ value after, Post value after → Weaker value after) :
    program.Keeps semantics discipline t Weaker state := by
  induction program generalizing state with
  | done value => exact implied value state kept
  | call op next ih =>
      intro before related invariant answer after executed
      obtain ⟨permitted, continued⟩ := kept before related invariant answer after executed
      exact ⟨permitted, ih answer continued⟩

/-- Where every operation is permitted, every program is. -/
theorem Program.keeps_any
    (permits : ∀ before op answer after, discipline.Inv before →
      semantics.exec t before op answer after → discipline.Permits t before after)
    (program : Program Op Answer α) :
    program.Keeps semantics discipline t (fun _ _ => True) state := by
  induction program generalizing state with
  | done value => trivial
  | call op next ih =>
      intro before _ invariant answer after executed
      exact ⟨permits before op answer after invariant executed, ih answer⟩

/-- Interference does not disturb a kept program. -/
theorem Program.Keeps.stable {program : Program Op Answer α} {after : S}
    (kept : program.Keeps semantics discipline t Post state)
    (related : discipline.Rely t state after) (invariant : discipline.Inv after)
    (stable : ∀ value, discipline.Rely t state after → discipline.Inv after →
      Post value state → Post value after) :
    program.Keeps semantics discipline t Post after := by
  cases program with
  | done value => exact stable value related invariant kept
  | call op next =>
      intro before later invariant answer next executed
      exact kept before (discipline.trans related later) invariant answer next executed

variable {ε : Type}

def Ends (Returns : α → S → Prop) (Fails : ε → S → Prop) : Except ε α → S → Prop
  | .ok value => Returns value
  | .error error => Fails error

theorem Fallible.keeps_bind (first : Fallible Op Answer ε α) (rest : α → Fallible Op Answer ε β)
    {Post : Except ε β → S → Prop} :
    (first >>= rest).run.Keeps semantics discipline t Post state ↔
      first.run.Keeps semantics discipline t
        (Ends (fun value => (rest value).run.Keeps semantics discipline t Post)
          (fun error => Post (.error error))) state := by
  rw [Fallible.run_bind, Program.keeps_bind]
  constructor <;> intro kept <;> refine kept.mono ?_ <;> intro result after reached <;>
    cases result <;> exact reached

end Rules

section Soundness

variable [DecidableEq Tid] {semantics : Semantics Tid S Op Answer}
  {discipline : Discipline Tid S} {Start : Program Op Answer α → Prop}
  {Post : Tid → α → S → Prop} {initial : S} {config : Config Tid S Op Answer α}

/-- What holds of a configuration in every run of disciplined programs. -/
structure Config.Kept (semantics : Semantics Tid S Op Answer) (discipline : Discipline Tid S)
    (Post : Tid → α → S → Prop) (config : Config Tid S Op Answer α) : Prop where
  inv : discipline.Inv config.shared
  idle : ∀ t, config.threads t = none → discipline.Idle t config.shared
  running : ∀ t program, config.threads t = some program →
    program.Keeps semantics discipline t (Post t) config.shared

private theorem Config.Kept.others {after : S} {threads : Tid → Option (Program Op Answer α)}
    (kept : config.Kept semantics discipline Post) (t : Tid)
    (stable : ∀ t value before after, discipline.Rely t before after → discipline.Inv after →
      Post t value before → Post t value after)
    (permitted : discipline.Permits t config.shared after)
    (same : ∀ other, other ≠ t → threads other = config.threads other)
    (idle : threads t = none → discipline.Idle t after)
    (running : ∀ program, threads t = some program →
      program.Keeps semantics discipline t (Post t) after) :
    Config.Kept semantics discipline Post { shared := after, threads } := by
  refine ⟨permitted.1, ?_, ?_⟩
  · intro other stopped
    by_cases own : other = t
    · subst own
      exact idle stopped
    · have before : config.threads other = none := (same other own).symm.trans stopped
      exact discipline.idle_stable (permitted.2 other own) (kept.idle other before)
  · intro other program found
    by_cases own : other = t
    · subst own
      exact running program found
    · have before : config.threads other = some program := (same other own).symm.trans found
      exact (kept.running other program before).stable (permitted.2 other own) permitted.1
        (fun value related invariant => stable other value _ _ related invariant)

theorem Step.keeps {before after : Config Tid S Op Answer α}
    (sound : discipline.Sound semantics)
    (stable : ∀ t value before after, discipline.Rely t before after → discipline.Inv after →
      Post t value before → Post t value after)
    (started : ∀ program, Start program → ∀ t state, discipline.Inv state →
      discipline.Idle t state → program.Keeps semantics discipline t (Post t) state)
    (kept : before.Kept semantics discipline Post)
    (stepped : Step semantics Start before after) :
    after.Kept semantics discipline Post := by
  cases stepped with
  | spawn t program idle allowed =>
      refine kept.others t stable ⟨kept.inv, fun other _ => discipline.refl other _⟩ ?_ ?_ ?_
      · intro other different
        exact Function.update_of_ne different _ _
      · intro stopped
        simp at stopped
      · intro running found
        simp only [Function.update_self, Option.some.injEq] at found
        subst found
        exact started program allowed t _ kept.inv (kept.idle t idle)
  | call t op next answer after running executed =>
      obtain ⟨permitted, continued⟩ := kept.running t _ running _ (discipline.refl t _)
        kept.inv answer after executed
      refine kept.others t stable permitted ?_ ?_ ?_
      · intro other different
        exact Function.update_of_ne different _ _
      · intro stopped
        simp at stopped
      · intro rest found
        simp only [Function.update_self, Option.some.injEq] at found
        subst found
        exact continued
  | env after moved =>
      obtain ⟨invariant, related⟩ := sound.env moved kept.inv
      refine ⟨invariant, ?_, ?_⟩
      · intro t stopped
        exact discipline.idle_stable (related t) (kept.idle t stopped)
      · intro t program found
        exact (kept.running t program found).stable (related t) invariant
          (fun value related invariant => stable t value _ _ related invariant)
  | halt t after stopped =>
      obtain ⟨permitted, idle⟩ := sound.halt stopped kept.inv
      refine kept.others t stable permitted ?_ (fun _ => idle) ?_
      · intro other different
        exact Function.update_of_ne different _ _
      · intro program found
        simp at found

/-- Every run of programs that keep the discipline keeps it. -/
theorem Reachable.keeps (sound : discipline.Sound semantics)
    (stable : ∀ t value before after, discipline.Rely t before after → discipline.Inv after →
      Post t value before → Post t value after)
    (started : ∀ program, Start program → ∀ t state, discipline.Inv state →
      discipline.Idle t state → program.Keeps semantics discipline t (Post t) state)
    (base : discipline.Inv initial) (idle : ∀ t, discipline.Idle t initial)
    (reached : Reachable semantics Start initial config) :
    config.Kept semantics discipline Post := by
  induction reached with
  | initial => exact ⟨base, fun t _ => idle t, fun t program found => by cases found⟩
  | step reached stepped ih => exact stepped.keeps sound stable started ih

end Soundness

end MandateLedger.Process
