import MandateLedger.Process.Concurrent

namespace MandateLedger.Process

/-! # Two runs side by side

Two configurations take the same turns.  Some threads are observed and run the
same calls in both; the others may differ, or be missing from one of the two.
A `Coupling` says what the observed threads may look at and what the others must
stay away from; if the operations respect it, the observed threads return the
same in both runs.
-/

variable {Tid S Op : Type} {Answer : Op → Type} {α β γ δ : Type}

/-- `Same` relates the two states, as far as the `Local` operations can tell;
`Alike` relates the answers they get.  `Foreign` operations do not show. -/
structure Coupling (S Op : Type) (Answer : Op → Type) where
  Same : S → S → Prop
  Local : Op → Prop
  Foreign : Op → Prop
  Alike : (op : Op) → Answer op → Answer op → Prop

structure Coupling.Sound (coupling : Coupling S Op Answer)
    (perform : Tid → S → (op : Op) → Answer op × S) : Prop where
  paired : ∀ {t left right op}, coupling.Same left right → coupling.Local op →
    coupling.Alike op (perform t left op).1 (perform t right op).1 ∧
      coupling.Same (perform t left op).2 (perform t right op).2
  left : ∀ {t left right op}, coupling.Same left right → coupling.Foreign op →
    coupling.Same (perform t left op).2 right
  right : ∀ {t left right op}, coupling.Same left right → coupling.Foreign op →
    coupling.Same left (perform t right op).2

/-- Given alike answers, the programs perform the same local operations and end
with related results. -/
inductive Program.Agree (coupling : Coupling S Op Answer) (Result : α → β → Prop) :
    Program Op Answer α → Program Op Answer β → Prop where
  | done {left : α} {right : β} (related : Result left right) :
      Agree coupling Result (.done left) (.done right)
  | call (op : Op) {left : Answer op → Program Op Answer α}
      {right : Answer op → Program Op Answer β} (visible : coupling.Local op)
      (next : ∀ first second, coupling.Alike op first second →
        Agree coupling Result (left first) (right second)) :
      Agree coupling Result (.call op left) (.call op right)

/-- Every operation the program can perform satisfies a predicate. -/
def Program.Within (Allowed : Op → Prop) : Program Op Answer α → Prop
  | .done _ => True
  | .call op next => Allowed op ∧ ∀ answer, (next answer).Within Allowed

section Rules

variable {coupling : Coupling S Op Answer} {Allowed : Op → Prop}

theorem Program.Agree.bind {Between : α → β → Prop} {Result : γ → δ → Prop}
    {left : Program Op Answer α} {right : Program Op Answer β}
    {leftRest : α → Program Op Answer γ} {rightRest : β → Program Op Answer δ}
    (first : Program.Agree coupling Between left right)
    (rest : ∀ leftValue rightValue, Between leftValue rightValue →
      Program.Agree coupling Result (leftRest leftValue) (rightRest rightValue)) :
    Program.Agree coupling Result (left >>= leftRest) (right >>= rightRest) := by
  induction first with
  | done related => exact rest _ _ related
  | call op visible next ih => exact .call op visible ih

theorem Program.Within.bind {program : Program Op Answer α} {rest : α → Program Op Answer β}
    (first : program.Within Allowed) (next : ∀ value, (rest value).Within Allowed) :
    (program >>= rest).Within Allowed := by
  induction program with
  | done value => exact next value
  | call op following ih => exact ⟨first.1, fun answer => ih answer (first.2 answer)⟩

variable {ε : Type}

/-- Results of calls that can fail: both fail alike, or both succeed alike. -/
inductive Outcomes (Value : α → β → Prop) : Except ε α → Except ε β → Prop where
  | error (error : ε) : Outcomes Value (.error error) (.error error)
  | ok {left : α} {right : β} (related : Value left right) :
      Outcomes Value (.ok left) (.ok right)

theorem Fallible.agree_bind {Between : α → β → Prop} {Result : γ → δ → Prop}
    {left : Fallible Op Answer ε α} {right : Fallible Op Answer ε β}
    {leftRest : α → Fallible Op Answer ε γ} {rightRest : β → Fallible Op Answer ε δ}
    (first : Program.Agree coupling (Outcomes Between) left.run right.run)
    (rest : ∀ leftValue rightValue, Between leftValue rightValue →
      Program.Agree coupling (Outcomes Result) (leftRest leftValue).run
        (rightRest rightValue).run) :
    Program.Agree coupling (Outcomes Result) (left >>= leftRest).run
      (right >>= rightRest).run := by
  rw [Fallible.run_bind, Fallible.run_bind]
  refine first.bind ?_
  intro leftResult rightResult between
  cases between with
  | error error => exact .done (.error error)
  | ok related => exact rest _ _ related

theorem Fallible.within_bind {first : Fallible Op Answer ε α}
    {rest : α → Fallible Op Answer ε β} (here : first.run.Within Allowed)
    (next : ∀ value, (rest value).run.Within Allowed) :
    (first >>= rest).run.Within Allowed := by
  rw [Fallible.run_bind]
  refine here.bind ?_
  intro result
  cases result with
  | error error => trivial
  | ok value => exact next value

/-- Programs that only perform allowed operations keep what those operations keep. -/
theorem Reachable.within [DecidableEq Tid] {semantics : Semantics Tid S Op Answer}
    {Start : Program Op Answer α → Prop} {initial : S} {config : Config Tid S Op Answer α}
    (reached : Reachable semantics Start initial config) (Allowed : Op → Prop) (Inv : S → Prop)
    (starts : ∀ program, Start program → program.Within Allowed) (begins : Inv initial)
    (exec : ∀ {t before op answer after}, Inv before → Allowed op →
      semantics.exec t before op answer after → Inv after)
    (env : ∀ {before after}, Inv before → semantics.env before after → Inv after)
    (halt : ∀ {t before after}, Inv before → semantics.halt t before after → Inv after) :
    Inv config.shared ∧ ∀ t program, config.threads t = some program → program.Within Allowed := by
  induction reached with
  | initial => exact ⟨begins, fun t program running => by cases running⟩
  | step reached stepped ih =>
      obtain ⟨invariant, within⟩ := ih
      have updated : ∀ {threads : Tid → Option (Program Op Answer α)} {t : Tid}
          {next : Option (Program Op Answer α)},
          (∀ u program, threads u = some program → program.Within Allowed) →
          (∀ program, next = some program → program.Within Allowed) →
          ∀ u program, Function.update threads t next u = some program →
            program.Within Allowed := by
        intro threads t next others own u program running
        by_cases same : u = t
        · subst same
          rw [Function.update_self] at running
          exact own program running
        · rw [Function.update_of_ne same] at running
          exact others u program running
      cases stepped with
      | spawn t program idle allowed =>
          refine ⟨invariant, updated within ?_⟩
          rintro _ ⟨rfl⟩
          exact starts program allowed
      | call t op next answer after running executed =>
          obtain ⟨allowed, further⟩ := within t _ running
          refine ⟨exec invariant allowed executed, updated within ?_⟩
          rintro _ ⟨rfl⟩
          exact further answer
      | env after moved => exact ⟨env invariant moved, within⟩
      | halt t after stopped =>
          refine ⟨halt invariant stopped, updated within ?_⟩
          intro program none
          cases none

theorem Reachable.of_start [DecidableEq Tid] {semantics : Semantics Tid S Op Answer}
    {Fewer More : Program Op Answer α → Prop} {initial : S} {config : Config Tid S Op Answer α}
    (reached : Reachable semantics Fewer initial config)
    (allows : ∀ program, Fewer program → More program) :
    Reachable semantics More initial config := by
  induction reached with
  | initial => exact .initial
  | step reached stepped ih =>
      refine .step ih ?_
      cases stepped with
      | spawn t program idle allowed => exact .spawn t program idle (allows program allowed)
      | call t op next answer after running executed =>
          exact .call t op next answer after running executed
      | env after moved => exact .env after moved
      | halt t after stopped => exact .halt t after stopped

end Rules

section Runs

variable [DecidableEq Tid] {coupling : Coupling S Op Answer} {Observed : Tid → Prop}
  {perform : Tid → S → (op : Op) → Answer op × S}
  {left right : Config Tid S Op Answer α}

/-- The states look the same, the observed threads agree, and the others stay
out of sight. -/
structure Coupled (coupling : Coupling S Op Answer) (Observed : Tid → Prop)
    (left right : Config Tid S Op Answer α) : Prop where
  same : coupling.Same left.shared right.shared
  observed : ∀ t, Observed t →
    Option.Rel (Program.Agree coupling Eq) (left.threads t) (right.threads t)
  others : ∀ t, ¬ Observed t →
    (∀ program ∈ left.threads t, program.Within coupling.Foreign) ∧
      ∀ program ∈ right.threads t, program.Within coupling.Foreign

theorem Config.advance_of_not_call {config : Config Tid S Op Answer α} {t : Tid}
    (waits : ∀ op next, config.threads t ≠ some (.call op next)) :
    config.advance perform t = config := by
  unfold Config.advance
  split
  · next op next running => exact absurd running (waits op next)
  · rfl

theorem Config.advance_of_call {config : Config Tid S Op Answer α} {t : Tid} {op : Op}
    {next : Answer op → Program Op Answer α} (running : config.threads t = some (.call op next)) :
    config.advance perform t =
      { shared := (perform t config.shared op).2,
        threads := Function.update config.threads t
          (some (next (perform t config.shared op).1)) } := by
  unfold Config.advance
  rw [running]

theorem Config.advance_within (perform : Tid → S → (op : Op) → Answer op × S)
    {config : Config Tid S Op Answer α} {Allowed : Op → Prop} {t : Tid}
    (within : ∀ program ∈ config.threads t, program.Within Allowed) :
    ((config.advance perform t).shared = config.shared ∨
        ∃ op, Allowed op ∧ (config.advance perform t).shared = (perform t config.shared op).2) ∧
      (∀ u, u ≠ t → (config.advance perform t).threads u = config.threads u) ∧
      ∀ program ∈ (config.advance perform t).threads t, program.Within Allowed := by
  cases running : config.threads t with
  | none =>
      rw [Config.advance_of_not_call (by simp [running])]
      exact ⟨.inl rfl, fun _ _ => rfl, within⟩
  | some program =>
      cases program with
      | done value =>
          rw [Config.advance_of_not_call (by simp [running])]
          exact ⟨.inl rfl, fun _ _ => rfl, within⟩
      | call op next =>
          obtain ⟨allowed, further⟩ := within _ running
          rw [Config.advance_of_call running]
          refine ⟨.inr ⟨op, allowed, rfl⟩, ?_, ?_⟩
          · intro u other
            exact Function.update_of_ne other _ _
          · simpa using further _

/-- A turn of an unobserved thread does not show, whether it is part of one run
or of both. -/
theorem Coupled.advance_unseen (coupled : Coupled coupling Observed left right)
    (sound : coupling.Sound perform) {t : Tid} (unseen : ¬ Observed t) :
    Coupled coupling Observed (left.advance perform t) (right.advance perform t) := by
  obtain ⟨leftMoves, leftKept, leftWithin⟩ :=
    Config.advance_within perform (coupled.others t unseen).1
  obtain ⟨rightMoves, rightKept, rightWithin⟩ :=
    Config.advance_within perform (coupled.others t unseen).2
  have same : coupling.Same (left.advance perform t).shared right.shared := by
    obtain unmoved | ⟨op, foreign, moved⟩ := leftMoves
    · rw [unmoved]
      exact coupled.same
    · rw [moved]
      exact sound.left coupled.same foreign
  refine ⟨?_, ?_, ?_⟩
  · obtain unmoved | ⟨op, foreign, moved⟩ := rightMoves
    · rw [unmoved]
      exact same
    · rw [moved]
      exact sound.right same foreign
  · intro u seen
    have other : u ≠ t := fun same => unseen (same ▸ seen)
    rw [leftKept u other, rightKept u other]
    exact coupled.observed u seen
  · intro u unseenToo
    by_cases own : u = t
    · subst own
      exact ⟨leftWithin, rightWithin⟩
    · rw [leftKept u own, rightKept u own]
      exact coupled.others u unseenToo

theorem Coupled.advance (coupled : Coupled coupling Observed left right)
    (sound : coupling.Sound perform) (t : Tid) :
    Coupled coupling Observed (left.advance perform t) (right.advance perform t) := by
  by_cases seen : Observed t
  · have agree := coupled.observed t seen
    cases leftRuns : left.threads t with
    | none =>
        cases rightRuns : right.threads t with
        | none =>
            rwa [Config.advance_of_not_call (by simp [leftRuns]),
              Config.advance_of_not_call (by simp [rightRuns])]
        | some program => simp [leftRuns, rightRuns] at agree
    | some leftProgram =>
        cases rightRuns : right.threads t with
        | none => simp [leftRuns, rightRuns] at agree
        | some rightProgram =>
            rw [leftRuns, rightRuns, Option.rel_some_some] at agree
            cases agree with
            | done related =>
                rwa [Config.advance_of_not_call (by simp [leftRuns]),
                  Config.advance_of_not_call (by simp [rightRuns])]
            | call op visible next =>
                obtain ⟨alike, same⟩ := sound.paired coupled.same visible
                rw [Config.advance_of_call leftRuns, Config.advance_of_call rightRuns]
                refine ⟨same, ?_, ?_⟩
                · intro u seenToo
                  by_cases own : u = t
                  · subst own
                    simpa using next _ _ alike
                  · simpa [Function.update_of_ne own] using coupled.observed u seenToo
                · intro u unseen
                  have other : u ≠ t := fun same => unseen (same ▸ seen)
                  simpa [Function.update_of_ne other] using coupled.others u unseen
  · exact coupled.advance_unseen sound seen

/-- Whatever the turns, observed threads return the same in both runs. -/
theorem Coupled.schedule (coupled : Coupled coupling Observed left right)
    (sound : coupling.Sound perform) (turns : List Tid) :
    Coupled coupling Observed (left.schedule perform turns) (right.schedule perform turns) := by
  induction turns generalizing left right with
  | nil => exact coupled
  | cons t rest ih => exact ih (coupled.advance sound t)

omit [DecidableEq Tid] in
theorem Coupled.finished (coupled : Coupled coupling Observed left right) {t : Tid}
    (seen : Observed t) : left.finished t = right.finished t := by
  have agree := coupled.observed t seen
  unfold Config.finished
  revert agree
  generalize left.threads t = leftRuns
  generalize right.threads t = rightRuns
  intro agree
  cases agree with
  | none => rfl
  | some related =>
      cases related with
      | done same => rw [same]
      | call => rfl

end Runs

end MandateLedger.Process
