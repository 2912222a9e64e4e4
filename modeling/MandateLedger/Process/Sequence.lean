import MandateLedger.Process.Concurrent

namespace MandateLedger.Process

/-! # Coarser views of a run

Two ways to read a run as a run of something simpler.  A view forgets a part of the
shared state.  And a program that runs other programs one after the other is, to
everyone else, just those programs: where one of them ends the thread goes idle, and
where the next one begins it is started.  What it only looks at in between nobody
notices.
-/

variable {Tid S T Op : Type} {Answer : Op → Type} {α β : Type}

/-- A discipline of what the view shows. -/
def Discipline.pull (view : S → T) (discipline : Discipline Tid T) : Discipline Tid S where
  Inv state := discipline.Inv (view state)
  Rely t before after := discipline.Rely t (view before) (view after)
  Idle t state := discipline.Idle t (view state)
  refl t state := discipline.refl t (view state)
  trans := discipline.trans
  idle_stable := discipline.idle_stable

/-- A program that keeps a discipline keeps it where more is to be seen. -/
theorem Program.Keeps.pull {fine : Semantics Tid S Op Answer} {coarse : Semantics Tid T Op Answer}
    {discipline : Discipline Tid T} {t : Tid} {program : Program Op Answer α}
    {Post : α → T → Prop} {state : S} (view : S → T)
    (exec : ∀ t before op answer after, fine.exec t before op answer after →
      coarse.exec t (view before) op answer (view after))
    (kept : program.Keeps coarse discipline t Post (view state)) :
    program.Keeps fine (discipline.pull view) t (fun value state => Post value (view state))
      state := by
  induction program generalizing state with
  | done value => exact kept
  | call op next ih =>
      intro before related invariant answer after executed
      obtain ⟨permitted, continued⟩ :=
        kept (view before) related invariant answer (view after) (exec _ _ _ _ _ executed)
      exact ⟨permitted, ih answer continued⟩

variable [DecidableEq Tid]

/-- A run, seen through a view that maps every operation to one of the coarser
semantics. -/
theorem Reachable.project {fine : Semantics Tid S Op Answer} {coarse : Semantics Tid T Op Answer}
    {Start : Program Op Answer α → Prop} {initial : S} {config : Config Tid S Op Answer α}
    (view : S → T)
    (exec : ∀ t before op answer after, fine.exec t before op answer after →
      coarse.exec t (view before) op answer (view after))
    (env : ∀ before after, fine.env before after → coarse.env (view before) (view after))
    (halt : ∀ t before after, fine.halt t before after → coarse.halt t (view before) (view after))
    (reached : Reachable fine Start initial config) :
    Reachable coarse Start (view initial) ⟨view config.shared, config.threads⟩ := by
  induction reached with
  | initial => exact .initial
  | step reached stepped ih =>
      cases stepped with
      | spawn t program idle allowed => exact ih.step (.spawn t program idle allowed)
      | call t op next answer after running executed =>
          exact ih.step (.call t op next answer (view after) running (exec _ _ _ _ _ executed))
      | env after moved => exact ih.step (.env (view after) (env _ _ moved))
      | halt t after stopped => exact ih.step (.halt t (view after) (halt _ _ _ stopped))

/-- A program that runs programs of `Start` one after the other, with operations of
`Reads` in between. -/
inductive Sequence (Start : Program Op Answer α → Prop) (Reads : Op → Prop) :
    Program Op Answer β → Prop where
  | done (value : β) : Sequence Start Reads (.done value)
  | next {first : Program Op Answer α} {rest : α → Program Op Answer β} (start : Start first)
      (continues : ∀ value, Sequence Start Reads (rest value)) :
      Sequence Start Reads (first >>= rest)
  | read {op : Op} {rest : Answer op → Program Op Answer β} (reads : Reads op)
      (continues : ∀ answer, Sequence Start Reads (rest answer)) :
      Sequence Start Reads (.call op rest)

/-- What is left of a sequence: between two of its programs, or within one. -/
inductive Remains (Start : Program Op Answer α → Prop) (Reads : Op → Prop) :
    Option (Program Op Answer α) → Program Op Answer β → Prop where
  | between {program : Program Op Answer β} (sequence : Sequence Start Reads program) :
      Remains Start Reads none program
  | inside {current : Program Op Answer α} {rest : α → Program Op Answer β}
      (continues : ∀ value, Sequence Start Reads (rest value)) :
      Remains Start Reads (some current) (current >>= rest)

section Sequences

variable {semantics : Semantics Tid S Op Answer} {Start : Program Op Answer α → Prop}
  {Reads : Op → Prop} {initial : S}

/-- A program whose result is read back from that of a program of `Start`. -/
theorem Sequence.of_map {γ : Type} {program : Program Op Answer γ} {tell : γ → α} {hear : α → γ}
    {rest : γ → Program Op Answer β} (heard : ∀ value, hear (tell value) = value)
    (start : Start (tell <$> program)) (continues : ∀ value, Sequence Start Reads (rest value)) :
    Sequence Start Reads (program >>= rest) := by
  have told : program >>= rest = (tell <$> program) >>= fun value => rest (hear value) := by
    rw [map_eq_pure_bind, bind_assoc]
    simp only [pure_bind, heard]
  rw [told]
  exact .next start fun value => continues (hear value)

/-- The next operation of a sequence is a reading, or the first one of a program it
starts. -/
theorem Sequence.call {config : Config Tid S Op Answer α} {t : Tid} {op : Op}
    {next : Answer op → Program Op Answer β} {answer : Answer op} {after : S}
    (sequence : Sequence Start Reads (.call op next))
    (quiet : ∀ t before op answer after, Reads op → semantics.exec t before op answer after →
      after = before)
    (reached : Reachable semantics Start initial config) (idle : config.threads t = none)
    (executed : semantics.exec t config.shared op answer after) :
    ∃ current, Remains Start Reads current (next answer) ∧
      Reachable semantics Start initial ⟨after, Function.update config.threads t current⟩ := by
  generalize written : Program.call op next = program at sequence
  induction sequence with
  | done value => cases written
  | @next first rest start continues ih =>
      cases first with
      | done value => exact ih value written
      | call other inner =>
          cases written
          have spawned := reached.step (.spawn t _ idle start)
          have called := spawned.step (.call t op inner answer after (Function.update_self ..) executed)
          rw [Function.update_idem] at called
          exact ⟨some (inner answer), .inside continues, called⟩
  | read reads continues ih =>
      cases written
      cases quiet t _ _ _ _ reads executed
      refine ⟨none, .between (continues answer), ?_⟩
      rw [← idle, Function.update_eq_self]
      exact reached

/-- The coarse thread follows the fine one. -/
def Mirrors (Start : Program Op Answer α → Prop) (Reads : Op → Prop)
    (coarse : Option (Program Op Answer α)) : Option (Program Op Answer β) → Prop
  | none => coarse = none
  | some program => Remains Start Reads coarse program

/-- Every run of sequences is a run of the programs they are made of. -/
theorem Reachable.sequence {Sequences : Program Op Answer β → Prop}
    {config : Config Tid S Op Answer β}
    (made : ∀ program, Sequences program → Sequence Start Reads program)
    (quiet : ∀ t before op answer after, Reads op → semantics.exec t before op answer after →
      after = before)
    (rests : ∀ t state, semantics.halt t state state)
    (reached : Reachable semantics Sequences initial config) :
    ∃ coarse : Config Tid S Op Answer α, Reachable semantics Start initial coarse ∧
      coarse.shared = config.shared ∧
      ∀ t, Mirrors Start Reads (coarse.threads t) (config.threads t) := by
  induction reached with
  | initial => exact ⟨_, .initial, rfl, fun _ => rfl⟩
  | @step before _ reached stepped ih =>
      obtain ⟨coarse, run, same, follows⟩ := ih
      -- everything but the thread that moves follows as before
      have others : ∀ t program (current : Option (Program Op Answer α)),
          Mirrors Start Reads current program →
          ∀ other, Mirrors Start Reads (Function.update coarse.threads t current other)
            (Function.update before.threads t program other) := by
        intro t program current moved other
        by_cases own : other = t
        · subst own
          rw [Function.update_self, Function.update_self]
          exact moved
        · rw [Function.update_of_ne own, Function.update_of_ne own]
          exact follows other
      cases stepped with
      | spawn t program idle allowed =>
          have idles : coarse.threads t = none := by
            have following := follows t
            rw [idle] at following
            exact following
          refine ⟨coarse, run, same, ?_⟩
          have moved := others t (some program) none (.between (made program allowed))
          rw [← idles, Function.update_eq_self] at moved
          exact moved
      | call t op next answer after running executed =>
          have following := follows t
          rw [running] at following
          rw [← same] at executed
          generalize current : coarse.threads t = thread at following
          generalize written : Program.call op next = program at following
          cases following with
          | between sequence =>
              subst written
              obtain ⟨entered, remains, called⟩ := sequence.call quiet run current executed
              exact ⟨_, called, rfl, others t _ _ remains⟩
          | @inside first rest continues =>
              cases first with
              | call other inner =>
                  cases written
                  refine ⟨_, run.step (.call t op inner answer after current executed), rfl, ?_⟩
                  exact others t _ _ (.inside continues)
              | done value =>
                  -- the coarse thread has ended; it goes idle before the next program
                  have halted := run.step (.halt t _ (rests t _))
                  have sequence : Sequence Start Reads (.call op next) := by
                    rw [written]
                    exact continues value
                  obtain ⟨entered, remains, called⟩ :=
                    sequence.call quiet halted (Function.update_self ..) executed
                  rw [Function.update_idem] at called
                  exact ⟨_, called, rfl, others t _ _ remains⟩
      | env after moved =>
          rw [← same] at moved
          exact ⟨_, run.step (.env after moved), rfl, follows⟩
      | halt t after stopped =>
          rw [← same] at stopped
          exact ⟨_, run.step (.halt t after stopped), rfl, others t none none rfl⟩

end Sequences

end MandateLedger.Process
