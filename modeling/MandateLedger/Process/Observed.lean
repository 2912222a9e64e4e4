import MandateLedger.Process.Concurrent

namespace MandateLedger.Process

variable {Tid S Op : Type} {Answer : Op → Type} {α β : Type}

abbrev Exchange (Op : Type) (Answer : Op → Type) := (op : Op) × Answer op

theorem Program.map_call (f : α → β) (op : Op) (next : Answer op → Program Op Answer α) :
    f <$> Program.call op next = .call op fun answer => f <$> next answer := rfl

theorem Program.keeps_map {semantics : Semantics Tid S Op Answer} {discipline : Discipline Tid S}
    {t : Tid} {state : S} (f : α → β) (program : Program Op Answer α) {Post : β → S → Prop} :
    (f <$> program).Keeps semantics discipline t Post state ↔
      program.Keeps semantics discipline t (fun value => Post (f value)) state := by
  rw [map_eq_pure_bind, keeps_bind]
  rfl

def Config.map (f : α → β) (config : Config Tid S Op Answer α) : Config Tid S Op Answer β where
  shared := config.shared
  threads := fun t => (config.threads t).map (f <$> ·)

theorem Config.finished_map (f : α → β) (config : Config Tid S Op Answer α) (t : Tid) :
    (config.map f).finished t = (config.finished t).map f := by
  unfold Config.finished Config.map
  dsimp only
  cases config.threads t with
  | none => rfl
  | some program => cases program <;> rfl

section Maps

variable [DecidableEq Tid] {semantics : Semantics Tid S Op Answer} {initial : S} {f : α → β}
  {Start : Program Op Answer α → Prop} {Mapped : Program Op Answer β → Prop}

theorem Config.map_update (config : Config Tid S Op Answer α) (t : Tid) (after : S)
    (program : Option (Program Op Answer α)) :
    Config.map f { shared := after, threads := Function.update config.threads t program } =
      { shared := after,
        threads := Function.update (config.map f).threads t (program.map (f <$> ·)) } := by
  unfold Config.map
  congr 1
  funext other
  by_cases own : other = t
  · subst own
    simp
  · simp [own]

theorem Config.advance_map (perform : Tid → S → (op : Op) → Answer op × S) (f : α → β)
    (config : Config Tid S Op Answer α) (t : Tid) :
    (config.map f).advance perform t = (config.advance perform t).map f := by
  cases running : config.threads t with
  | none => simp [Config.advance, Config.map, running]
  | some program =>
      have mapped : (config.map f).threads t = some (f <$> program) := by
        simp [Config.map, running]
      cases program with
      | done value => rw [Config.advance_done mapped, Config.advance_done running]
      | call op next =>
          rw [Config.advance_call mapped, Config.advance_call running, Config.map_update]
          rfl

theorem Config.schedule_map (perform : Tid → S → (op : Op) → Answer op × S) (f : α → β)
    (config : Config Tid S Op Answer α) (turns : List Tid) :
    (config.map f).schedule perform turns = (config.schedule perform turns).map f := by
  induction turns generalizing config with
  | nil => rfl
  | cons t rest ih =>
      change ((config.map f).advance perform t).schedule perform rest = _
      rw [Config.advance_map, ih]
      rfl

theorem Config.started_map (f : α → β) (shared : S) (programs : List (Tid × Program Op Answer α)) :
    Config.started shared (programs.map fun entry => (entry.1, f <$> entry.2)) =
      (Config.started shared programs).map f := by
  induction programs with
  | nil => rfl
  | cons entry rest ih =>
      rw [List.map_cons, Config.started, ih, Config.started, Config.map_update]
      rfl

theorem Reachable.map {config : Config Tid S Op Answer α}
    (maps : ∀ program, Start program → Mapped (f <$> program))
    (reached : Reachable semantics Start initial config) :
    Reachable semantics Mapped initial (config.map f) := by
  induction reached with
  | initial => exact .initial
  | @step before after reached stepped ih =>
      cases stepped with
      | spawn t program idle allowed =>
          rw [Config.map_update]
          exact ih.step (.spawn t _ (by simp [Config.map, idle]) (maps program allowed))
      | call t op next answer after running executed =>
          rw [Config.map_update]
          refine ih.step (.call t op (fun answer => f <$> next answer) answer after ?_ executed)
          simp [Config.map, running, Program.map_call]
      | env after moved => exact ih.step (.env after moved)
      | halt t after stopped =>
          rw [Config.map_update]
          exact ih.step (.halt t after stopped)

end Maps

def Program.observe : Program Op Answer α → Program Op Answer (List (Exchange Op Answer) × α)
  | .done value => .done ([], value)
  | .call op next => .call op fun answer =>
      (fun seen => (⟨op, answer⟩ :: seen.1, seen.2)) <$> (next answer).observe

theorem Program.observe_erase (program : Program Op Answer α) :
    Prod.snd <$> program.observe = program := by
  induction program with
  | done value => rfl
  | call op next ih =>
      rw [observe, map_call]
      congr 1
      funext answer
      rw [← comp_map]
      exact ih answer

theorem Program.observe_bind (program : Program Op Answer α) (rest : α → Program Op Answer β) :
    (program >>= rest).observe = program.observe >>= fun first =>
      (fun second => (first.1 ++ second.1, second.2)) <$> (rest first.2).observe := by
  induction program with
  | done value => exact (id_map _).symm
  | call op next ih =>
      rw [call_bind, observe, observe, call_bind]
      congr 1
      funext answer
      rw [ih answer, map_bind, map_eq_pure_bind, bind_assoc]
      refine bind_congr fun first => ?_
      rw [← comp_map]
      rfl

/-- A program keeps the discipline and ends in `Post` of what it was told. -/
def Program.Observes (semantics : Semantics Tid S Op Answer) (discipline : Discipline Tid S)
    (t : Tid) (program : Program Op Answer α)
    (Post : List (Exchange Op Answer) → α → S → Prop) (state : S) : Prop :=
  program.observe.Keeps semantics discipline t (fun seen => Post seen.1 seen.2) state

section Rules

variable {semantics : Semantics Tid S Op Answer} {discipline : Discipline Tid S} {t : Tid}
  {Post : List (Exchange Op Answer) → α → S → Prop} {state : S}

theorem Program.observes_done (value : α) :
    (Program.done value : Program Op Answer α).Observes semantics discipline t Post state ↔
      Post [] value state := Iff.rfl

theorem Program.observes_call (op : Op) (next : Answer op → Program Op Answer α) :
    (Program.call op next).Observes semantics discipline t Post state ↔
      ∀ before, discipline.Rely t state before → discipline.Inv before →
      ∀ answer after, semantics.exec t before op answer after →
        discipline.Permits t before after ∧
          (next answer).Observes semantics discipline t (fun seen => Post (⟨op, answer⟩ :: seen))
            after := by
  unfold Observes
  rw [observe, keeps_call]
  simp only [keeps_map]

theorem Program.observes_bind (program : Program Op Answer α) (rest : α → Program Op Answer β)
    {Post : List (Exchange Op Answer) → β → S → Prop} :
    (program >>= rest).Observes semantics discipline t Post state ↔
      program.Observes semantics discipline t (fun first value =>
        (rest value).Observes semantics discipline t fun second => Post (first ++ second)) state := by
  unfold Observes
  rw [observe_bind, keeps_bind]
  constructor
  · intro kept
    exact kept.mono fun first after continued => (keeps_map _ _).mp continued
  · intro kept
    exact kept.mono fun first after continued => (keeps_map _ _).mpr continued

theorem Program.Observes.mono {program : Program Op Answer α}
    {Weaker : List (Exchange Op Answer) → α → S → Prop}
    (observed : program.Observes semantics discipline t Post state)
    (implied : ∀ seen value after, Post seen value after → Weaker seen value after) :
    program.Observes semantics discipline t Weaker state :=
  Keeps.mono observed fun _ _ => implied _ _ _

end Rules

/-- Whatever it is answered, the program returns a value of the kind. -/
def Program.Yields (Kind : α → Prop) : Program Op Answer α → Prop
  | .done value => Kind value
  | .call _ next => ∀ answer, (next answer).Yields Kind

theorem Program.yields_bind {Kind : β → Prop} (program : Program Op Answer α)
    (rest : α → Program Op Answer β) :
    (program >>= rest).Yields Kind ↔ program.Yields fun value => (rest value).Yields Kind := by
  induction program with
  | done value => exact Iff.rfl
  | call op next ih => exact forall_congr' ih

theorem Program.yields_map {Kind : β → Prop} (f : α → β) (program : Program Op Answer α) :
    (f <$> program).Yields Kind ↔ program.Yields fun value => Kind (f value) := by
  rw [map_eq_pure_bind, yields_bind]
  rfl

theorem Program.yields_observe (Kind : α → Prop) (program : Program Op Answer α) :
    program.observe.Yields (fun seen => Kind seen.2) ↔ program.Yields Kind := by
  rw [← yields_map Prod.snd, observe_erase]

theorem Program.Yields.mono {Kind Weaker : α → Prop} {program : Program Op Answer α}
    (yields : program.Yields Kind) (implied : ∀ value, Kind value → Weaker value) :
    program.Yields Weaker := by
  induction program with
  | done value => exact implied value yields
  | call op next ih => exact fun answer => ih answer (yields answer)

theorem Program.yields_all {Kind : α → Prop} (all : ∀ value, Kind value)
    (program : Program Op Answer α) : program.Yields Kind := by
  induction program with
  | done value => exact all value
  | call op next ih => exact ih

theorem Program.Observes.yields {semantics : Semantics Tid S Op Answer}
    {discipline : Discipline Tid S} {t : Tid} {Kind : α → Prop} {program : Program Op Answer α}
    {Post : List (Exchange Op Answer) → α → S → Prop} {state : S}
    (observed : program.Observes semantics discipline t Post state) (yields : program.Yields Kind) :
    program.Observes semantics discipline t
      (fun seen value after => Kind value ∧ Post seen value after) state := by
  induction program generalizing Post state with
  | done value => exact ⟨yields, observed⟩
  | call op next ih =>
      rw [Program.observes_call] at observed ⊢
      intro before relied holds answer after executed
      obtain ⟨permitted, continued⟩ := observed before relied holds answer after executed
      exact ⟨permitted, ih answer continued (yields answer)⟩

end MandateLedger.Process
