import Mathlib.Data.List.Basic

namespace MandateLedger.Process

variable {S T Op : Type} {Answer : Op → Type}

def answers (step : S → (op : Op) → Answer op × S) : S → List Op → List (Sigma Answer)
  | _, [] => []
  | state, op :: rest => ⟨op, (step state op).1⟩ :: answers step (step state op).2 rest

/-- Every operation meets the condition in the state it finds. -/
def Along (step : S → (op : Op) → Answer op × S) (Condition : S → Op → Prop) :
    S → List Op → Prop
  | _, [] => True
  | state, op :: rest => Condition state op ∧ Along step Condition (step state op).2 rest

instance Along.decidable (step : S → (op : Op) → Answer op × S) (Condition : S → Op → Prop)
    [∀ state op, Decidable (Condition state op)] :
    (state : S) → (ops : List Op) → Decidable (Along step Condition state ops)
  | _, [] => .isTrue trivial
  | state, op :: rest =>
      have := Along.decidable step Condition (step state op).2 rest
      inferInstanceAs (Decidable (Condition state op ∧ _))

theorem answers_eq {step : S → (op : Op) → Answer op × S} {other : T → (op : Op) → Answer op × T}
    {Condition : S → Op → Prop} {Relates : S → T → Prop}
    (steps : ∀ {state : S} {image : T} {op : Op}, Relates state image → Condition state op →
      (other image op).1 = (step state op).1 ∧ Relates (step state op).2 (other image op).2)
    {state : S} {image : T} (start : Relates state image) {ops : List Op}
    (along : Along step Condition state ops) :
    answers other image ops = answers step state ops := by
  induction ops generalizing state image with
  | nil => rfl
  | cons op rest ih =>
      obtain ⟨met, later⟩ := along
      obtain ⟨same, related⟩ := steps start met
      rw [answers, answers, same, ih related later]

end MandateLedger.Process
