import Mathlib.Logic.Basic

namespace MandateLedger.Data

variable {ε ε' α β : Type}

/-- A check with no result besides its refusal. -/
def ensure (condition : Prop) [Decidable condition] (error : ε) : Except ε Unit :=
  if condition then .ok () else .error error

@[simp] theorem ensure_eq_ok {condition : Prop} [Decidable condition] {error : ε} {value : Unit} :
    ensure condition error = .ok value ↔ condition := by
  unfold ensure
  split <;> simp_all

@[simp] theorem ensure_eq_error {condition : Prop} [Decidable condition] {error found : ε} :
    ensure condition error = .error found ↔ ¬ condition ∧ error = found := by
  unfold ensure
  split <;> simp_all

theorem bind_eq_ok {first : Except ε α} {rest : α → Except ε β} {result : β} :
    (first >>= rest) = .ok result ↔ ∃ value, first = .ok value ∧ rest value = .ok result := by
  cases first <;> simp [bind, Except.bind]

theorem bind_eq_error {first : Except ε α} {rest : α → Except ε β} {error : ε} :
    (first >>= rest) = .error error ↔
      first = .error error ∨ ∃ value, first = .ok value ∧ rest value = .error error := by
  cases first <;> simp [bind, Except.bind]

theorem check_bind_eq_ok {check : Except ε Unit} {rest : Unit → Except ε β} {result : β} :
    (check >>= rest) = .ok result ↔ check = .ok () ∧ rest () = .ok result := by
  cases check <;> simp [bind, Except.bind]

theorem pure_eq_ok {value result : α} :
    (pure value : Except ε α) = .ok result ↔ value = result := by
  simp [pure, Except.pure]

@[simp] theorem ok_bind (value : α) (rest : α → Except ε β) :
    (Except.ok value >>= rest) = rest value := rfl

@[simp] theorem error_bind (error : ε) (rest : α → Except ε β) :
    (Except.error error >>= rest) = .error error := rfl

@[simp] theorem mapError_ok (function : ε → ε') (value : α) :
    (Except.ok value : Except ε α).mapError function = .ok value := rfl

@[simp] theorem mapError_error (function : ε → ε') (error : ε) :
    (Except.error error : Except ε α).mapError function = .error (function error) := rfl

theorem mapError_eq_ok {function : ε → ε'} {outcome : Except ε α} {result : α} :
    outcome.mapError function = .ok result ↔ outcome = .ok result := by
  cases outcome <;> simp

theorem mapError_eq_error {function : ε → ε'} {outcome : Except ε α} {error : ε'} :
    outcome.mapError function = .error error ↔
      ∃ cause, outcome = .error cause ∧ function cause = error := by
  cases outcome <;> simp

/-- Items that are each read back are read back together. -/
theorem mapM_map_eq_ok {write : α → β} {read : β → Except ε α} {items : List α}
    (kept : ∀ item ∈ items, read (write item) = .ok item) :
    (items.map write).mapM read = .ok items := by
  induction items with
  | nil => rfl
  | cons first rest ih =>
      have head := kept first List.mem_cons_self
      have tail := ih fun item listed => kept item (List.mem_cons_of_mem _ listed)
      rw [List.map_cons, List.mapM_cons, head, ok_bind, tail]
      rfl

end MandateLedger.Data
