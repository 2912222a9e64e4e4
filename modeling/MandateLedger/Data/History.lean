import Mathlib.Data.List.Basic

namespace MandateLedger.Data

variable {α : Type} {Justifies : List α → α → Prop} {history : List α} {entry : α}

/-- Every entry is justified by the entries before it. -/
def Each (Justifies : List α → α → Prop) (history : List α) : Prop :=
  ∀ earlier entry later, history = earlier ++ entry :: later → Justifies earlier entry

theorem Each.nil : Each Justifies [] := by
  intro earlier entry later split
  simp at split

theorem Each.append (each : Each Justifies history) (justified : Justifies history entry) :
    Each Justifies (history ++ [entry]) := by
  intro earlier other later split
  obtain ⟨rest, same, last⟩ | ⟨rest, same, last⟩ := List.append_eq_append_iff.mp split
  · cases rest with
    | nil =>
        rw [List.append_nil] at same
        cases last
        rw [same]
        exact justified
    | cons head tail => simp at last
  · cases rest with
    | nil =>
        rw [List.append_nil] at same
        cases last
        rw [← same]
        exact justified
    | cons head tail =>
        cases last
        exact each earlier other tail same

theorem Each.of_mem (each : Each Justifies history) (listed : entry ∈ history) :
    ∃ earlier, earlier <+: history ∧ Justifies earlier entry := by
  obtain ⟨earlier, later, rfl⟩ := List.append_of_mem listed
  exact ⟨earlier, List.prefix_append _ _, each earlier entry later rfl⟩

end MandateLedger.Data
