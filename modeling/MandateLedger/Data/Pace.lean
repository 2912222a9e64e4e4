import MandateLedger.Data.History
import Mathlib.Data.List.Induction

namespace MandateLedger.Data

/-! # Pacing

Arrivals at integer instants, in the order they came, which need not be the
order of the instants.  Each arrival looks back over one width, from its own
instant, at those that came before it.  Whatever window of that width is looked
at later, the last of its arrivals to come has seen all the others.
-/

/-- Each arrival finds fewer than `limit` earlier ones no more than `width` before it. -/
def Paced (width : Int) (limit : Nat) (arrivals : List Int) : Prop :=
  Each (fun earlier instant => earlier.countP (fun other => instant - width ≤ other) < limit) arrivals

theorem Paced.nil {width : Int} {limit : Nat} : Paced width limit [] := Each.nil

theorem Paced.init {width : Int} {limit : Nat} {arrivals : List Int} {last : Int}
    (paced : Paced width limit (arrivals ++ [last])) :
    Paced width limit arrivals ∧
      arrivals.countP (fun other => last - width ≤ other) < limit := by
  refine ⟨?_, paced arrivals last [] rfl⟩
  intro earlier instant later split
  exact paced earlier instant (later ++ [last]) (by simp [split])

theorem Paced.window_le {width : Int} {limit : Nat} {arrivals : List Int}
    (paced : Paced width limit arrivals) (start : Int) :
    arrivals.countP (fun instant => start ≤ instant ∧ instant ≤ start + width) ≤ limit := by
  induction arrivals using List.reverseRecOn with
  | nil => simp
  | append_singleton arrivals last ih =>
      obtain ⟨earlier, fewer⟩ := paced.init
      rw [List.countP_append, List.countP_singleton]
      by_cases inside : start ≤ last ∧ last ≤ start + width
      · -- the last arrival looked back past the start of the window
        have seen : arrivals.countP (fun instant => start ≤ instant ∧ instant ≤ start + width) ≤
            arrivals.countP (fun other => last - width ≤ other) := by
          apply List.countP_mono_left
          intro instant _ within
          simp only [decide_eq_true_eq] at within ⊢
          omega
        simp only [inside, and_self, decide_true, if_true]
        omega
      · simpa [inside] using ih earlier

end MandateLedger.Data
