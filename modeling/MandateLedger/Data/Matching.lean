import Mathlib.Combinatorics.Hall.Basic
import Mathlib.Algebra.BigOperators.Group.Finset.Basic
import Mathlib.Algebra.Order.BigOperators.Group.Finset

namespace MandateLedger.Data

open Finset

variable {ι κ γ : Type} [DecidableEq κ] [DecidableEq γ] {kind : ι → γ} {supplies : ι → Finset κ}

/-- Demands of distinct kinds never compete. -/
structure ByKind (kind : ι → γ) (supplies : ι → Finset κ) : Prop where
  same : ∀ {i j}, kind i = kind j → supplies i = supplies j
  apart : ∀ {i j}, kind i ≠ kind j → Disjoint (supplies i) (supplies j)

theorem ByKind.card_biUnion [DecidableEq ι] (byKind : ByKind kind supplies) (demands : Finset ι)
    {chosen : γ → ι} (representative : ∀ i ∈ demands, kind (chosen (kind i)) = kind i) :
    #(demands.biUnion supplies) = ∑ c ∈ demands.image kind, #(supplies (chosen c)) := by
  have union : demands.biUnion supplies =
      (demands.image kind).biUnion fun c => supplies (chosen c) := by
    rw [image_biUnion]
    refine biUnion_congr rfl fun i member => ?_
    exact byKind.same (representative i member).symm
  rw [union, Finset.card_biUnion]
  intro c member c' member' different
  obtain ⟨i, inside, rfl⟩ := mem_image.mp member
  obtain ⟨j, inside', rfl⟩ := mem_image.mp member'
  apply byKind.apart
  rwa [representative i inside, representative j inside']

/-- Distinct supplies for all demands exist exactly when no kind is short of them. -/
theorem ByKind.exists_injective_iff [Fintype ι] [DecidableEq ι] (byKind : ByKind kind supplies) :
    (∃ assigned : ι → κ, Function.Injective assigned ∧ ∀ i, assigned i ∈ supplies i) ↔
      ∀ i, #{j | kind j = kind i} ≤ #(supplies i) := by
  rw [← all_card_le_biUnion_card_iff_exists_injective]
  constructor
  · intro hall i
    have shared : ({j | kind j = kind i} : Finset ι).biUnion supplies ⊆ supplies i := by
      apply biUnion_subset.mpr
      intro j member
      rw [byKind.same (mem_filter.mp member).2]
    exact (hall _).trans (card_le_card shared)
  · intro enough demands
    rcases demands.eq_empty_or_nonempty with rfl | ⟨demand, _⟩
    · simp
    -- one demand stands for all of its kind
    have : Nonempty ι := ⟨demand⟩
    have representative : ∀ i ∈ demands, kind (Function.invFun kind (kind i)) = kind i :=
      fun i _ => Function.invFun_eq ⟨i, rfl⟩
    rw [byKind.card_biUnion demands representative, card_eq_sum_card_image kind demands]
    refine sum_le_sum fun c member => ?_
    obtain ⟨i, inside, rfl⟩ := mem_image.mp member
    rw [byKind.same (representative i inside)]
    exact (card_le_card (filter_subset_filter _ (subset_univ _))).trans (enough i)

end MandateLedger.Data
