import Mathlib.Data.List.Induction

namespace MandateLedger.Data

variable {ε δ : Type} {previous digest : ε → δ} {anchor : δ}

/-- Each entry names the digest of the one before it, the first one the anchor. -/
def Linked (previous digest : ε → δ) : δ → List ε → Prop
  | _, [] => True
  | anchor, entry :: rest => previous entry = anchor ∧ Linked previous digest (digest entry) rest

/-- The digest the next entry has to name. -/
def tip (digest : ε → δ) (anchor : δ) (entries : List ε) : δ :=
  (entries.getLast?.map digest).getD anchor

@[simp] theorem tip_nil : tip digest anchor [] = anchor := rfl

@[simp] theorem tip_append (entries : List ε) (entry : ε) :
    tip digest anchor (entries ++ [entry]) = digest entry := by
  simp [tip]

theorem tip_cons (entry : ε) (rest : List ε) :
    tip digest anchor (entry :: rest) = tip digest (digest entry) rest := by
  cases rest with
  | nil => rfl
  | cons next rest => simp [tip, List.getLast?_cons]

theorem linked_append {entries : List ε} {entry : ε} :
    Linked previous digest anchor (entries ++ [entry]) ↔
      Linked previous digest anchor entries ∧ previous entry = tip digest anchor entries := by
  induction entries generalizing anchor with
  | nil => simp [Linked]
  | cons first rest ih => simp [Linked, ih, tip_cons, and_assoc]

/-- The last digest pins the list: from the end backwards, each entry is
determined by its digest and names the digest of the one before; the anchor
stops both lists at once. -/
theorem Linked.eq_of_tip {left right : List ε} (leftLinked : Linked previous digest anchor left)
    (rightLinked : Linked previous digest anchor right)
    (determined : ∀ entry ∈ left, ∀ other ∈ right, digest entry = digest other → entry = other)
    (leftAnchored : ∀ entry ∈ left, digest entry ≠ anchor)
    (rightAnchored : ∀ entry ∈ right, digest entry ≠ anchor)
    (same : tip digest anchor left = tip digest anchor right) : left = right := by
  induction left using List.reverseRecOn generalizing right with
  | nil =>
      rcases right.eq_nil_or_concat with rfl | ⟨rest, last, rfl⟩
      · rfl
      · rw [tip_nil, List.concat_eq_append, tip_append] at same
        exact absurd same.symm (rightAnchored last (by simp))
  | append_singleton rest last ih =>
      rcases right.eq_nil_or_concat with rfl | ⟨other, final, rfl⟩
      · rw [tip_nil, tip_append] at same
        exact absurd same (leftAnchored last (by simp))
      · rw [List.concat_eq_append] at *
        rw [tip_append, tip_append] at same
        obtain rfl := determined last (by simp) final (by simp) same
        rw [linked_append] at leftLinked rightLinked
        have earlier := ih leftLinked.1 rightLinked.1
          (fun entry listed found member =>
            determined entry (by simp [listed]) found (by simp [member]))
          (fun entry listed => leftAnchored entry (by simp [listed]))
          (fun entry listed => rightAnchored entry (by simp [listed]))
          (leftLinked.2.symm.trans rightLinked.2)
        rw [earlier]

end MandateLedger.Data
