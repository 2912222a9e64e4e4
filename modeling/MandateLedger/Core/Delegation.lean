import MandateLedger.Core.Mandate
import Mathlib.Logic.Relation

namespace MandateLedger.Core

open MandateLedger.Data

theorem endsWith_iff {text ending : String} :
    endsWith text ending = true ↔ ending.toList <:+ text.toList :=
  List.isSuffixOf_iff_suffix

theorem utf8ByteSize_le_of_endsWith {text ending : String} (ends : endsWith text ending = true) :
    ending.utf8ByteSize ≤ text.utf8ByteSize := by
  obtain ⟨front, split⟩ := endsWith_iff.mp ends
  have same : text = String.ofList front ++ ending := by
    rw [← String.toList_inj, String.toList_append, String.toList_ofList, split]
  rw [same, String.utf8ByteSize_append]
  exact Nat.le_add_left _ _

namespace MerchantPattern

variable {first second third : MerchantPattern}

theorem isSubsetOf_refl (pattern : MerchantPattern) : pattern.isSubsetOf pattern = true := by
  cases pattern with
  | any => rfl
  | exact name => exact beq_self_eq_true name
  | suffix ending => exact endsWith_iff.mpr (List.suffix_refl _)

/-- A pattern matches a merchant exactly when the merchant, as a pattern, is in it. -/
theorem admitsMerchant_eq (pattern : MerchantPattern) (merchant : MerchantId) :
    pattern.admitsMerchant merchant = (exact merchant.val).isSubsetOf pattern := by
  cases pattern with
  | any => rfl
  | exact name => exact Bool.beq_comm
  | suffix ending => rfl

theorem isSubsetOf_trans (lower : first.isSubsetOf second = true)
    (upper : second.isSubsetOf third = true) : first.isSubsetOf third = true := by
  cases third with
  | any => cases first <;> rfl
  | exact name =>
      cases second with
      | exact middle =>
          obtain rfl := beq_iff_eq.mp upper
          exact lower
      | _ => cases upper
  | suffix ending =>
      cases second with
      | any => cases upper
      | exact middle =>
          cases first with
          | exact name =>
              obtain rfl := beq_iff_eq.mp lower
              exact upper
          | _ => cases lower
      | suffix middle =>
          have shorter := utf8ByteSize_le_of_endsWith upper
          cases first with
          | any => cases lower
          | exact name =>
              simp only [isSubsetOf, Bool.and_eq_true, decide_eq_true_eq] at lower ⊢
              exact ⟨Nat.lt_of_le_of_lt shorter lower.1,
                endsWith_iff.mpr ((endsWith_iff.mp upper).trans (endsWith_iff.mp lower.2))⟩
          | suffix name =>
              exact endsWith_iff.mpr ((endsWith_iff.mp upper).trans (endsWith_iff.mp lower))

theorem admitsMerchant_mono {merchant : MerchantId} (subset : first.isSubsetOf second = true)
    (admitted : first.admitsMerchant merchant = true) : second.admitsMerchant merchant = true := by
  rw [admitsMerchant_eq] at admitted ⊢
  exact isSubsetOf_trans admitted subset

end MerchantPattern

namespace Scope

/-- `cap_within`. -/
def capWithin : Option Money → Option Money → Bool
  | _, none => true
  | none, some _ => false
  | some child, some parent =>
      match child.cmpSameCurrency parent with
      | .ok order => order != .gt
      | .error _ => false

def categoriesWithin : Option (List Category) → Option (List Category) → Bool
  | _, none => true
  | none, some _ => false
  | some child, some parent => child.all (parent.contains ·)

def velocityWithin : Option Velocity → Option Velocity → Bool
  | _, none => true
  | none, some _ => false
  | some child, some parent =>
      decide (child.maxCount ≤ parent.maxCount) && decide (parent.windowSecs ≤ child.windowSecs)

/-- `Scope::is_subset_of`. -/
def isSubsetOf (scope parent : Scope) : Bool :=
  if scope.currency ≠ parent.currency then false
  else
    scope.merchants.all (fun child => parent.merchants.any fun pattern => child.isSubsetOf pattern) &&
    categoriesWithin scope.categories parent.categories &&
    capWithin scope.maxPerTxn parent.maxPerTxn &&
    capWithin scope.maxTotal parent.maxTotal &&
    decide (parent.validFrom ≤ scope.validFrom) &&
    decide (scope.validUntil ≤ parent.validUntil) &&
    velocityWithin scope.velocity parent.velocity &&
    decide (parent.minAttestation.rank ≤ scope.minAttestation.rank)

def Tighter {α : Type} (order : α → α → Prop) (child parent : Option α) : Prop :=
  ∀ limit, parent = some limit → ∃ own, child = some own ∧ order own limit

theorem Tighter.refl {α : Type} {order : α → α → Prop} (reflexive : ∀ limit, order limit limit)
    (limit : Option α) : Tighter order limit limit :=
  fun own found => ⟨own, found, reflexive own⟩

theorem Tighter.trans {α : Type} {order : α → α → Prop} {child middle parent : Option α}
    (transitive : ∀ {one two three}, order one two → order two three → order one three)
    (lower : Tighter order child middle) (upper : Tighter order middle parent) :
    Tighter order child parent := by
  intro limit found
  obtain ⟨between, given, within⟩ := upper limit found
  obtain ⟨own, has, below⟩ := lower between given
  exact ⟨own, has, transitive below within⟩

def AmountLe (child parent : Money) : Prop :=
  child.currency = parent.currency ∧ child.value ≤ parent.value

/-- At most as many, in a window at least as long. -/
def VelocityLe (child parent : Velocity) : Prop :=
  child.maxCount ≤ parent.maxCount ∧ parent.windowSecs ≤ child.windowSecs

/-- What the test decides. -/
structure Within (child parent : Scope) : Prop where
  currency : child.currency = parent.currency
  merchants : ∀ pattern ∈ child.merchants, ∃ other ∈ parent.merchants,
    pattern.isSubsetOf other = true
  categories : Tighter (· ⊆ ·) child.categories parent.categories
  perTxn : Tighter AmountLe child.maxPerTxn parent.maxPerTxn
  total : Tighter AmountLe child.maxTotal parent.maxTotal
  starts : parent.validFrom ≤ child.validFrom
  ends : child.validUntil ≤ parent.validUntil
  velocity : Tighter VelocityLe child.velocity parent.velocity
  attestation : parent.minAttestation.rank ≤ child.minAttestation.rank

theorem cmpSameCurrency_not_gt {child parent : Money} :
    AmountLe child parent ↔ ∃ order, child.cmpSameCurrency parent = .ok order ∧ order ≠ .gt := by
  simp only [AmountLe, Money.cmpSameCurrency_eq_ok]
  constructor
  · intro within
    refine ⟨_, ⟨within.1, rfl⟩, ?_⟩
    rw [Ne, Decimal.cmp_eq_gt_iff, not_lt]
    exact within.2
  · intro compared
    obtain ⟨order, ⟨same, rfl⟩, notGreater⟩ := compared
    rw [Ne, Decimal.cmp_eq_gt_iff, not_lt] at notGreater
    exact ⟨same, notGreater⟩

theorem capWithin_iff {child parent : Option Money} :
    capWithin child parent = true ↔ Tighter AmountLe child parent := by
  cases parent with
  | none => cases child <;> simp [capWithin, Tighter]
  | some limit =>
      cases child with
      | none => simp [capWithin, Tighter]
      | some own =>
          simp only [capWithin, Tighter, Option.some.injEq, forall_eq', exists_eq_left',
            cmpSameCurrency_not_gt]
          cases own.cmpSameCurrency limit <;> simp

theorem categoriesWithin_iff {child parent : Option (List Category)} :
    categoriesWithin child parent = true ↔ Tighter (· ⊆ ·) child parent := by
  cases parent with
  | none => cases child <;> simp [categoriesWithin, Tighter]
  | some allowed =>
      cases child with
      | none => simp [categoriesWithin, Tighter]
      | some own => simp [categoriesWithin, Tighter, List.subset_def]

theorem velocityWithin_iff {child parent : Option Velocity} :
    velocityWithin child parent = true ↔ Tighter VelocityLe child parent := by
  cases parent with
  | none => cases child <;> simp [velocityWithin, Tighter]
  | some limit =>
      cases child with
      | none => simp [velocityWithin, Tighter]
      | some own => simp [velocityWithin, Tighter, VelocityLe]

theorem isSubsetOf_iff {child parent : Scope} :
    child.isSubsetOf parent = true ↔ child.Within parent := by
  unfold isSubsetOf
  by_cases same : child.currency = parent.currency
  · simp only [same, ne_eq, not_true_eq_false, if_false, Bool.and_eq_true, decide_eq_true_eq,
      List.all_eq_true, List.any_eq_true, capWithin_iff, categoriesWithin_iff, velocityWithin_iff]
    constructor
    · intro checks
      obtain ⟨⟨⟨⟨⟨⟨⟨merchants, categories⟩, perTxn⟩, total⟩, starts⟩, ends⟩, velocity⟩, attestation⟩ :=
        checks
      exact ⟨same, merchants, categories, perTxn, total, starts, ends, velocity, attestation⟩
    · intro within
      exact ⟨⟨⟨⟨⟨⟨⟨within.merchants, within.categories⟩, within.perTxn⟩, within.total⟩,
        within.starts⟩, within.ends⟩, within.velocity⟩, within.attestation⟩
  · simp only [same, ne_eq, not_false_eq_true, if_true, Bool.false_eq_true, false_iff]
    intro within
    exact same within.currency

theorem AmountLe.trans {first second third : Money} (lower : AmountLe first second)
    (upper : AmountLe second third) : AmountLe first third :=
  ⟨lower.1.trans upper.1, lower.2.trans upper.2⟩

theorem Within.refl (scope : Scope) : scope.Within scope where
  currency := rfl
  merchants pattern listed := ⟨pattern, listed, pattern.isSubsetOf_refl⟩
  categories := .refl (fun _ => List.Subset.refl _) _
  perTxn := .refl (fun _ => ⟨rfl, le_rfl⟩) _
  total := .refl (fun _ => ⟨rfl, le_rfl⟩) _
  starts := Int64.le_refl _
  ends := Int64.le_refl _
  velocity := .refl (fun _ => ⟨UInt32.le_refl _, Int64.le_refl _⟩) _
  attestation := Nat.le_refl _

theorem Within.trans {first second third : Scope} (lower : first.Within second)
    (upper : second.Within third) : first.Within third where
  currency := lower.currency.trans upper.currency
  merchants := by
    intro pattern listed
    obtain ⟨middle, found, below⟩ := lower.merchants pattern listed
    obtain ⟨top, last, above⟩ := upper.merchants middle found
    exact ⟨top, last, MerchantPattern.isSubsetOf_trans below above⟩
  categories := lower.categories.trans List.Subset.trans upper.categories
  perTxn := lower.perTxn.trans AmountLe.trans upper.perTxn
  total := lower.total.trans AmountLe.trans upper.total
  starts := Int64.le_trans upper.starts lower.starts
  ends := Int64.le_trans lower.ends upper.ends
  velocity := lower.velocity.trans
    (fun one two => ⟨UInt32.le_trans one.1 two.1, Int64.le_trans two.2 one.2⟩) upper.velocity
  attestation := upper.attestation.trans lower.attestation

/-- Whatever a narrower scope admits, the wider one admits. -/
theorem Within.admits {child parent : Scope} (within : child.Within parent) {claims : ScopeClaims}
    {attestation : Attestation} {now : Timestamp}
    (admitted : child.admits claims attestation now = .ok ()) :
    parent.admits claims attestation now = .ok () := by
  rw [admits_eq_ok] at admitted ⊢
  constructor
  · intro early
    exact admitted.started (Int64.lt_of_lt_of_le early within.starts)
  · intro late
    exact admitted.notExpired (Int64.lt_of_le_of_lt within.ends late)
  · exact within.attestation.trans admitted.attested
  · obtain ⟨pattern, listed, matched⟩ := admitted.merchant
    obtain ⟨other, found, subset⟩ := within.merchants pattern listed
    exact ⟨other, found, MerchantPattern.admitsMerchant_mono subset matched⟩
  · intro allowed limited
    obtain ⟨own, given, contained⟩ := within.categories allowed limited
    obtain ⟨category, listed, claimed⟩ := admitted.category own given
    exact ⟨category, contained listed, claimed⟩
  · exact admitted.currency.trans within.currency
  · exact admitted.nonnegative
  · intro cap limited
    obtain ⟨own, given, below⟩ := within.perTxn cap limited
    exact AmountLe.trans (admitted.capped own given) below

end Scope

namespace MandateBody

/-- `MandateBody::attenuate`. -/
def attenuate (body : MandateBody) (id : MandateId) (agent : AgentId) (scope : Scope)
    (issuedAt : Timestamp) : Except MandateError MandateBody := do
  scope.validate
  ensure (scope.isSubsetOf body.scope = true) (.notSubset id)
  return { id, principal := body.principal, agent, scope, issuedAt, parent := some body.id }

def Attenuated (parent child : MandateBody) : Prop :=
  ∃ id agent scope issuedAt, parent.attenuate id agent scope issuedAt = .ok child

theorem Attenuated.within {parent child : MandateBody} (attenuated : parent.Attenuated child) :
    child.scope.Within parent.scope := by
  obtain ⟨id, agent, scope, issuedAt, made⟩ := attenuated
  obtain ⟨-, rest⟩ := check_bind_eq_ok.mp made
  obtain ⟨subset, made⟩ := check_bind_eq_ok.mp rest
  cases made
  exact Scope.isSubsetOf_iff.mp (ensure_eq_ok.mp subset)

/-- Along a chain of any length, the scope only narrows. -/
theorem within_of_chain {root leaf : MandateBody} (chain : Relation.ReflTransGen Attenuated root leaf) :
    leaf.scope.Within root.scope := by
  induction chain with
  | refl => exact .refl _
  | tail _ attenuated ih => exact attenuated.within.trans ih

end MandateBody

end MandateLedger.Core
