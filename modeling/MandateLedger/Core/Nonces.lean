import MandateLedger.Core.Store

namespace MandateLedger.Core

open MandateLedger.Data

def EventBody.nonce? : EventBody → Option (String × String)
  | .paid rail _ nonce _ _ => some (rail, nonce)
  | _ => none

theorem EventBody.nonce?_eq_none {body : EventBody} {target : PaymentState}
    (moves : body.resultingState = some target) (other : target ≠ .paid) : body.nonce? = none := by
  cases body with
  | paid => exact absurd (Option.some.inj moves).symm other
  | _ => rfl

/-- The payments made with a nonce. -/
def payments (key : String × String) (history : List Event) : List Event :=
  history.filter fun event => event.body.nonce? = some key

structure Spent (nonces : Table (String × String) ContextId) (records : Table ContextId Record)
    (history : List Event) : Prop where
  once : ∀ key, (payments key history).map Event.ctx = (nonces.lookup key).toList
  paid : ∀ event ∈ history, event.body.nonce?.isSome = true →
    ∃ record, records.lookup event.ctx = some record ∧ record.state ≠ .authorized

/-- No context returns to `Authorized`. -/
def Onward (records later : Table ContextId Record) : Prop :=
  ∀ ctx record, records.lookup ctx = some record → record.state ≠ .authorized →
    ∃ next, later.lookup ctx = some next ∧ next.state ≠ .authorized

section Onward

variable {records : Table ContextId Record} {ctx : ContextId} {record : Record}

theorem Onward.refl : Onward records records :=
  fun _ record found later => ⟨record, found, later⟩

theorem Onward.opened (absent : records.lookup ctx = none) :
    Onward records (records.insert ctx record) := by
  intro other stored found later
  have different : other ≠ ctx := by
    rintro rfl
    rw [absent] at found
    cases found
  exact ⟨stored, (Finmap.lookup_insert_of_ne _ different).trans found, later⟩

theorem Onward.advanced {body : EventBody} {target : PaymentState}
    (moves : body.resultingState = some target) (later : target ≠ .authorized) :
    Onward records (records.insert ctx (record.advance body)) := by
  intro other stored found state
  rw [Table.lookup_insert_eq]
  by_cases same : other = ctx
  · exact ⟨record.advance body, if_pos same, (Record.advance_state moves later).symm ▸ later⟩
  · exact ⟨stored, (if_neg same).trans found, state⟩

end Onward

namespace Spent

variable {nonces : Table (String × String) ContextId} {records later : Table ContextId Record}
  {history : List Event} {event : Event} {key : String × String}

theorem empty : Spent ∅ ∅ [] := ⟨fun _ => rfl, by simp⟩

/-- A context that can be paid has not used any nonce: the one it has claimed
was spent when it left `Authorized`. -/
theorem unclaimed (spent : Spent nonces records history) {ctx : ContextId} {record : Record}
    (found : records.lookup ctx = some record) (legal : record.state.canTransitionTo .paid = true)
    (own : ∀ owner, nonces.lookup key = some owner → owner = ctx) : nonces.lookup key = none := by
  cases claimed : nonces.lookup key with
  | none => rfl
  | some owner =>
      have same := own owner claimed
      subst same
      have payers := spent.once key
      rw [claimed, Option.toList_some] at payers
      obtain ⟨payment, listed, rfl⟩ := List.mem_map.mp (payers ▸ List.mem_singleton_self owner)
      obtain ⟨past, pays⟩ := List.mem_filter.mp listed
      obtain ⟨stored, present, state⟩ := spent.paid payment past (by simp [of_decide_eq_true pays])
      rw [found] at present
      cases present
      exact absurd (PaymentState.canTransitionTo_paid.mp legal) state

theorem paid_append (spent : Spent nonces records history) (onward : Onward records later)
    (new : event.body.nonce?.isSome = true →
      ∃ record, later.lookup event.ctx = some record ∧ record.state ≠ .authorized) :
    ∀ other ∈ history ++ [event], other.body.nonce?.isSome = true →
      ∃ record, later.lookup other.ctx = some record ∧ record.state ≠ .authorized := by
  intro other listed pays
  rcases List.mem_append.mp listed with old | last
  · obtain ⟨record, found, state⟩ := spent.paid other old pays
    exact onward _ record found state
  · cases List.mem_singleton.mp last
    exact new pays

theorem other (spent : Spent nonces records history) (unpaid : event.body.nonce? = none)
    (onward : Onward records later) : Spent nonces later (history ++ [event]) where
  once key := by
    simp [payments, unpaid, ← spent.once key]
  paid := spent.paid_append onward (by simp [unpaid])

theorem claim (spent : Spent nonces records history) (pays : event.body.nonce? = some key)
    (moves : event.body.resultingState = some .paid) (free : nonces.lookup key = none)
    (record : Record) :
    Spent (nonces.insert key event.ctx) (records.insert event.ctx (record.advance event.body))
      (history ++ [event]) where
  once other := by
    have before := spent.once other
    by_cases same : other = key
    · subst same
      rw [free] at before
      have unpaid : payments other history = [] := List.map_eq_nil_iff.mp before
      rw [payments] at unpaid
      simp [payments, unpaid, pays]
    · rw [Finmap.lookup_insert_of_ne _ same, ← before]
      simp [payments, pays, Ne.symm same]
  paid := spent.paid_append (.advanced moves (by decide)) fun _ =>
    ⟨_, Finmap.lookup_insert _, by simp [Record.advance_state moves]⟩

end Spent

/-- Each nonce has paid one context, once. -/
structure NoncesOnce (nonces : Table (String × String) ContextId) (history : List Event) :
    Prop where
  once : ∀ key, (payments key history).length ≤ 1
  claimed : ∀ key ctx, nonces.lookup key = some ctx ↔ ∃ event ∈ payments key history, event.ctx = ctx

theorem Spent.noncesOnce {nonces : Table (String × String) ContextId}
    {records : Table ContextId Record} {history : List Event}
    (spent : Spent nonces records history) : NoncesOnce nonces history where
  once key := by
    rw [← List.length_map (f := Event.ctx), spent.once key]
    cases nonces.lookup key <;> simp
  claimed key ctx := by
    rw [← List.mem_map, spent.once key, Option.mem_toList]

end MandateLedger.Core
