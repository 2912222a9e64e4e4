import MandateLedger.Core.Nonces
import MandateLedger.Memory.Lifecycle

namespace MandateLedger.Memory

open MandateLedger.Core MandateLedger.Data

section Nonces

variable {ops : DecimalOps} {externals : Externals} {traced : Traced}

theorem reserve_frame (inner : Inner) (now : Timestamp) (window : Option Int64)
    (mandate : MandateId) (next : Money) :
    (inner.reserve now window mandate next).nonces = inner.nonces ∧
      (inner.reserve now window mandate next).records = inner.records := by
  simp only [Inner.reserve, Inner.widen]
  split <;> exact ⟨rfl, rfl⟩

theorem spent_logged (spent : Spent traced.inner.nonces traced.inner.records traced.history)
    {now : Timestamp} {event : Event} {tables : Inner}
    (writes : traced.inner.Writes ops event.ctx now event.body tables) :
    Spent tables.nonces tables.records (traced.history ++ [event]) := by
  generalize body : event.body = written at writes
  cases writes with
  | authorized absent =>
      simp only [Inner.putRecord, reserve_frame]
      exact spent.other (by rw [body]; rfl) (.opened absent)
  | paid found legal free =>
      rw [← body]
      exact spent.claim (by rw [body]; rfl) (by rw [body]; rfl) (spent.unclaimed found legal free) _
  | @moved _ target record moves plain found legal =>
      have other : target ≠ .paid ∧ target ≠ .authorized := by
        rcases plain with rfl | rfl | rfl <;> decide
      subst body
      exact spent.other (EventBody.nonce?_eq_none moves other.1) (.advanced moves other.2)
  | @released _ target record next moves giving found legal =>
      have other : target ≠ .paid ∧ target ≠ .authorized := by
        rcases giving with rfl | rfl <;> decide
      subst body
      exact spent.other (EventBody.nonce?_eq_none moves other.1) (.advanced moves other.2)
  | denied => exact spent.other (by rw [body]; rfl) .refl

theorem spent_step {before after : Traced} (stepped : Traced.Step externals before after)
    (spent : Spent before.inner.nonces before.inner.records before.history) :
    Spent after.inner.nonces after.inner.records after.history := by
  cases stepped.moved with
  | same | revoked => exact spent
  | logged writes built =>
      have logged := spent_logged spent writes
      exact logged
  | pruned instant =>
      obtain ⟨events, byCtx, pruned⟩ := before.inner.prune_frame instant
      rw [Traced.prune, pruned]
      exact spent

theorem reachable_spent (reached : Traced.Reachable externals traced) :
    Spent traced.inner.nonces traced.inner.records traced.history := by
  induction reached with
  | refl => exact .empty
  | tail reached stepped ih => exact spent_step stepped ih

/-- An append that adds no event leaves the store as it was. -/
theorem append_unchanged (inner : Inner) (ctx : ContextId) (now : Timestamp) (body : EventBody)
    (refused : appendedEvent (inner.append externals ctx now body).1 = none) :
    (inner.append externals ctx now body).2 = inner := by
  rcases inner.append_cases externals ctx now body with
    ⟨result, appended, -⟩ | ⟨event, tables, -, -, appended⟩
  · rw [appended]
  · rw [appended] at refused
    cases refused

end Nonces

end MandateLedger.Memory
