import MandateLedger.Core.Evidence
import MandateLedger.Memory.Lifecycle

namespace MandateLedger.Memory

open MandateLedger.Core MandateLedger.Data

/-- The log is in the order of its sequence numbers, which stay below the
counter, and each context's part of it is an intact chain. -/
structure Chained (externals : Externals) (inner : Inner) : Prop where
  indexed : inner.byCtx = Inner.index inner.events
  numbered : ∀ event ∈ inner.events, event.seq ≤ inner.lastSeq
  intact : ∀ ctx, Intact externals ctx .zero 0 (inner.events.filter fun event => event.ctx = ctx)

namespace Chained

variable {externals : Externals} {inner : Inner}

theorem empty : Chained externals .empty where
  indexed := rfl
  numbered := by simp [Inner.empty]
  intact ctx := intact_nil

/-- The hash the next event of a context has to name. -/
theorem prevHash_eq (chained : Chained externals inner) (ctx : ContextId) :
    inner.prevHash ctx =
      tip Event.hash .zero (inner.events.filter fun event => event.ctx = ctx) := by
  rw [Inner.prevHash, Inner.chain_eq chained.indexed, tip]
  cases (inner.events.filter fun event => event.ctx = ctx).getLast? <;> rfl

theorem log (chained : Chained externals inner) {tables : Inner} {event : Event} {now : Timestamp}
    {body : EventBody} {ctx : ContextId}
    (writes : inner.Writes externals.decimals ctx now body tables)
    (built : Event.new externals (inner.prevHash ctx) (inner.lastSeq + 1) ctx now body =
      .ok event) : Chained externals (tables.log event) := by
  obtain ⟨events, byCtx, lastSeq, -⟩ := writes.frame
  obtain ⟨seq, own, -, prevHash, -, hashed⟩ := Event.new_eq_ok built
  have grown : (tables.log event).events = inner.events ++ [event] := by
    rw [← events]
    rfl
  have counted : (tables.log event).lastSeq = inner.lastSeq + 1 := seq
  refine ⟨Inner.index_log (by rw [byCtx, events, chained.indexed]) event, ?_, ?_⟩
  · intro other listed
    rw [grown, List.mem_append, List.mem_singleton] at listed
    rw [counted]
    rcases listed with earlier | rfl
    · exact (chained.numbered other earlier).trans (Nat.le_succ _)
    · exact seq.le
  · intro other
    rw [grown, List.filter_append]
    by_cases same : event.ctx = other
    · have filtered : [event].filter (fun event => event.ctx = other) = [event] := by
        simp [same]
      rw [filtered]
      refine (chained.intact other).append same ?_ (by omega) ?_ hashed
      · intro earlier listed
        have := chained.numbered earlier (List.mem_filter.mp listed).1
        omega
      · rw [prevHash, ← same, own, chained.prevHash_eq]
    · simpa [same] using chained.intact other

theorem prune (chained : Chained externals inner) (before : Timestamp) :
    Chained externals (inner.prune before) := by
  unfold Inner.prune
  dsimp only
  split
  · exact ⟨chained.indexed, chained.numbered, chained.intact⟩
  · refine ⟨rfl, ?_, ?_⟩
    · intro event listed
      exact chained.numbered event (List.mem_filter.mp listed).1
    · intro ctx
      dsimp only
      rw [filter_ctx_filter]
      split
      · exact intact_nil
      · exact chained.intact ctx

theorem step {before after : Traced} (chained : Chained externals before.inner)
    (stepped : Traced.Step externals before after) : Chained externals after.inner := by
  cases stepped.moved with
  | same => exact chained
  | logged writes built => exact chained.log writes built
  | revoked mandate => exact ⟨chained.indexed, chained.numbered, chained.intact⟩
  | pruned instant => exact chained.prune instant

theorem run {traced : Traced} (reached : Traced.Reachable externals traced) :
    Chained externals traced.inner := by
  induction reached with
  | refl => exact empty
  | tail _ stepped ih => exact ih.step stepped

theorem chain_intact (chained : Chained externals inner) (ctx : ContextId) :
    Intact externals ctx .zero 0 (inner.chain ctx) := by
  rw [Inner.chain_eq chained.indexed]
  exact chained.intact ctx

end Chained

theorem Inner.Writes.uncapped {ops : DecimalOps} {inner tables : Inner} {ctx : ContextId}
    {now : Timestamp} {body : EventBody} (writes : inner.Writes ops ctx now body tables)
    (refusal : body.isDenied = true) : inner.denials ctx < denialCap := by
  have silent := EventBody.resultingState_eq_none.mpr refusal
  cases writes with
  | authorized | paid => cases silent
  | moved moves | released moves =>
      rw [silent] at moves
      cases moves
  | denied uncapped => exact uncapped

theorem Inner.denials_eq {inner : Inner} (indexed : inner.byCtx = index inner.events)
    (ctx : ContextId) :
    inner.denials ctx =
      inner.events.countP fun event => event.body.isDenied && decide (event.ctx = ctx) := by
  rw [denials, chain_eq indexed, List.countP_filter]

/-- No chain is given more refusals than the cap. -/
theorem denials_le {externals : Externals} {traced : Traced}
    (reached : Traced.Reachable externals traced) (ctx : ContextId) :
    traced.inner.denials ctx ≤ denialCap := by
  induction reached with
  | refl => exact Nat.zero_le _
  | @tail before after earlier stepped ih =>
      have chained := Chained.run earlier
      rw [Inner.denials_eq chained.indexed] at ih
      rw [Inner.denials_eq (chained.step stepped).indexed]
      cases stepped.moved with
      | same | revoked => exact ih
      | @logged event now tables writes built =>
          change (tables.events ++ [event]).countP _ ≤ _
          rw [writes.frame.1, List.countP_append, List.countP_singleton]
          split
          · next counted =>
              obtain ⟨refusal, own⟩ := Bool.and_eq_true_iff.mp counted
              have uncapped := writes.uncapped refusal
              rw [of_decide_eq_true own, Inner.denials_eq chained.indexed] at uncapped
              exact uncapped
          · exact ih
      | pruned instant => exact (before.inner.prune_sublist instant).countP_le.trans ih

end MandateLedger.Memory
