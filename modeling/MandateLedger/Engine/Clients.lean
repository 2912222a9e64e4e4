import MandateLedger.Adapters.Mock
import MandateLedger.Memory.Chains

namespace MandateLedger.Engine

open MandateLedger.Core MandateLedger.Data MandateLedger.Memory MandateLedger.Process

variable {Proof Evidence Tid : Type} {externals : Externals} {world after : World Proof Evidence}

theorem World.Exec.traced {op : Op Proof Evidence} {answer : op.Answer}
    (executed : world.Exec externals op answer after)
    (reached : Traced.Reachable externals world.traced) :
    Traced.Reachable externals after.traced := by
  cases executed.leaves with
  | reads => exact reached
  | revokes mandate answer => exact reached.tail (.revoke world.traced mandate)
  | appends ctx now body =>
      rw [World.append_traced]
      exact reached.tail (.append world.traced ctx now body)
  | verifies | judges =>
      rw [World.traced_saw rfl]
      exact reached

/-- The store of any interleaving of any programs is in a state of its own runs. -/
theorem reachable_traced {α : Type} [DecidableEq Tid]
    {Start : Program (Op Proof Evidence) Op.Answer α → Prop}
    {config : Config Tid (World Proof Evidence) (Op Proof Evidence) Op.Answer α}
    (reached : Process.Reachable (semantics Tid externals) Start World.empty config) :
    Traced.Reachable externals config.shared.traced := by
  induction reached with
  | initial => exact .refl
  | @step before _ _ stepped ih =>
      cases stepped with
      | spawn => exact ih
      | call t op next answer after running executed => exact executed.traced ih
      | env after moved =>
          obtain ⟨instant, rfl⟩ := moved
          exact ih.tail (.prune before.shared.traced instant)
      | halt t after stopped =>
          cases stopped
          exact ih

theorem World.complete_evidence (around : Surroundings Proof Evidence) (ctx : ContextId)
    (stored : world.inner.chain ctx ≠ []) :
    world.complete externals around (Ledger.evidence ctx).run =
      (.ok (some (EvidenceBundle.new ctx around.now (world.inner.chain ctx))), world) := by
  have events : world.complete externals around (Ledger.events ctx).run =
      (.ok (world.inner.chain ctx), world) := rfl
  rw [Ledger.evidence, World.complete_bind, events]
  dsimp only
  rw [if_neg stored]
  rfl

/-- In every interleaving of ledger calls, direct appends and prunes, the
evidence of a context with a stored event verifies. -/
theorem evidence_verifies {α : Type} [DecidableEq Tid]
    {Start : Program (Op Proof Evidence) Op.Answer α → Prop}
    {config : Config Tid (World Proof Evidence) (Op Proof Evidence) Op.Answer α}
    (reached : Process.Reachable (semantics Tid externals) Start World.empty config)
    (around : Surroundings Proof Evidence) {ctx : ContextId}
    (stored : config.shared.inner.chain ctx ≠ []) :
    ∃ bundle, config.shared.complete externals around (Ledger.evidence ctx).run =
        (.ok (some bundle), config.shared) ∧
      bundle.ctx = ctx ∧ bundle.events = config.shared.inner.chain ctx ∧
      bundle.verify externals = .ok () := by
  refine ⟨_, World.complete_evidence around ctx stored, rfl, rfl, ?_⟩
  have chained := Chained.run (reachable_traced reached)
  exact verify_eq_ok.mpr ⟨rfl, stored, chained.chain_intact ctx⟩

/-- A request to expire a context nobody opened. -/
def strayExpiry : Request Adapters.MockProof Adapters.MockFinality :=
  .expire ⟨Sample.secondCtx, Sample.mandateId, Sample.cartHash, Sample.merchant, Sample.cents 6000⟩

/-- The context is refused, pruned, and refused again. -/
def restarted : World Adapters.MockProof Adapters.MockFinality :=
  ((Adapters.Sample.served [(10, strayExpiry), (11, strayExpiry)]).prune ⟨50⟩).serve
    Sample.externals [(Adapters.Sample.rail.surroundings ⟨60⟩, strayExpiry)]

theorem restarted_reachable :
    Reachable Sample.externals {Adapters.Sample.ledger}
      (⟨restarted, fun _ : Unit => none⟩ : Config ..) := by
  have served := Adapters.Sample.served_reachable [(10, strayExpiry), (11, strayExpiry)]
    (by simp [strayExpiry, Request.ledger?])
  exact Reachable.serve (served.step (.env _ ⟨⟨50⟩, rfl⟩)) () rfl _
    (by simp [strayExpiry, Request.ledger?])

theorem restarted_verifies :
    (restarted.inner.chain Sample.secondCtx).map Event.seq = [3] ∧
      ∃ bundle, restarted.complete Sample.externals (Adapters.Sample.rail.surroundings ⟨70⟩)
          (Ledger.evidence Sample.secondCtx).run = (.ok (some bundle), restarted) ∧
        bundle.ctx = Sample.secondCtx ∧
        bundle.events = restarted.inner.chain Sample.secondCtx ∧
        bundle.verify Sample.externals = .ok () :=
  ⟨by decide +kernel, evidence_verifies restarted_reachable _ (by decide +kernel)⟩

end MandateLedger.Engine
