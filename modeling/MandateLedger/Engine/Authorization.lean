import MandateLedger.Adapters.Mock
import MandateLedger.Engine.Calls

namespace MandateLedger.Engine

open MandateLedger.Core MandateLedger.Data MandateLedger.Memory MandateLedger.Process

variable {Proof Evidence : Type} {externals : Externals} {ledgers : Set Ledger}

/-- Every `Authorized` event of the history, and so of the log, is sound and the
only one of its context, and every token handed out stands for one. -/
structure AuthorizationsSound {Tid : Type} (externals : Externals) (ledgers : Set Ledger)
    (config : Config Tid (World Proof Evidence) (Op Proof Evidence) Op.Answer Response) :
    Prop where
  logged : config.shared.inner.events.Sublist config.shared.history
  sound : ∀ event ∈ config.shared.history, ∀ mandate cart requestKey,
    event.body = .authorized mandate cart requestKey →
      AuthorizedSound externals ledgers event mandate cart requestKey
  once : ∀ event ∈ config.shared.history, ∀ mandate cart requestKey,
    event.body = .authorized mandate cart requestKey →
      arrivals event.ctx .authorized config.shared.history = [event]
  tokens : ∀ t response, config.threads t = some (.done response) →
    ∀ token ∈ authorizedTokens response,
      ∃ event ∈ config.shared.history, authorizedToken event = some token

/-- In every state that any interleaving of ledger calls reaches, authorizations
are sound and tokens are truthful. -/
theorem reachable_authorizationsSound {Tid : Type} [DecidableEq Tid]
    {config : Config Tid (World Proof Evidence) (Op Proof Evidence) Op.Answer Response}
    (reached : Reachable externals ledgers config) :
    AuthorizationsSound externals ledgers config := by
  have kept := reachable_kept reached
  obtain ⟨run, each⟩ := kept.inv
  constructor
  · exact events_sublist run
  · intro event past mandate cart requestKey body
    obtain ⟨earlier, -, justified⟩ := each.of_mem (mem_history.mp past)
    simp only [Justifies, EventSound, body] at justified
    exact justified
  · intro event past mandate cart requestKey body
    exact (Lifecycle.run run).once past (by rw [body]; rfl)
  · intro t response finished token returned
    obtain ⟨event, listed, stands⟩ := kept.running t _ finished token returned
    exact ⟨event, mem_history.mpr listed, stands⟩

/-- Two identical calls that both find no record; the second loses the append and
answers from the first one's record. -/
def sampleRace : Config Bool (World Adapters.MockProof Adapters.MockFinality)
    (Op Adapters.MockProof Adapters.MockFinality) Op.Answer Response :=
  let call := (Request.authorize Adapters.Sample.ledger (Sample.mandate Sample.alice) Sample.cart
    "k1").program Sample.externals
  Config.schedule
    (fun _ world op => world.perform Sample.externals (Adapters.Sample.rail.surroundings ⟨10⟩) op)
    (.started World.empty [(true, call), (false, call)])
    [false, true, false, true, false, true, false, true, true, true]

theorem sampleRace_reachable :
    Reachable Sample.externals {Adapters.Sample.ledger} sampleRace := by
  have allowed : Calls Sample.externals {Adapters.Sample.ledger}
      ((Request.authorize Adapters.Sample.ledger (Sample.mandate Sample.alice) Sample.cart
        "k1" : Request Adapters.MockProof Adapters.MockFinality).program Sample.externals) :=
    ⟨_, by simp [Request.ledger?], rfl⟩
  refine Process.Reachable.schedule (fun _ world op => World.perform_exec _ world _ op) ?_ _
  refine Process.Reachable.started _ (by decide) ?_
  simp [allowed]

theorem sampleRace_authorizationsSound :
    (sampleRace.finished false).map authorizedTokens =
        some [⟨Sample.firstCtx, Sample.mandateId, Sample.cartHash, Sample.merchant,
          Sample.cents 6000⟩] ∧
      (sampleRace.finished true).map authorizedTokens =
        (sampleRace.finished false).map authorizedTokens ∧
      sampleRace.shared.history.length = 1 ∧
      AuthorizationsSound Sample.externals {Adapters.Sample.ledger} sampleRace :=
  ⟨by decide +kernel, by decide +kernel, by decide +kernel,
    reachable_authorizationsSound sampleRace_reachable⟩

end MandateLedger.Engine
