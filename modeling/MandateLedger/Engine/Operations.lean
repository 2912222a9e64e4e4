import MandateLedger.Engine.Calls
import MandateLedger.Engine.Serial
import MandateLedger.Process.Coupling

namespace MandateLedger.Engine

open MandateLedger.Core MandateLedger.Data MandateLedger.Memory MandateLedger.Process

variable {Proof Evidence α : Type} {Allowed : Op Proof Evidence → Prop} {ctx : ContextId}
  {now : Timestamp} {externals : Externals}

/-- The operations of any call on a context: it reads, and may write a refusal. -/
structure Common (Allowed : Op Proof Evidence → Prop) (ctx : ContextId) : Prop where
  now : Allowed .now
  record : Allowed (.record ctx)
  authorizedMandate : Allowed (.authorizedMandate ctx)
  isRevoked : ∀ mandate, Allowed (.isRevoked mandate)
  denied : ∀ now stage reason detail, Allowed (.append ctx now (.denied stage reason detail))

namespace Common

variable (common : Common Allowed ctx)

include common

theorem deny {stage : Stage} {reason : DenyReason} {detail : String} :
    (Ledger.deny ctx now stage reason detail : Call Proof Evidence α).run.Within Allowed := by
  refine Fallible.within_bind ⟨common.denied now stage reason detail, fun _ => trivial⟩ ?_
  intro outcome
  cases outcome <;> trivial

theorem replay {record : Record} {mandate : Mandate} :
    (Ledger.replay externals ctx now record mandate : Call Proof Evidence _).run.Within
      Allowed := by
  unfold Ledger.replay
  split
  · exact common.deny
  · refine Fallible.within_bind ⟨common.authorizedMandate, fun _ => trivial⟩ ?_
    intro stored
    cases stored with
    | none =>
        dsimp only
        split
        · exact common.deny
        · trivial
    | some stored =>
        dsimp only
        split
        · exact common.deny
        · split
          · exact common.deny
          · trivial

variable {mandate : Mandate} {cart : Cart} {requestKey : String}
  (authorized : ∀ now, Allowed
    (.append ctx now (.authorized mandate (cart.snapshot externals.sha256) requestKey)))

include authorized

theorem submitAuthorized :
    (Ledger.submitAuthorized externals ctx now mandate cart requestKey :
      Call Proof Evidence _).run.Within Allowed := by
  refine Fallible.within_bind ⟨authorized now, fun _ => trivial⟩ ?_
  intro result
  split
  · next outcome =>
      cases outcome with
      | budgetExceeded remaining => exact common.deny
      | velocityExceeded count => exact common.deny
      | mandateRevoked => exact common.deny
      | appended | nonceAlreadyUsed | denialsCapped => trivial
  · refine Fallible.within_bind ⟨common.record, fun _ => trivial⟩ ?_
    intro found
    cases found with
    | none => trivial
    | some record => exact common.replay
  · trivial

theorem authorizeFresh {ledger : Ledger} :
    (ledger.authorizeFresh externals ctx now mandate cart requestKey :
      Call Proof Evidence _).run.Within Allowed := by
  unfold Ledger.authorizeFresh
  split
  · exact common.deny
  · split
    · exact common.deny
    · refine Fallible.within_bind ⟨common.isRevoked mandate.id, fun _ => trivial⟩ ?_
      intro revoked
      split
      · exact common.deny
      · split
        · exact common.deny
        · exact common.submitAuthorized authorized

end Common

theorem authorize_within {ledger : Ledger} {mandate : Mandate} {cart : Cart} {requestKey : String}
    (common : Common Allowed (attempt externals mandate cart requestKey))
    (authorized : ∀ now, Allowed (.append (attempt externals mandate cart requestKey) now
      (.authorized mandate (cart.snapshot externals.sha256) requestKey))) :
    (ledger.authorize externals mandate cart requestKey :
      Call Proof Evidence _).run.Within Allowed := by
  refine Fallible.within_bind ⟨common.now, fun _ => trivial⟩ ?_
  intro now
  refine Fallible.within_bind ⟨common.record, fun _ => trivial⟩ ?_
  intro found
  cases found with
  | some record => exact common.replay
  | none => exact common.authorizeFresh authorized

theorem Plan.within {plan : Plan α} (common : Common Allowed ctx)
    (submits : ∀ submission, plan = .submit submission →
      Allowed (.append ctx now submission.body)) :
    (plan.call ctx now : Call Proof Evidence α).run.Within Allowed := by
  cases plan with
  | answer value => trivial
  | corrupt message => trivial
  | unavailable detail => trivial
  | refuse refusal => exact common.deny
  | submit submission =>
      refine Fallible.within_bind ⟨submits submission rfl, fun _ => trivial⟩ ?_
      intro outcome
      unfold Plan.conclude
      split
      · trivial
      · split
        · exact common.deny
        · trivial

theorem Decision.within {decision : Decision Proof Evidence α}
    (common : Common Allowed decision.ctx)
    (verify : ∀ rail proof expected, Allowed (.verifyProof rail proof expected))
    (judge : ∀ rail evidence expected, Allowed (.checkFinality rail evidence expected))
    (submits : ∀ record around submission, (decision.decide record).resolve around =
      .submit submission → ∀ now, Allowed (.append decision.ctx now submission.body)) :
    decision.call.run.Within Allowed := by
  refine Fallible.within_bind ⟨common.now, fun _ => trivial⟩ ?_
  intro now
  refine Fallible.within_bind ⟨common.record, fun _ => trivial⟩ ?_
  intro record
  have planned := submits record
  -- whatever the rail answers is the answer in some surroundings
  cases consult : decision.decide record with
  | outright plan =>
      rw [consult] at planned
      let around : Surroundings Proof Evidence :=
        ⟨now, fun _ _ _ => .error (.unavailable ""), fun _ _ _ => .error (.unavailable "")⟩
      exact Plan.within common fun submission same => planned around submission same now
  | verify rail proof expected next =>
      rw [consult] at planned
      refine Fallible.within_bind ⟨verify rail proof expected, fun _ => trivial⟩ ?_
      intro answer
      let around : Surroundings Proof Evidence :=
        ⟨now, fun _ _ _ => answer, fun _ _ _ => .error (.unavailable "")⟩
      exact Plan.within common fun submission same => planned around submission same now
  | judge rail evidence expected next =>
      rw [consult] at planned
      refine Fallible.within_bind ⟨judge rail evidence expected, fun _ => trivial⟩ ?_
      intro answer
      let around : Surroundings Proof Evidence :=
        ⟨now, fun _ _ _ => .error (.unavailable ""), fun _ _ _ => answer⟩
      exact Plan.within common fun submission same => planned around submission same now

/-- An authorization is for one of these carts. -/
def Presents (externals : Externals) (carts : Set Cart) : Op Proof Evidence → Prop
  | .append _ _ (.authorized _ snapshot _) =>
      ∃ cart ∈ carts, snapshot = cart.snapshot externals.sha256
  | _ => True

theorem presents_common (carts : Set Cart) (ctx : ContextId) :
    Common (Presents externals carts : Op Proof Evidence → Prop) ctx :=
  ⟨trivial, trivial, trivial, fun _ => trivial, fun _ _ _ _ => trivial⟩

theorem Decision.presents {decision : Decision Proof Evidence α} {carts : Set Cart}
    (submits : ∀ record around submission, (decision.decide record).resolve around =
      .submit submission → submission.body.resultingState ≠ some .authorized) :
    decision.call.run.Within (Presents externals carts) := by
  refine Decision.within (presents_common carts decision.ctx) (fun _ _ _ => trivial)
    (fun _ _ _ => trivial) ?_
  intro record around submission same now
  have later := submits record around submission same
  cases body : submission.body with
  | authorized mandate snapshot requestKey =>
      rw [body] at later
      exact absurd rfl later
  | _ => trivial

def presentedCart : Request Proof Evidence → Option Cart
  | .authorize _ _ cart _ => some cart
  | _ => none

theorem request_presents {request : Request Proof Evidence} {carts : Set Cart}
    (presented : ∀ cart ∈ presentedCart request, cart ∈ carts) :
    (request.program externals).Within (Presents externals carts) := by
  cases request with
  | authorize ledger mandate cart requestKey =>
      have known : cart ∈ carts := presented cart rfl
      refine (authorize_within (presents_common carts _) ?_).bind fun _ => trivial
      intro now
      exact ⟨cart, known, rfl⟩
  | recordPayment ledger auth proof =>
      refine Program.Within.bind ?_ fun _ => trivial
      rw [recordPayment_eq]
      refine Decision.presents ?_
      intro record around submission same
      obtain ⟨-, _, _, _, _, _, body, -⟩ := payment_submits same
      simp [body, EventBody.resultingState]
  | recordSettlement ledger paid evidence =>
      refine Program.Within.bind ?_ fun _ => trivial
      rw [recordSettlement_eq]
      refine Decision.presents ?_
      intro record around submission same
      obtain ⟨-, ⟨_, _, body, -⟩ | ⟨_, _, body, -⟩⟩ := settlement_submits same <;>
        simp [body, EventBody.resultingState]
  | compensate failed reference =>
      refine Program.Within.bind ?_ fun _ => trivial
      rw [compensate_eq]
      refine Decision.presents ?_
      intro record around submission same
      simp [(compensation_submits same).2.1, EventBody.resultingState]
  | expire auth =>
      refine Program.Within.bind ?_ fun _ => trivial
      rw [expire_eq]
      refine Decision.presents ?_
      intro record around submission same
      simp [(expiry_submits same).2, EventBody.resultingState]
  | recordDelivery settled receipt =>
      refine Program.Within.bind ?_ fun _ => trivial
      rw [recordDelivery_eq]
      refine Decision.presents ?_
      intro record around submission same
      simp [(delivery_submits same).2.1, EventBody.resultingState]
  | resume ctx =>
      refine Program.Within.bind (Fallible.within_bind ⟨trivial, fun _ => trivial⟩ ?_)
        fun _ => trivial
      intro record
      cases record with
      | none => trivial
      | some record => 
          dsimp only
          cases Ledger.resumedFrom ctx record <;> trivial
  | reached ctx =>
      refine Program.Within.bind (Fallible.within_bind ⟨trivial, fun _ => trivial⟩ ?_)
        fun _ => trivial
      intro record
      cases record with
      | none => trivial
      | some record =>
          dsimp only
          cases Ledger.reachedFrom ctx record <;> trivial
  | evidence ctx =>
      refine Program.Within.bind (Fallible.within_bind ⟨trivial, fun _ => trivial⟩ ?_)
        fun _ => trivial
      intro events
      split
      · trivial
      · exact Fallible.within_bind ⟨trivial, fun _ => trivial⟩ fun _ => trivial
  | revoke mandate => exact ⟨trivial, fun _ => trivial⟩

/-- The calls of a set of ledgers that present these carts. -/
def Purchases (externals : Externals) (ledgers : Set Ledger) (carts : Set Cart)
    (program : Program (Op Proof Evidence) Op.Answer Response) : Prop :=
  ∃ request : Request Proof Evidence, (∀ ledger ∈ request.ledger?, ledger ∈ ledgers) ∧
    (∀ cart ∈ presentedCart request, cart ∈ carts) ∧ program = request.program externals

/-- Each authorization in the history is for one of these carts. -/
def CartsPresented (externals : Externals) (carts : Set Cart) (history : List Event) : Prop :=
  ∀ event ∈ history, ∀ mandate snapshot requestKey,
    event.body = .authorized mandate snapshot requestKey →
      ∃ cart ∈ carts, snapshot = cart.snapshot externals.sha256

variable {Tid : Type} [DecidableEq Tid] {ledgers : Set Ledger} {carts : Set Cart}
  {config : Config Tid (World Proof Evidence) (Op Proof Evidence) Op.Answer Response}

theorem CartsPresented.exec {before after : World Proof Evidence} {op : Op Proof Evidence}
    {answer : op.Answer} (presented : CartsPresented externals carts before.history)
    (presents : Presents externals carts op) (executed : before.Exec externals op answer after) :
    CartsPresented externals carts after.history := by
  obtain same | ⟨event, now, rfl, grown⟩ := executed.history_cases
  · rw [same]
    exact presented
  · intro other listed mandate snapshot requestKey authorized
    rw [grown] at listed
    obtain past | new := List.mem_append.mp listed
    · exact presented other past mandate snapshot requestKey authorized
    · cases List.mem_singleton.mp new
      rw [authorized] at presents
      exact presents

/-- Whatever else runs, the carts in the history were presented. -/
theorem reachable_cartsPresented
    (reached : Process.Reachable (semantics Tid externals) (Purchases externals ledgers carts)
      World.empty config) :
    CartsPresented externals carts config.shared.history := by
  refine (reached.within (Presents externals carts)
    (fun world => CartsPresented externals carts world.history) ?_ ?_ ?_ ?_ ?_).1
  · intro program called
    obtain ⟨request, -, presented, rfl⟩ := called
    exact request_presents presented
  · intro event listed
    cases listed
  · intro t before op answer after presented presents executed
    exact presented.exec presents executed
  · intro before after presented pruned
    obtain ⟨instant, rfl⟩ := pruned
    exact presented
  · intro t before after presented stopped
    cases stopped
    exact presented

theorem reachable_of_purchases
    (reached : Process.Reachable (semantics Tid externals) (Purchases externals ledgers carts)
      World.empty config) : Reachable externals ledgers config := by
  refine reached.of_start ?_
  intro program called
  obtain ⟨request, listed, -, same⟩ := called
  exact ⟨request, listed, same⟩

end MandateLedger.Engine
