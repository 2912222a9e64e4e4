import MandateLedger.Adapters.Mock
import MandateLedger.Core.Contexts
import MandateLedger.Engine.Operations
import MandateLedger.Engine.Replays
import MandateLedger.Memory.Isolation

namespace MandateLedger.Engine

open MandateLedger.Core MandateLedger.Memory MandateLedger.Process

variable {Proof Evidence : Type}

structure AuthorizeCall where
  ledger : Ledger
  mandate : Mandate
  cart : Cart
  requestKey : String

namespace AuthorizeCall

def ctx (externals : Externals) (call : AuthorizeCall) : ContextId :=
  ContextId.derive externals.sha256 call.mandate.id (call.cart.hash externals.sha256)
    call.requestKey

/-- The bytes whose digest names the call's context. -/
def preimage (externals : Externals) (call : AuthorizeCall) : Bytes :=
  ContextId.preimage call.mandate.id (call.cart.hash externals.sha256) call.requestKey

def program (externals : Externals) (call : AuthorizeCall) :
    Program (Op Proof Evidence) Op.Answer Response :=
  (Request.authorize call.ledger call.mandate call.cart call.requestKey).program externals

end AuthorizeCall

/-- Calls of `authorize`, one on each thread, taking turns over an empty store. -/
def authorizeRun {Tid : Type} [DecidableEq Tid] (externals : Externals)
    (around : Tid → Surroundings Proof Evidence) (calls : Tid → Option AuthorizeCall)
    (turns : List Tid) :
    Config Tid (World Proof Evidence) (Op Proof Evidence) Op.Answer Response :=
  Config.schedule (fun t world op => world.perform externals (around t) op)
    ⟨World.empty, fun t => (calls t).map (AuthorizeCall.program externals)⟩ turns

def without {Tid : Type} (principal : PrincipalId) (calls : Tid → Option AuthorizeCall) :
    Tid → Option AuthorizeCall :=
  fun t => (calls t).filter fun call => call.mandate.body.principal ≠ principal

section Coupling

variable (mandate : MandateId) (contexts : Set ContextId)

/-- What calls under a mandate look at, what other calls may do, and how far two
answers may differ. -/
def isolation : Coupling (World Proof Evidence) (Op Proof Evidence) Op.Answer where
  Same left right := SameFor mandate contexts left.inner right.inner
  Local op := match op with
    | .now => True
    | .record ctx | .authorizedMandate ctx => ctx ∈ contexts
    | .isRevoked id => id = mandate
    | .append ctx _ body => ctx ∈ contexts ∧ AuthorizeBody (· = mandate) body
    | _ => False
  Foreign op := match op with
    | .now | .record _ | .authorizedMandate _ | .isRevoked _ => True
    | .append ctx _ body => ctx ∉ contexts ∧ AuthorizeBody (· ≠ mandate) body
    | _ => False
  Alike op := match op with
    | .append .. => AlikeAppends
    | _ => Eq

variable {mandate contexts} {Tid : Type} {externals : Externals}
  {around : Tid → Surroundings Proof Evidence}

theorem isolation_left {t : Tid} {left right : World Proof Evidence} {op : Op Proof Evidence}
    (same : SameFor mandate contexts left.inner right.inner)
    (foreign : (isolation mandate contexts).Foreign op) :
    SameFor mandate contexts (left.perform externals (around t) op).2.inner right.inner := by
  cases op with
  | append ctx now body => exact same.append_elsewhere foreign.1 foreign.2
  | now | record | authorizedMandate | isRevoked => exact same
  | events | revoke | verifyProof | checkFinality => exact foreign.elim

theorem isolation_sound
    (canonical : ∀ preimage, ∃ bytes, externals.canonicalPreimage preimage = .ok bytes) :
    (isolation mandate contexts : Coupling (World Proof Evidence) _ _).Sound
      (fun t world op => world.perform externals (around t) op) where
  paired := by
    intro t left right op same visible
    cases op with
    | now => exact ⟨rfl, same⟩
    | record ctx =>
        refine ⟨?_, same⟩
        change Except.ok _ = Except.ok _
        rw [same.records ctx visible]
    | authorizedMandate ctx =>
        refine ⟨?_, same⟩
        change Except.ok _ = Except.ok _
        rw [same.authorizedMandate visible]
    | isRevoked id =>
        refine ⟨?_, same⟩
        cases visible
        change Except.ok (decide _) = Except.ok (decide _)
        rw [decide_eq_decide.mpr same.revoked]
    | append ctx now body => exact same.append canonical visible.1 visible.2
    | events | revoke | verifyProof | checkFinality => exact visible.elim
  left := isolation_left
  right := fun same foreign => (isolation_left same.symm foreign).symm

end Coupling

section Local

variable {mandate : MandateId} {contexts : Set ContextId} {ctx : ContextId} {now : Timestamp}
  {α : Type} {externals : Externals}

abbrev Alike (mandate : MandateId) (contexts : Set ContextId)
    (left right : Call Proof Evidence α) : Prop :=
  Program.Agree (isolation mandate contexts) (Outcomes Eq) left.run right.run

theorem alike_bind {β : Type} {first : Call Proof Evidence β} {left right : β → Call Proof Evidence α}
    (here : Alike mandate contexts first first)
    (rest : ∀ value, Alike mandate contexts (left value) (right value)) :
    Alike mandate contexts (first >>= left) (first >>= right) := by
  refine Fallible.agree_bind here ?_
  intro leftValue rightValue same
  cases same
  exact rest leftValue

/-- Outcomes that differ at most in the event that was built. -/
def AlikeOutcomes (left right : AppendOutcome) : Prop :=
  left = right ∨ ∃ first second, left = .appended first ∧ right = .appended second

theorem agree_tryAppend {body : EventBody} (member : ctx ∈ contexts)
    (own : AuthorizeBody (· = mandate) body) :
    Program.Agree (isolation mandate contexts) (Outcomes AlikeAppends)
      (Ledger.tryAppend ctx now body : Call Proof Evidence _).run
      (Ledger.tryAppend ctx now body : Call Proof Evidence _).run :=
  .call _ ⟨member, own⟩ fun _ _ alike => .done (.ok alike)

theorem agree_append {body : EventBody} (member : ctx ∈ contexts)
    (own : AuthorizeBody (· = mandate) body) :
    Program.Agree (isolation mandate contexts) (Outcomes AlikeOutcomes)
      (Ledger.append ctx now body : Call Proof Evidence _).run
      (Ledger.append ctx now body : Call Proof Evidence _).run := by
  refine .call _ ⟨member, own⟩ ?_
  intro left right alike
  rcases alike with same | ⟨first, second, rfl, rfl⟩
  · cases same
    cases left with
    | error error => exact .done (.error _)
    | ok outcome => exact .done (.ok (.inl rfl))
  · exact .done (.ok (.inr ⟨first, second, rfl, rfl⟩))

theorem alike_deny {stage : Stage} {reason : DenyReason} {detail : String}
    (member : ctx ∈ contexts) :
    Alike mandate contexts
      (Ledger.deny ctx now stage reason detail : Call Proof Evidence α)
      (Ledger.deny ctx now stage reason detail) := by
  refine Fallible.agree_bind (agree_append member trivial) ?_
  intro left right alike
  rcases alike with same | ⟨first, second, rfl, rfl⟩
  · cases same
    cases left <;> exact .done (.error _)
  · exact .done (.error _)

theorem alike_authorization {signed : Mandate} {cartHash : Hash32} {claims : ScopeClaims}
    {left right : AppendOutcome} (member : ctx ∈ contexts) (alike : AlikeOutcomes left right) :
    Alike mandate contexts
      (Ledger.authorization ctx now signed cartHash claims left : Call Proof Evidence _)
      (Ledger.authorization ctx now signed cartHash claims right) := by
  rcases alike with same | ⟨first, second, rfl, rfl⟩
  · cases same
    cases left with
    | appended event => exact .done (.ok rfl)
    | budgetExceeded remaining => exact alike_deny member
    | velocityExceeded count => exact alike_deny member
    | mandateRevoked => exact alike_deny member
    | nonceAlreadyUsed => exact .done (.error _)
    | denialsCapped => exact .done (.error _)
  · exact .done (.ok rfl)

theorem alike_record (member : ctx ∈ contexts) :
    Alike mandate contexts (Ledger.record ctx : Call Proof Evidence _) (Ledger.record ctx) := by
  refine .call _ member ?_
  intro left right same
  cases same
  cases left with
  | error error => exact .done (.error _)
  | ok found => exact .done (.ok rfl)

theorem alike_replay {record : Record} {signed : Mandate} (member : ctx ∈ contexts) :
    Alike mandate contexts
      (Ledger.replay externals ctx now record signed : Call Proof Evidence _)
      (Ledger.replay externals ctx now record signed) := by
  unfold Ledger.replay
  split
  · exact alike_deny member
  · refine alike_bind (.call _ member ?_) ?_
    · intro left right same
      cases same
      cases left with
      | error error => exact .done (.error _)
      | ok found => exact .done (.ok rfl)
    · intro stored
      cases stored with
      | none =>
          dsimp only
          split
          · exact alike_deny member
          · exact .done (.error _)
      | some stored =>
          dsimp only
          split
          · exact alike_deny member
          · split
            · exact alike_deny member
            · exact .done (.ok rfl)

theorem alike_submitAuthorized {signed : Mandate} {cart : Cart} {requestKey : String}
    (member : ctx ∈ contexts) (own : signed.body.id = mandate) :
    Alike mandate contexts
      (Ledger.submitAuthorized externals ctx now signed cart requestKey : Call Proof Evidence _)
      (Ledger.submitAuthorized externals ctx now signed cart requestKey) := by
  refine Fallible.agree_bind (agree_tryAppend member own) ?_
  intro left right alike
  rcases alike with same | ⟨first, second, rfl, rfl⟩
  · cases same
    split
    · exact alike_authorization member (.inl rfl)
    · refine alike_bind (alike_record member) ?_
      intro found
      cases found with
      | none => exact .done (.error _)
      | some record => exact alike_replay member
    · exact .done (.error _)
  · exact alike_authorization member (.inr ⟨first, second, rfl, rfl⟩)

theorem alike_authorize (call : AuthorizeCall) (own : call.mandate.id = mandate)
    (member : call.ctx externals ∈ contexts) :
    Program.Agree (isolation mandate contexts) Eq
      (call.program externals : Program (Op Proof Evidence) Op.Answer Response)
      (call.program externals) := by
  have authorize : Alike mandate contexts
      (call.ledger.authorize externals call.mandate call.cart call.requestKey :
        Call Proof Evidence _)
      (call.ledger.authorize externals call.mandate call.cart call.requestKey) := by
    refine alike_bind (.call _ trivial ?_) ?_
    · intro left right same
      cases same
      exact .done (.ok rfl)
    intro now
    refine alike_bind (alike_record member) ?_
    intro found
    cases found with
    | some record => exact alike_replay member
    | none =>
        change Alike _ _ (Ledger.authorizeFresh externals _ _ now _ _ _)
          (Ledger.authorizeFresh externals _ _ now _ _ _)
        unfold Ledger.authorizeFresh
        split
        · exact alike_deny member
        · split
          · exact alike_deny member
          · refine alike_bind (.call _ own ?_) ?_
            · intro left right same
              cases same
              cases left with
              | error error => exact .done (.error _)
              | ok answer => exact .done (.ok rfl)
            · intro revoked
              split
              · exact alike_deny member
              · split
                · exact alike_deny member
                · exact alike_submitAuthorized member own
  refine authorize.bind ?_
  intro left right same
  cases same with
  | error error => exact .done rfl
  | ok related =>
      cases related
      exact .done rfl

end Local

section Foreign

variable {mandate : MandateId} {contexts : Set ContextId} {ctx : ContextId}
  {externals : Externals}

theorem foreign_common (apart : ctx ∉ contexts) :
    Common (isolation mandate contexts : Coupling (World Proof Evidence) _ _).Foreign ctx :=
  ⟨trivial, trivial, trivial, fun _ => trivial, fun _ _ _ _ => ⟨apart, trivial⟩⟩

theorem elsewhere_authorize (call : AuthorizeCall) (other : call.mandate.id ≠ mandate)
    (apart : call.ctx externals ∉ contexts) :
    (call.program externals : Program (Op Proof Evidence) Op.Answer Response).Within
      (isolation mandate contexts : Coupling (World Proof Evidence) _ _).Foreign := by
  refine (authorize_within (foreign_common apart) ?_).bind fun _ => trivial
  intro now
  exact ⟨apart, other⟩

end Foreign

section Isolation

variable {Tid : Type} [DecidableEq Tid] {externals : Externals}
  {calls : Tid → Option AuthorizeCall} {mandate : MandateId} {principal : PrincipalId}

/-- The byte strings that the calls of a run hash for their contexts. -/
def callInputs (externals : Externals) (calls : Tid → Option AuthorizeCall) : Set Bytes :=
  {bytes | ∃ t call, calls t = some call ∧ bytes = call.preimage externals}

omit [DecidableEq Tid] in
/-- Without collisions, calls under ids that do not shadow each other have different
contexts. -/
theorem ctx_ne_of_unshadowed {t u : Tid} {call other : AuthorizeCall}
    (collisionFree : Set.InjOn (truncated externals.sha256) (callInputs externals calls))
    (listed : calls t = some call) (otherListed : calls u = some other)
    (different : call.mandate.id ≠ other.mandate.id)
    (unshadowed : ¬ ContextId.Shadows call.mandate.id other.mandate.id ∧
      ¬ ContextId.Shadows other.mandate.id call.mandate.id) :
    call.ctx externals ≠ other.ctx externals := by
  intro same
  have alike : call.preimage externals = other.preimage externals :=
    collisionFree ⟨t, call, listed, rfl⟩ ⟨u, other, otherListed, rfl⟩ (ContextId.digest_eq same)
  rcases ContextId.shadows_of_preimage_eq alike different with shadows | shadows
  · exact unshadowed.1 shadows
  · exact unshadowed.2 shadows

/-- Removing the calls of a principal that presents no mandate with this id does
not change what the calls under the mandate return, whatever the interleaving: as
long as the truncated digests of the run do not collide and no other id in it shadows
this one or is shadowed by it. -/
theorem authorizeRun_without
    (canonical : ∀ preimage, ∃ bytes, externals.canonicalPreimage preimage = .ok bytes)
    (around : Tid → Surroundings Proof Evidence)
    (unique : ∀ t call, calls t = some call → call.mandate.body.principal = principal →
      call.mandate.id ≠ mandate)
    (collisionFree : Set.InjOn (truncated externals.sha256) (callInputs externals calls))
    (unshadowed : ∀ t call, calls t = some call → call.mandate.id ≠ mandate →
      ¬ ContextId.Shadows mandate call.mandate.id ∧ ¬ ContextId.Shadows call.mandate.id mandate)
    (turns : List Tid) {t : Tid}
    {call : AuthorizeCall} (listed : calls t = some call) (under : call.mandate.id = mandate) :
    (authorizeRun externals around calls turns).finished t =
      (authorizeRun externals around (without principal calls) turns).finished t := by
  let contexts : Set ContextId :=
    { ctx | ∃ t call, calls t = some call ∧ call.mandate.id = mandate ∧ ctx = call.ctx externals }
  let Observed : Tid → Prop := fun t => ∃ call, calls t = some call ∧ call.mandate.id = mandate
  have coupled : Coupled (isolation mandate contexts) Observed
      (⟨World.empty, fun t => (calls t).map (AuthorizeCall.program externals)⟩ :
        Config Tid (World Proof Evidence) (Op Proof Evidence) Op.Answer Response)
      ⟨World.empty, fun t => (without principal calls t).map (AuthorizeCall.program externals)⟩ := by
    refine ⟨SameFor.empty, ?_, ?_⟩
    · rintro u ⟨own, ownListed, ownUnder⟩
      have kept : without principal calls u = some own := by
        have spared : own.mandate.body.principal ≠ principal :=
          fun same => unique u own ownListed same ownUnder
        simp [without, ownListed, Option.filter, spared]
      simp only [ownListed, kept, Option.map_some]
      exact .some (alike_authorize own ownUnder ⟨u, own, ownListed, ownUnder, rfl⟩)
    · intro u unseen
      have elsewhere : ∀ other, calls u = some other →
          (other.program externals : Program (Op Proof Evidence) Op.Answer Response).Within
            (isolation mandate contexts : Coupling (World Proof Evidence) _ _).Foreign := by
        intro other otherListed
        have different : other.mandate.id ≠ mandate :=
          fun same => unseen ⟨other, otherListed, same⟩
        refine elsewhere_authorize other different ?_
        rintro ⟨v, own, ownListed, rfl, same⟩
        exact ctx_ne_of_unshadowed collisionFree ownListed otherListed (Ne.symm different)
          (unshadowed u other otherListed different) same.symm
      constructor
      · intro program running
        obtain ⟨other, otherListed, rfl⟩ := Option.map_eq_some_iff.mp running
        exact elsewhere other otherListed
      · intro program running
        obtain ⟨other, kept, rfl⟩ := Option.map_eq_some_iff.mp running
        exact elsewhere other (Option.filter_eq_some_iff.mp kept).1
  exact (coupled.schedule (isolation_sound canonical) turns).finished ⟨call, listed, under⟩

end Isolation

/-- Bob's purchase, on `false`, and after it Alice's, on `true`. -/
def sampleCalls (bobsId : MandateId) : Bool → Option AuthorizeCall
  | false => some ⟨Adapters.Sample.ledger, Sample.mandateAs bobsId Sample.bob, Sample.cart, "k1"⟩
  | true => some ⟨Adapters.Sample.ledger, Sample.mandate Sample.alice, Sample.cart, "k2"⟩

def sampleAround (_ : Bool) : Surroundings Adapters.MockProof Adapters.MockFinality :=
  Adapters.Sample.rail.surroundings ⟨10⟩

def sampleTurns : List Bool := List.replicate 5 false ++ List.replicate 5 true

def granted (response : Response) : Bool := !(authorizedTokens response).isEmpty

/-- Of two ids of one length neither extends the other. -/
theorem unshadowed_of_size {mandate other : MandateId}
    (size : mandate.val.utf8ByteSize = other.val.utf8ByteSize) :
    ¬ ContextId.Shadows mandate other := by
  rintro ⟨rest, extended, -⟩
  have separator : ("\x1f" : String).utf8ByteSize = 1 := rfl
  rw [extended, String.utf8ByteSize_append, String.utf8ByteSize_append] at size
  omega

theorem sampleCalls_without :
    ((authorizeRun Sample.externals sampleAround (sampleCalls Sample.otherId)
        sampleTurns).finished true).map granted = some true ∧
      (authorizeRun Sample.externals sampleAround (sampleCalls Sample.otherId)
          sampleTurns).finished true =
        (authorizeRun Sample.externals sampleAround
          (without Sample.bob (sampleCalls Sample.otherId)) sampleTurns).finished true := by
  refine ⟨by decide +kernel, ?_⟩
  refine authorizeRun_without (fun _ => ⟨_, rfl⟩) sampleAround ?_ ?_ ?_ sampleTurns rfl rfl
  · intro t call listed own
    cases t <;> cases listed
    · decide
    · exact absurd own (by decide)
  · rintro _ ⟨t, call, listed, rfl⟩ _ ⟨u, other, otherListed, rfl⟩ same
    cases t <;> cases u <;> cases listed <;> cases otherListed
    · rfl
    · exact absurd same (by decide +kernel)
    · exact absurd same (by decide +kernel)
    · rfl
  · intro t call listed different
    cases t <;> cases listed
    · exact ⟨unshadowed_of_size rfl, unshadowed_of_size rfl⟩
    · exact absurd rfl different

/-- Under Alice's id, Bob's purchase takes Alice's budget. -/
theorem sampleCalls_interfere :
    ((authorizeRun Sample.externals sampleAround (sampleCalls Sample.mandateId)
        sampleTurns).finished false).map granted = some true ∧
    ((authorizeRun Sample.externals sampleAround (sampleCalls Sample.mandateId)
        sampleTurns).finished true).map granted = some false ∧
      ((authorizeRun Sample.externals sampleAround
        (without Sample.bob (sampleCalls Sample.mandateId)) sampleTurns).finished true).map
          granted = some true := by
  refine ⟨?_, ?_, ?_⟩ <;> decide +kernel

end MandateLedger.Engine
