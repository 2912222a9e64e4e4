import MandateLedger.Engine.System

namespace MandateLedger.Engine

open MandateLedger.Core MandateLedger.Data MandateLedger.Memory MandateLedger.Process

/-! # What justifies an event

Each event a ledger appends is justified by what happened before it: an
`Authorized` by its own content, a `Paid` by a rail's verdict on a proof, a
`Settled` or a `SettlementFailed` by a rail's verdict on finality.  Since the
past does not change, a call that has established the justification can append
the event whenever its turn comes.

`discipline` is the rely-guarantee specification of a ledger call: the store is
in a state of its own runs, every event is justified, and the past only grows.
-/

variable {Proof Evidence : Type}

/-- What an `Authorized` event vouches for. -/
structure AuthorizedSound (externals : Externals) (ledgers : Set Ledger) (event : Event)
    (mandate : Mandate) (cart : CartSnapshot) (requestKey : String) : Prop where
  verified : mandate.verify externals.signatures = .ok ()
  trusted : ∃ ledger ∈ ledgers, ledger.signers mandate.body.principal mandate.signer = true
  admitted : mandate.body.scope.admits cart.claims cart.attestation event.recordedAt = .ok ()
  derived : event.ctx =
    ContextId.derive externals.sha256 mandate.body.id cart.hash requestKey
  hashed : cart.hash = externals.sha256 cart.raw

/-- A proof that is for what was authorized: its amount, bound to this context
or this cart and to no other, and to no other payee. -/
structure Agrees (verified : VerifiedProof) (token : Authorized) : Prop where
  amount : (verified.amount == token.amount) = true
  bound : verified.boundCtx = some token.ctx ∨ verified.boundCart = some token.cartHash
  ctx : ∀ bound ∈ verified.boundCtx, bound = token.ctx
  cart : ∀ bound ∈ verified.boundCart, bound = token.cartHash
  payee : ∀ payee ∈ verified.boundMerchant, payee = token.merchant

def Authorizes (acts : List (Act Proof Evidence)) (token : Authorized) : Prop :=
  ∃ opening, Act.appended opening ∈ acts ∧ authorizedToken opening = some token

def Pays (acts : List (Act Proof Evidence)) (token : Paid) : Prop :=
  ∃ payment, Act.appended payment ∈ acts ∧ paidToken payment = some token

/-- The rail verified an agreeing proof before the payment was recorded. -/
def PaidSound (earlier : List (Act Proof Evidence)) (ctx : ContextId)
    (rail reference nonce : String) (amount : Money) : Prop :=
  ∃ token proof expected verified, token.ctx = ctx ∧ Authorizes earlier token ∧
    Act.verified rail proof expected (.ok verified) ∈ earlier ∧ expected.ctx = ctx ∧
    Agrees verified token ∧ verified.reference = reference ∧ verified.nonce = nonce ∧
    verified.amount = amount

/-- The rail that was paid reported this status for the recorded payment. -/
def SettlementSound (earlier : List (Act Proof Evidence)) (ctx : ContextId) (rail : String)
    (status : FinalityStatus) : Prop :=
  ∃ token paid evidence, token.ctx = ctx ∧ Authorizes earlier token ∧ paid.ctx = ctx ∧
    Pays earlier paid ∧ paid.rail = rail ∧
    Act.judged rail evidence ⟨ctx, paid.reference, token.amount, token.merchant⟩ (.ok status) ∈
      earlier

def EventSound (externals : Externals) (ledgers : Set Ledger)
    (earlier : List (Act Proof Evidence)) (event : Event) : Prop :=
  match event.body with
  | .authorized mandate cart requestKey =>
      AuthorizedSound externals ledgers event mandate cart requestKey
  | .paid rail reference nonce amount _ => PaidSound earlier event.ctx rail reference nonce amount
  | .settled rail reference => SettlementSound earlier event.ctx rail (.final reference)
  | .settlementFailed rail reason => SettlementSound earlier event.ctx rail (.failed reason)
  | .compensated _ | .delivered _ | .expired | .denied .. => True

/-- Every appended event is justified by the acts before it. -/
def Justifies (externals : Externals) (ledgers : Set Ledger)
    (earlier : List (Act Proof Evidence)) : Act Proof Evidence → Prop
  | .appended event => EventSound externals ledgers earlier event
  | .verified .. | .judged .. => True

theorem acts_refl {Tid : Type} (_ : Tid) (world : World Proof Evidence) :
    world.acts <+: world.acts :=
  List.prefix_refl _

theorem acts_trans {Tid : Type} {_ : Tid} {first second third : World Proof Evidence}
    (earlier : first.acts <+: second.acts) (later : second.acts <+: third.acts) :
    first.acts <+: third.acts :=
  earlier.trans later

/-- The specification every ledger call keeps. -/
def discipline (Tid : Type) (externals : Externals) (ledgers : Set Ledger) :
    Discipline Tid (World Proof Evidence) where
  Inv world := Traced.Reachable externals world.traced ∧
    Each (Justifies externals ledgers) world.acts
  Rely _ before after := before.acts <+: after.acts
  Idle _ _ := True
  refl := acts_refl
  trans := @acts_trans Proof Evidence Tid
  idle_stable _ _ := trivial

section Past

variable {externals : Externals} {ledgers : Set Ledger}
  {past acts : List (Act Proof Evidence)}

theorem Authorizes.later {token : Authorized} (grown : past <+: acts)
    (authorizes : Authorizes past token) : Authorizes acts token := by
  obtain ⟨opening, listed, stands⟩ := authorizes
  exact ⟨opening, grown.subset listed, stands⟩

theorem Pays.later {token : Paid} (grown : past <+: acts) (pays : Pays past token) :
    Pays acts token := by
  obtain ⟨payment, listed, stands⟩ := pays
  exact ⟨payment, grown.subset listed, stands⟩

theorem PaidSound.later {ctx : ContextId} {rail reference nonce : String} {amount : Money}
    (grown : past <+: acts) (sound : PaidSound past ctx rail reference nonce amount) :
    PaidSound acts ctx rail reference nonce amount := by
  obtain ⟨token, proof, expected, verified, own, authorized, listed, rest⟩ := sound
  exact ⟨token, proof, expected, verified, own, authorized.later grown, grown.subset listed, rest⟩

theorem SettlementSound.later {ctx : ContextId} {rail : String} {status : FinalityStatus}
    (grown : past <+: acts) (sound : SettlementSound past ctx rail status) :
    SettlementSound acts ctx rail status := by
  obtain ⟨token, paid, evidence, own, authorized, same, pays, railed, listed⟩ := sound
  exact ⟨token, paid, evidence, own, authorized.later grown, same, pays.later grown, railed,
    grown.subset listed⟩

/-- A justification outlasts whatever happens next. -/
theorem EventSound.later {event : Event} (grown : past <+: acts)
    (sound : EventSound externals ledgers past event) :
    EventSound externals ledgers acts event := by
  unfold EventSound at sound ⊢
  split at sound
  · exact sound
  · exact PaidSound.later grown sound
  · exact SettlementSound.later grown sound
  · exact SettlementSound.later grown sound
  all_goals trivial

end Past

/-- The call keeps the discipline from `world` and ends in `Post`. -/
abbrev Respects {Tid α : Type} (externals : Externals) (ledgers : Set Ledger) (t : Tid)
    (call : Call Proof Evidence α) (Post : Except LedgerError α → World Proof Evidence → Prop)
    (world : World Proof Evidence) : Prop :=
  call.run.Keeps (semantics Tid externals) (discipline Tid externals ledgers) t Post world

section Rules

variable {Tid : Type} {t : Tid} {externals : Externals} {ledgers : Set Ledger}
  {world before : World Proof Evidence} {ctx : ContextId} {now : Timestamp} {α : Type}
  {Post : Except LedgerError α → World Proof Evidence → Prop}

theorem permits_refl (invariant : (discipline Tid externals ledgers).Inv world) :
    (discipline Tid externals ledgers).Permits t world world :=
  ⟨invariant, fun _ _ => List.prefix_refl _⟩

theorem respects_bind {β : Type} (first : Call Proof Evidence β)
    (rest : β → Call Proof Evidence α)
    (kept : Respects externals ledgers t first
      (Ends (fun value => Respects externals ledgers t (rest value) Post)
        (fun error => Post (.error error))) world) :
    Respects externals ledgers t (first >>= rest) Post world :=
  (Fallible.keeps_bind first rest).mpr kept

theorem respects_now {Post : Except LedgerError Timestamp → World Proof Evidence → Prop}
    (next : ∀ now after, world.acts <+: after.acts → Post (.ok now) after) :
    Respects externals ledgers t Ledger.now Post world := by
  rintro before grown invariant now after rfl
  exact ⟨permits_refl invariant, next now _ grown⟩

theorem respects_record {Post : Except LedgerError (Option Record) → World Proof Evidence → Prop}
    (next : ∀ after, world.acts <+: after.acts → Traced.Reachable externals after.traced →
      Post (.ok (after.inner.records.lookup ctx)) after) :
    Respects externals ledgers t (Ledger.record ctx) Post world := by
  rintro before grown invariant answer after ⟨rfl, rfl⟩
  exact ⟨permits_refl invariant, next _ grown invariant.1⟩

theorem respects_events {Post : Except LedgerError (List Event) → World Proof Evidence → Prop}
    (next : ∀ chain after, world.acts <+: after.acts → Post (.ok chain) after) :
    Respects externals ledgers t (Ledger.events ctx) Post world := by
  rintro before grown invariant answer after ⟨rfl, rfl⟩
  exact ⟨permits_refl invariant, next _ _ grown⟩

theorem respects_authorizedMandate
    {Post : Except LedgerError (Option Mandate) → World Proof Evidence → Prop}
    (next : ∀ stored after, world.acts <+: after.acts → Post (.ok stored) after) :
    Respects externals ledgers t (Ledger.authorizedMandate ctx) Post world := by
  rintro before grown invariant answer after ⟨rfl, rfl⟩
  exact ⟨permits_refl invariant, next _ _ grown⟩

theorem respects_isRevoked {mandate : MandateId}
    {Post : Except LedgerError Bool → World Proof Evidence → Prop}
    (next : ∀ revoked after, world.acts <+: after.acts → Post (.ok revoked) after) :
    Respects externals ledgers t (Ledger.isRevoked mandate) Post world := by
  rintro before grown invariant answer after ⟨rfl, rfl⟩
  exact ⟨permits_refl invariant, next _ _ grown⟩

theorem respects_revoke {mandate : MandateId}
    {Post : Except LedgerError Unit → World Proof Evidence → Prop}
    (next : ∀ after, world.acts <+: after.acts → Post (.ok ()) after) :
    Respects externals ledgers t (Ledger.revoke mandate) Post world := by
  rintro before grown ⟨run, each⟩ answer after ⟨rfl, rfl⟩
  refine ⟨⟨⟨?_, each⟩, fun _ _ => List.prefix_refl _⟩, next _ grown⟩
  exact run.tail (.revoke before.traced mandate)

theorem permits_saw {act : Act Proof Evidence} (invariant : (discipline Tid externals ledgers).Inv world)
    (silent : act.event? = none) (justified : Justifies externals ledgers world.acts act) :
    (discipline Tid externals ledgers).Permits t world (world.saw act) := by
  obtain ⟨run, each⟩ := invariant
  refine ⟨⟨?_, each.append justified⟩, fun _ _ => List.prefix_append _ _⟩
  rw [World.traced_saw silent]
  exact run

theorem respects_verifyProof {ledger : Ledger} {proof : Proof} {expected : PaymentExpectation}
    {Post : Except LedgerError (Except RailError VerifiedProof) → World Proof Evidence → Prop}
    (next : ∀ answer after, world.acts <+: after.acts →
      Act.verified ledger.railId proof expected answer ∈ after.acts → Post (.ok answer) after) :
    Respects externals ledgers t (ledger.verifyProof proof expected) Post world := by
  rintro before grown invariant answer after rfl
  refine ⟨permits_saw invariant rfl trivial, next answer _ ?_ (by simp [World.saw])⟩
  exact grown.trans (List.prefix_append _ _)

theorem respects_checkFinality {ledger : Ledger} {evidence : Evidence}
    {expected : SettlementExpectation}
    {Post : Except LedgerError (Except RailError FinalityStatus) → World Proof Evidence → Prop}
    (next : ∀ answer after, world.acts <+: after.acts →
      Act.judged ledger.railId evidence expected answer ∈ after.acts → Post (.ok answer) after) :
    Respects externals ledgers t (ledger.checkFinality evidence expected) Post world := by
  rintro before grown invariant answer after rfl
  refine ⟨permits_saw invariant rfl trivial, next answer _ ?_ (by simp [World.saw])⟩
  exact grown.trans (List.prefix_append _ _)

/-- A justified event may be appended, whatever happened since. -/
theorem append_permits {body : EventBody} (grown : world.acts <+: before.acts)
    (invariant : (discipline Tid externals ledgers).Inv before)
    (sound : ∀ event, event.ctx = ctx → event.recordedAt = now → event.body = body →
      EventSound externals ledgers world.acts event) :
    (discipline Tid externals ledgers).Permits t before
        (before.append externals ctx now body).2 ∧
      before.acts <+: (before.append externals ctx now body).2.acts ∧
      ∀ event, (before.append externals ctx now body).1 = .ok (.appended event) →
        event.ctx = ctx ∧ event.body = body ∧
          Act.appended event ∈ (before.append externals ctx now body).2.acts := by
  obtain ⟨run, each⟩ := invariant
  have continued : Traced.Reachable externals (before.append externals ctx now body).2.traced := by
    rw [World.append_traced]
    exact run.tail (.append before.traced ctx now body)
  obtain ⟨same, refusal⟩ | ⟨event, own, time, content, answered, logged⟩ :=
    before.append_acts externals ctx now body
  · rw [same] at continued ⊢
    refine ⟨⟨⟨continued, each⟩, fun _ _ => List.prefix_refl _⟩, List.prefix_refl _, ?_⟩
    intro event answered
    simpa using refusal _ answered
  · have extended : before.acts <+: (before.append externals ctx now body).2.acts := by
      rw [logged]
      exact List.prefix_append _ _
    refine ⟨⟨⟨continued, ?_⟩, fun _ _ => extended⟩, extended, ?_⟩
    · rw [logged]
      exact each.append ((sound event own time content).later grown)
    · intro other answeredOther
      rw [answered] at answeredOther
      cases answeredOther
      exact ⟨own, content, by simp [logged]⟩

theorem respects_tryAppend {body : EventBody}
    {Post : Except LedgerError (Except StoreError AppendOutcome) → World Proof Evidence → Prop}
    (sound : ∀ event, event.ctx = ctx → event.recordedAt = now → event.body = body →
      EventSound externals ledgers world.acts event)
    (next : ∀ result after, world.acts <+: after.acts →
      (∀ event, result = .ok (.appended event) →
        event.ctx = ctx ∧ event.body = body ∧ Act.appended event ∈ after.acts) →
      Post (.ok result) after) :
    Respects externals ledgers t (Ledger.tryAppend ctx now body) Post world := by
  intro before grown invariant answer after executed
  obtain ⟨rfl, rfl⟩ := Prod.mk.inj executed
  obtain ⟨permitted, extended, answered⟩ := append_permits grown invariant sound
  exact ⟨permitted, next _ _ (grown.trans extended) answered⟩

theorem respects_append {body : EventBody}
    {Post : Except LedgerError AppendOutcome → World Proof Evidence → Prop}
    (sound : ∀ event, event.ctx = ctx → event.recordedAt = now → event.body = body →
      EventSound externals ledgers world.acts event)
    (next : ∀ result after, world.acts <+: after.acts → Post result after) :
    Respects externals ledgers t (Ledger.append ctx now body) Post world := by
  intro before grown invariant answer after executed
  obtain ⟨rfl, rfl⟩ := Prod.mk.inj executed
  obtain ⟨permitted, extended, -⟩ := append_permits grown invariant sound
  exact ⟨permitted, next _ _ (grown.trans extended)⟩

end Rules

end MandateLedger.Engine
