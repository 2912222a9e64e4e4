import MandateLedger.Engine.Refusals
import MandateLedger.Memory.Exactness

namespace MandateLedger.Engine

open MandateLedger.Core MandateLedger.Data MandateLedger.Memory MandateLedger.Process

/-- A result a host need not retry: the token, or a refusal with its reason. -/
def Decided {α : Type} (result : Except LedgerError α) : Prop :=
  ∀ error, result = .error error → ∃ denied, error = .denied denied

/-- The budget arithmetic has no result: the reservation is in another currency, the
new total overflows, or it is over the cap and what remains of the cap overflows. -/
def Incomputable (ops : DecimalOps) (scope : Scope) (amount : Money) (reserved : Option Money) :
    Prop :=
  let current := reserved.getD (.zero amount.currency)
  current.currency ≠ amount.currency ∨
    ops.checkedAdd current.amount amount.amount = none ∨
    ∃ next cap, ops.checkedAdd current.amount amount.amount = some next ∧
      scope.maxTotal = some cap ∧ cap.amount.toRat < next.toRat ∧
      ops.checkedSub cap.amount current.amount = none

theorem checkBudget_error_iff {ops : DecimalOps} {scope : Scope} {amount : Money}
    {reserved : Option Money}
    (capped : ∀ cap, scope.maxTotal = some cap → cap.currency = amount.currency) :
    (∃ error, checkBudget ops scope amount reserved = .error error) ↔
      Incomputable ops scope amount reserved := by
  unfold Incomputable checkBudget
  generalize reserved.getD (.zero amount.currency) = current
  dsimp only
  unfold Money.checkedAdd Money.checked Money.ensureSameCurrency
  by_cases same : current.currency = amount.currency
  · cases added : ops.checkedAdd current.amount amount.amount with
    | none => simp [same, bind, Except.bind]
    | some next =>
        cases limit : scope.maxTotal with
        | none => simp [same, bind, Except.bind, pure, Except.pure]
        | some cap =>
            have denominated := capped cap limit
            unfold Money.cmpSameCurrency Money.checkedSub Money.checked Money.ensureSameCurrency
            by_cases greater : next.cmp cap.amount = .gt
            · have larger := (Decimal.cmp_eq_gt_iff _ _).mp greater
              cases left : ops.checkedSub cap.amount current.amount <;>
                simp [same, denominated, greater, larger, left, bind, Except.bind,
                  pure, Except.pure]
            · have within : ¬ cap.amount.toRat < next.toRat :=
                fun larger => greater ((Decimal.cmp_eq_gt_iff _ _).mpr larger)
              simp [same, denominated, greater, within, bind, Except.bind, pure,
                Except.pure]
  · simp [same, bind, Except.bind]

/-- A purchase that passes every check before the budget. -/
structure Clears (externals : Externals) (ledger : Ledger) (inner : Inner) (mandate : Mandate)
    (cart : Cart) (requestKey : String) (now : Timestamp) : Prop where
  fresh : inner.records.lookup (attempt externals mandate cart requestKey) = none
  verified : mandate.verify externals.signatures = .ok ()
  trusted : ledger.signers mandate.body.principal mandate.signer = true
  active : mandate.id ∉ inner.revoked
  admitted : mandate.body.scope.admits cart.claims cart.attestation now = .ok ()
  paced : checkVelocity mandate.body.scope now (inner.countSince mandate.id) = none

/-- Every event can be written as canonical JSON. -/
def Canonical (externals : Externals) : Prop :=
  ∀ preimage, ∃ bytes, externals.canonicalPreimage preimage = .ok bytes

theorem Canonical.built {externals : Externals} (canonical : Canonical externals)
    (prevHash : Hash32) (seq : Nat) (ctx : ContextId) (now : Timestamp) (body : EventBody) :
    ∃ event, Event.new externals prevHash seq ctx now body = .ok event := by
  obtain ⟨bytes, written⟩ := canonical ⟨seq, ctx, now, body⟩
  exact ⟨_, by rw [Event.new, Event.computeHash, written]; rfl⟩

section Append

variable {externals : Externals} {inner : Inner} {ctx : ContextId} {now : Timestamp}

theorem append_denied_decides (canonical : Canonical externals) (stage : Stage)
    (reason : DenyReason) (detail : String) :
    (inner.append externals ctx now (.denied stage reason detail)).1 = .ok .denialsCapped ∨
      ∃ event, (inner.append externals ctx now (.denied stage reason detail)).1 =
        .ok (.appended event) := by
  obtain ⟨-, capped⟩ | ⟨uncapped, -⟩ := inner.append_denied externals ctx now stage reason detail
  · exact .inl (by rw [capped])
  · obtain ⟨event, built⟩ := canonical.built (inner.prevHash ctx) (inner.lastSeq + 1) ctx now
      (.denied stage reason detail)
    exact .inr ⟨event, by rw [(Inner.Writes.denied uncapped).appended built]⟩

theorem append_authorized_error_iff (canonical : Canonical externals) {mandate : Mandate}
    {cart : CartSnapshot} {requestKey : String} (absent : inner.records.lookup ctx = none) :
    (∃ error, (inner.append externals ctx now (.authorized mandate cart requestKey)).1 =
        .error error) ↔
      mandate.body.id ∉ inner.revoked ∧
        checkVelocity mandate.body.scope now (inner.countSince mandate.body.id) = none ∧
        ∃ error, checkBudget externals.decimals mandate.body.scope cart.claims.total
          (inner.reserved.lookup mandate.body.id) = .error error := by
  have opens : checkTransition (inner.records.lookup ctx) ctx .authorized = .ok () :=
    checkTransition_authorized.mpr absent
  by_cases revoked : mandate.body.id ∈ inner.revoked
  · refine iff_of_false ?_ (fun fails => fails.1 revoked)
    simp [Inner.append, Inner.validate, Inner.validateAuthorized, opens, revoked, pure, Except.pure]
  cases paced : checkVelocity mandate.body.scope now (inner.countSince mandate.body.id) with
  | some outcome =>
      refine iff_of_false ?_ (by simp)
      simp [Inner.append, Inner.validate, Inner.validateAuthorized, opens, revoked, paced, pure,
        Except.pure]
  | none =>
      cases budget : checkBudget externals.decimals mandate.body.scope cart.claims.total
          (inner.reserved.lookup mandate.body.id) with
      | error error =>
          refine iff_of_true ?_ ⟨revoked, rfl, error, rfl⟩
          simp [Inner.append, Inner.validate, Inner.validateAuthorized, opens, revoked, paced,
            budget]
      | ok verdict =>
          refine iff_of_false ?_ (by simp)
          cases verdict with
          | refused outcome =>
              simp [Inner.append, Inner.validate, Inner.validateAuthorized, opens, revoked, paced,
                budget, pure, Except.pure]
          | granted next =>
              obtain ⟨event, built⟩ := canonical.built (inner.prevHash ctx) (inner.lastSeq + 1) ctx
                now (.authorized mandate cart requestKey)
              have writes : inner.Writes externals.decimals ctx now
                  (.authorized mandate cart requestKey) _ :=
                .authorized absent revoked paced budget
              simp [writes.appended built]

end Append

section Plans

variable {Proof Evidence α : Type} {externals : Externals} {world : World Proof Evidence}
  {around : Surroundings Proof Evidence} {ctx : ContextId} {now : Timestamp}

theorem decided_deny (canonical : Canonical externals) (refusal : Refusal) :
    Decided (world.complete externals around
      (Plan.deny ctx now refusal : Call Proof Evidence α).run).1 := by
  unfold Plan.deny Ledger.deny
  rw [World.complete_bind, World.complete_append]
  have answered : (world.append externals ctx now
      (.denied refusal.stage refusal.reason refusal.detail)).1 = (world.inner.append externals ctx
        now (.denied refusal.stage refusal.reason refusal.detail)).1 := rfl
  rw [answered]
  intro error returned
  rcases append_denied_decides canonical refusal.stage refusal.reason refusal.detail with
    capped | ⟨event, appended⟩
  · rw [capped] at returned
    cases returned
    exact ⟨_, rfl⟩
  · rw [appended] at returned
    cases returned
    exact ⟨_, rfl⟩

theorem decided_submit_iff (canonical : Canonical externals) (submission : Submission α) :
    Decided (world.complete externals around
        ((Plan.submit submission).call ctx now : Call Proof Evidence α).run).1 ↔
      ¬ ∃ error, (world.inner.append externals ctx now submission.body).1 = .error error := by
  rw [Plan.call, World.complete_bind, World.complete_append]
  have own : (world.append externals ctx now submission.body).1 =
      (world.inner.append externals ctx now submission.body).1 := rfl
  rw [← own]
  obtain ⟨error, answered, -⟩ | ⟨outcome, answered, refuses⟩ | ⟨event, tables, -, -, answered⟩ :=
    world.append_cases externals ctx now submission.body
  · rw [answered]
    refine iff_of_false ?_ (by simp)
    intro decided
    obtain ⟨denied, same⟩ := decided _ rfl
    cases same
  · obtain ⟨refusal, handled⟩ := submission.handled outcome refuses
    rw [answered]
    dsimp only [mapError_ok, mapError_error]
    rw [Plan.conclude_refused refuses handled]
    exact iff_of_true (decided_deny canonical refusal) (by simp)
  · rw [answered]
    refine iff_of_true ?_ (by simp)
    intro error returned
    cases returned

end Plans

section Authorize

variable {Proof Evidence : Type} {externals : Externals} {world : World Proof Evidence}
  {mandate : Mandate} {cart : Cart} {now : Timestamp}

/-- A verified mandate's cap is in the currency of the carts it admits. -/
theorem cap_currency (verified : mandate.verify externals.signatures = .ok ())
    (admitted : mandate.body.scope.admits cart.claims cart.attestation now = .ok ()) :
    ∀ cap, mandate.body.scope.maxTotal = some cap → cap.currency = cart.claims.total.currency := by
  intro cap limit
  obtain ⟨valid, -⟩ := check_bind_eq_ok.mp verified
  simp only [Scope.validate, check_bind_eq_ok] at valid
  obtain ⟨-, -, capped, -⟩ := valid
  rw [limit] at capped
  obtain ⟨same, -⟩ := check_bind_eq_ok.mp capped
  rw [ensure_eq_ok.mp same, (Scope.admits_eq_ok.mp admitted).currency]

theorem decided_replay (canonical : Canonical externals) {ctx : ContextId} {record : Record}
    (around : Surroundings Proof Evidence) (reached : Traced.Reachable externals world.traced)
    (found : world.inner.records.lookup ctx = some record) :
    Decided (world.complete externals around
      ((replayPlan externals record mandate (world.inner.authorizedMandate ctx)).call ctx
        now : Call Proof Evidence Authorized).run).1 := by
  have answers : ∀ value : Authorized, Decided (world.complete externals around
      ((Plan.answer value).call ctx now : Call Proof Evidence Authorized).run).1 := by
    intro value error returned
    cases returned
  unfold replayPlan
  cases mandate.verify externals.signatures with
  | error why => exact decided_deny canonical _
  | ok verified =>
      obtain ⟨-, -, stored, -, -, -, read⟩ | ⟨read, ended⟩ :=
        (Lifecycle.run reached).authorizedMandate found
      · have same : world.inner.authorizedMandate ctx = some stored := read
        rw [same]
        dsimp only
        split
        · exact decided_deny canonical _
        · split
          · exact decided_deny canonical _
          · exact answers _
      · have none : world.inner.authorizedMandate ctx = none := read
        rw [none]
        dsimp only
        rw [if_pos ended]
        exact decided_deny canonical _

end Authorize

theorem sample_canonical : Canonical Sample.externals := fun _ => ⟨_, rfl⟩

def eurc : Currency := ⟨"EURC", by decide⟩

/-- A mandate of Bob's, in another currency, with the id of Alice's. -/
def namesake : Mandate :=
  let mandate := Sample.mandate Sample.bob
  { mandate with
    body := { mandate.body with
      scope := { mandate.body.scope with currency := eurc, maxTotal := none } } }

def euroCart : Cart :=
  { Sample.cart with
    claims := ⟨Sample.merchant, ⟨⟨false, 500, 2⟩, eurc⟩, none, none⟩ }

def uncapped : Mandate :=
  let mandate := Sample.mandate Sample.alice
  { mandate with
    body := { mandate.body with scope := { mandate.body.scope with maxTotal := none } } }

def largestCart : Cart :=
  { Sample.cart with
    claims := ⟨Sample.merchant, ⟨⟨false, 2 ^ 96 - 1, 0⟩, Sample.usdc⟩, none, none⟩ }

def reservedLargest : World Adapters.MockProof Adapters.MockFinality :=
  World.empty.serve rustSample [(Adapters.Sample.rail.surroundings ⟨10⟩,
    .authorize Adapters.Sample.ledger uncapped largestCart "k1")]

/-- `authorize` decides, unless the purchase passes every check and the budget it is
held against cannot be computed. -/
theorem authorize_decides_iff {Proof Evidence : Type} {externals : Externals}
    (canonical : Canonical externals) {world : World Proof Evidence}
    (reached : Traced.Reachable externals world.traced) (around : Surroundings Proof Evidence)
    (ledger : Ledger) (mandate : Mandate) (cart : Cart) (requestKey : String) :
    Decided (world.complete externals around
        (ledger.authorize externals mandate cart requestKey).run).1 ↔
      ¬ (Clears externals ledger world.inner mandate cart requestKey around.now ∧
        Incomputable externals.decimals mandate.body.scope cart.claims.total
          (world.inner.reserved.lookup mandate.id)) := by
  rw [World.complete_authorize_eq]
  unfold authorizePlan
  dsimp only
  cases found : world.inner.records.lookup (attempt externals mandate cart requestKey) with
  | some record =>
      refine iff_of_true (decided_replay canonical around reached found) ?_
      intro undecided
      rw [undecided.1.fresh] at found
      cases found
  | none =>
      unfold freshPlan
      cases verified : mandate.verify externals.signatures with
      | error why =>
          refine iff_of_true (decided_deny canonical _) ?_
          intro undecided
          rw [undecided.1.verified] at verified
          cases verified
      | ok valid =>
          dsimp only
          by_cases untrusted : ledger.signers mandate.body.principal mandate.signer = false
          · rw [if_pos untrusted]
            refine iff_of_true (decided_deny canonical _) ?_
            intro undecided
            rw [undecided.1.trusted] at untrusted
            cases untrusted
          rw [if_neg untrusted]
          by_cases revoked : mandate.id ∈ world.inner.revoked
          · rw [if_pos (decide_eq_true revoked)]
            refine iff_of_true (decided_deny canonical _) ?_
            intro undecided
            exact undecided.1.active revoked
          rw [if_neg (by simpa using revoked)]
          cases admitted : mandate.body.scope.admits cart.claims cart.attestation around.now with
          | error refusal =>
              refine iff_of_true (decided_deny canonical _) ?_
              intro undecided
              rw [undecided.1.admitted] at admitted
              cases admitted
          | ok admits =>
              dsimp only
              rw [decided_submit_iff canonical, not_iff_not]
              dsimp only [authorizedSubmission]
              rw [append_authorized_error_iff canonical found]
              have budget : (∃ error, checkBudget externals.decimals mandate.body.scope
                  cart.claims.total (world.inner.reserved.lookup mandate.body.id) = .error error) ↔ _ :=
                checkBudget_error_iff (cap_currency verified admitted)
              have trusted : ledger.signers mandate.body.principal mandate.signer = true := by
                simpa using untrusted
              constructor
              · intro fails
                obtain ⟨active, paced, error⟩ := fails
                exact ⟨⟨found, verified, trusted, active, admitted, paced⟩, budget.mp error⟩
              · intro undecided
                exact ⟨undecided.1.active, undecided.1.paced, budget.mpr undecided.2⟩

theorem openedPurchase_decides :
    Decided (openedPurchase.complete Sample.externals (Adapters.Sample.rail.surroundings ⟨20⟩)
      (Adapters.Sample.ledger.authorize Sample.externals
        (Sample.mandate Sample.alice) Sample.cart "k2").run).1 := by
  have run : Traced.Reachable Sample.externals openedPurchase.traced :=
    (reachable_kept openedPurchase_reachable).inv.1
  refine (authorize_decides_iff sample_canonical run _ _ _ _ _).mpr ?_
  rintro ⟨-, foreign | overflow | ⟨_, _, -, -, -, unknown⟩⟩
  · exact foreign rfl
  · cases overflow
  · cases unknown

/-- Bob's purchase meets the reservation of Alice's mandate of the same id; and twice
the largest amount is more than a reservation can hold. -/
theorem purchases_undecided :
    (openedPurchase.complete Sample.externals (Adapters.Sample.rail.surroundings ⟨20⟩)
        (Adapters.Sample.ledger.authorize Sample.externals namesake euroCart "k2").run).1 =
      .error (.store (.money (.currencyMismatch Sample.usdc eurc))) ∧
    (reservedLargest.complete rustSample (Adapters.Sample.rail.surroundings ⟨20⟩)
        (Adapters.Sample.ledger.authorize rustSample uncapped largestCart "k2").run).1 =
      .error (.store (.money .overflow)) := by
  exact ⟨by decide +kernel, by decide +kernel⟩

end MandateLedger.Engine
