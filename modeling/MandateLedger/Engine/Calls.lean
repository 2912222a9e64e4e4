import MandateLedger.Engine.Discipline

namespace MandateLedger.Engine

open MandateLedger.Core MandateLedger.Data MandateLedger.Memory MandateLedger.Process

variable {Proof Evidence : Type} {Tid : Type} {t : Tid} {externals : Externals}
  {ledgers : Set Ledger} {world : World Proof Evidence} {ctx : ContextId} {now : Timestamp}

theorem mem_history {event : Event} : event ∈ world.history ↔ Act.appended event ∈ world.acts := by
  unfold World.history
  rw [List.mem_filterMap]
  constructor
  · rintro ⟨act, listed, found⟩
    cases act <;> cases found
    exact listed
  · intro listed
    exact ⟨_, listed, rfl⟩

theorem authorizes_of_record {record : Record} (run : Traced.Reachable externals world.traced)
    (found : world.inner.records.lookup ctx = some record) :
    record.ctx = ctx ∧ Authorizes world.acts (Ledger.authorizedFrom record) := by
  have lifecycle := Lifecycle.run run
  refine ⟨lifecycle.record_ctx found, ?_⟩
  obtain ⟨⟨event, listed, stands⟩, -⟩ := lifecycle.provenance found
  exact ⟨event, mem_history.mp (mem_changes.mp listed).1, stands⟩

theorem pays_of_record {record : Record} {rail reference : String}
    (run : Traced.Reachable externals world.traced)
    (found : world.inner.records.lookup ctx = some record) (railed : record.rail = some rail)
    (referenced : record.paymentReference = some reference) :
    ∃ paid, paid.ctx = ctx ∧ paid.rail = rail ∧ paid.reference = reference ∧
      Pays world.acts paid := by
  have provenance := (Lifecycle.run run).provenance found
  obtain ⟨none, -⟩ | ⟨event, listed, token, stands, rails, references, -⟩ := provenance.paid
  · rw [railed] at none
    cases none
  · rw [railed] at rails
    rw [referenced] at references
    cases rails
    cases references
    obtain ⟨_, _, _, _, _, -, same⟩ := paidToken_eq_some.mp stands
    have own : token.ctx = event.ctx := congrArg Paid.ctx same
    exact ⟨token, own.trans (mem_changes.mp listed).2.1, rfl, rfl, event,
      mem_history.mp (mem_changes.mp listed).1, stands⟩

section Refusals

variable {α : Type} {Post : Except LedgerError α → World Proof Evidence → Prop}

/-- Whatever error the call ends with from here on, it may. -/
def MayFail (world : World Proof Evidence)
    (Post : Except LedgerError α → World Proof Evidence → Prop) : Prop :=
  ∀ error after, world.acts <+: after.acts → Post (.error error) after

theorem MayFail.here (fails : MayFail world Post) (error : LedgerError) :
    Post (.error error) world := fails error world (List.prefix_refl _)

theorem respects_deny {stage : Stage} {reason : DenyReason} {detail : String}
    (fails : MayFail world Post) :
    Respects externals ledgers t (Ledger.deny ctx now stage reason detail) Post world := by
  refine respects_bind _ _ (respects_append ?_ ?_)
  · intro event _ _ content
    simp [EventSound, content]
  · intro result after grown
    cases result with
    | error error => exact fails error after grown
    | ok outcome => cases outcome <;> exact fails _ after grown

theorem respects_appendPlain {body : EventBody}
    {Post : Except LedgerError Unit → World Proof Evidence → Prop}
    (sound : ∀ event, event.ctx = ctx → event.recordedAt = now → event.body = body →
      EventSound externals ledgers world.acts event)
    (next : ∀ result after, world.acts <+: after.acts → Post result after) :
    Respects externals ledgers t (Ledger.appendPlain ctx now body) Post world := by
  refine respects_bind _ _ (respects_append sound ?_)
  intro result after grown
  cases result with
  | error error => exact next _ after grown
  | ok outcome => cases outcome <;> exact next _ after grown

theorem respects_refuseState {stage : Stage} (state : Option PaymentState)
    (fails : MayFail world Post) :
    Respects externals ledgers t (Ledger.refuseState ctx now stage state) Post world := by
  cases state <;> exact respects_deny fails

end Refusals

/-- A token that is returned stands for an event that was appended. -/
def Truthful (result : Except LedgerError Authorized) (world : World Proof Evidence) : Prop :=
  ∀ token, result = .ok token → Authorizes world.acts token

theorem mayFail_truthful (world : World Proof Evidence) : MayFail world Truthful := by
  intro error after _ token returned
  cases returned

theorem respects_replay {record : Record} {mandate : Mandate}
    (opened : Authorizes world.acts (Ledger.authorizedFrom record)) :
    Respects externals ledgers t (Ledger.replay externals ctx now record mandate) Truthful
      world := by
  unfold Ledger.replay
  split
  · exact respects_deny (mayFail_truthful world)
  · refine respects_bind _ _ (respects_authorizedMandate ?_)
    intro stored after grown
    cases stored with
    | none =>
        change Respects externals ledgers t (if record.state.isTerminal = true then _ else _) _ _
        split
        · exact respects_deny (mayFail_truthful after)
        · exact (mayFail_truthful after).here _
    | some stored =>
        change Respects externals ledgers t
          (if (!(stored.body == mandate.body)) = true then _ else _) _ _
        split
        · exact respects_deny (mayFail_truthful after)
        · split
          · exact respects_deny (mayFail_truthful after)
          · rintro token ⟨⟩
            exact opened.later grown

theorem respects_authorization {mandate : Mandate} {cart : Cart} {requestKey : String}
    {outcome : AppendOutcome}
    (appended : ∀ event, outcome = .appended event → event.ctx = ctx ∧
      event.body = .authorized mandate (cart.snapshot externals.sha256) requestKey ∧
      Act.appended event ∈ world.acts) :
    Respects externals ledgers t
      (Ledger.authorization ctx now mandate (cart.hash externals.sha256) cart.claims outcome)
      Truthful world := by
  cases outcome with
  | appended event =>
      obtain ⟨own, content, listed⟩ := appended event rfl
      rintro token ⟨⟩
      exact ⟨event, listed, authorizedToken_eq_some.mpr ⟨_, _, _, content, by rw [own]; rfl⟩⟩
  | budgetExceeded remaining => exact respects_deny (mayFail_truthful world)
  | velocityExceeded count => exact respects_deny (mayFail_truthful world)
  | mandateRevoked => exact respects_deny (mayFail_truthful world)
  | nonceAlreadyUsed => exact (mayFail_truthful world).here _
  | denialsCapped => exact (mayFail_truthful world).here _

theorem respects_submitAuthorized {mandate : Mandate} {cart : Cart} {requestKey : String}
    (sound : ∀ event, event.ctx = ctx → event.recordedAt = now →
      AuthorizedSound externals ledgers event mandate (cart.snapshot externals.sha256)
        requestKey) :
    Respects externals ledgers t
      (Ledger.submitAuthorized externals ctx now mandate cart requestKey) Truthful world := by
  refine respects_bind _ _ (respects_tryAppend ?_ ?_)
  · intro event own time content
    rw [EventSound, content]
    exact sound event own time
  · intro result after grown appended
    dsimp only [Ends]
    split
    · next outcome =>
        exact respects_authorization fun event same => appended event (by rw [same])
    · refine respects_bind _ _ (respects_record ?_)
      intro later further run
      cases found : later.inner.records.lookup ctx with
      | none => exact (mayFail_truthful later).here _
      | some record => exact respects_replay (authorizes_of_record run found).2
    · exact (mayFail_truthful after).here _

theorem respects_authorizeFresh {ledger : Ledger} {mandate : Mandate} {cart : Cart}
    {requestKey : String} (listed : ledger ∈ ledgers)
    (derived : ctx = ContextId.derive externals.sha256 mandate.id (cart.hash externals.sha256)
      requestKey) :
    Respects externals ledgers t
      (ledger.authorizeFresh externals ctx now mandate cart requestKey) Truthful world := by
  unfold Ledger.authorizeFresh
  split
  · exact respects_deny (mayFail_truthful world)
  · next verified =>
      split
      · exact respects_deny (mayFail_truthful world)
      · next trusted =>
          refine respects_bind _ _ (respects_isRevoked ?_)
          intro revoked after grown
          cases revoked with
          | true => exact respects_deny (mayFail_truthful after)
          | false =>
              dsimp only [Ends]
              rw [if_neg Bool.false_ne_true]
              split
              · exact respects_deny (mayFail_truthful after)
              · next admitted =>
                  apply respects_submitAuthorized
                  intro event own time
                  refine ⟨verified, ⟨ledger, listed, Bool.not_eq_false _ ▸ trusted⟩, ?_, ?_, rfl⟩
                  · rw [time]
                    exact admitted
                  · exact own.trans derived

theorem respects_authorize {ledger : Ledger} (listed : ledger ∈ ledgers) (mandate : Mandate)
    (cart : Cart) (requestKey : String) :
    Respects externals ledgers t (ledger.authorize externals mandate cart requestKey) Truthful
      world := by
  refine respects_bind _ _ (respects_now ?_)
  intro now started _
  refine respects_bind _ _ (respects_record ?_)
  intro after grown run
  cases found : after.inner.records.lookup (ContextId.derive externals.sha256 mandate.id
      (cart.hash externals.sha256) requestKey) with
  | some record => exact respects_replay (authorizes_of_record run found).2
  | none => exact respects_authorizeFresh listed rfl

/-- What a proof names is nothing, the expected thing, or another. -/
theorem bound_cases {α : Type} [DecidableEq α] (bound : Option α) (own : α) :
    bound = none ∨ bound = some own ∨
      ∃ other, bound = some other ∧ other ≠ own ∧ (other == own) = false := by
  cases bound with
  | none => exact .inl rfl
  | some other =>
      by_cases same : other = own
      · exact .inr (.inl (by rw [same]))
      · exact .inr (.inr ⟨other, rfl, same, beq_eq_false_iff_ne.mpr same⟩)

/-- The engine lets a proof through exactly when it agrees with the record. -/
theorem proofRefusal_eq_none {record : Record} {verified : VerifiedProof} (own : record.ctx = ctx) :
    Ledger.proofRefusal ctx record verified = none ↔
      Agrees verified (Ledger.authorizedFrom record) := by
  subst own
  have agrees : Agrees verified (Ledger.authorizedFrom record) ↔
      (verified.amount == record.amount) = true ∧
      (verified.boundCtx = some record.ctx ∨ verified.boundCart = some record.cartHash) ∧
      (∀ bound ∈ verified.boundCtx, bound = record.ctx) ∧
      (∀ bound ∈ verified.boundCart, bound = record.cartHash) ∧
      ∀ payee ∈ verified.boundMerchant, payee = record.merchant :=
    ⟨fun ⟨amount, bound, ctx, cart, payee⟩ => ⟨amount, bound, ctx, cart, payee⟩,
      fun ⟨amount, bound, ctx, cart, payee⟩ => ⟨amount, bound, ctx, cart, payee⟩⟩
  rw [agrees]
  unfold Ledger.proofRefusal
  by_cases amount : (verified.amount == record.amount) = true
  · obtain ctx | ctx | ⟨_, ctx, _, _⟩ := bound_cases verified.boundCtx record.ctx <;>
      obtain cart | cart | ⟨_, cart, _, _⟩ := bound_cases verified.boundCart record.cartHash <;>
      obtain payee | payee | ⟨_, payee, _, _⟩ :=
        bound_cases verified.boundMerchant record.merchant <;>
      simp [*]
  · simp [amount]

/-- The calls that return no `Authorized` token may end as they like. -/
abbrev Anyhow {α : Type} (_ : Except LedgerError α) (_ : World Proof Evidence) : Prop := True

theorem mayFail_anyhow {α : Type} (world : World Proof Evidence) :
    MayFail world (Anyhow : Except LedgerError α → World Proof Evidence → Prop) :=
  fun _ _ _ => trivial

theorem respects_submitPayment {ledger : Ledger} {record : Record} {verified : VerifiedProof}
    {proof : Proof} (own : record.ctx = ctx)
    (opened : Authorizes world.acts (Ledger.authorizedFrom record))
    (told : Act.verified ledger.railId proof (Ledger.paymentExpectation ctx record)
      (.ok verified) ∈ world.acts) :
    Respects externals ledgers t (ledger.submitPayment externals ctx now record verified) Anyhow
      world := by
  refine respects_bind _ _ ?_
  unfold Ledger.checkProofBinding
  split
  · exact respects_deny (fun _ _ _ => trivial)
  · next agreed =>
      refine respects_bind _ _ (respects_append ?_ ?_)
      · intro event same _ content
        rw [EventSound, content]
        refine ⟨Ledger.authorizedFrom record, proof, _, verified, own.trans same.symm, opened, told,
          same.symm, (proofRefusal_eq_none own).mp agreed, rfl, rfl, rfl⟩
      · intro result after grown
        cases result with
        | error error => trivial
        | ok outcome => cases outcome <;> first | trivial | exact respects_deny (mayFail_anyhow _)

theorem respects_recordPayment (ledger : Ledger) (auth : Authorized) (proof : Proof) :
    Respects externals ledgers t (ledger.recordPayment externals auth proof) Anyhow world := by
  refine respects_bind _ _ (respects_now ?_)
  intro now started _
  refine respects_bind _ _ (respects_record ?_)
  intro after grown run
  cases found : after.inner.records.lookup auth.ctx with
  | none => exact respects_deny (mayFail_anyhow _)
  | some record =>
      obtain ⟨own, opened⟩ := authorizes_of_record run found
      refine respects_bind _ _ (respects_verifyProof ?_)
      intro answer later further told
      dsimp only [Ends]
      split
      · exact respects_deny (mayFail_anyhow _)
      · trivial
      · split
        · unfold Ledger.retryPayment
          split
          · split <;> trivial
          · exact respects_deny (mayFail_anyhow _)
        · exact respects_submitPayment own (opened.later further) told

theorem respects_settlementReplay {record : Record}
    {Post : Except LedgerError (Option Settlement) → World Proof Evidence → Prop}
    (fails : MayFail world Post) (returns : ∀ settlement, Post (.ok settlement) world) :
    Respects externals ledgers t (Ledger.settlementReplay ctx now record) Post world := by
  have settled : Respects externals ledgers t (do
      let token ← (Ledger.settledFrom record : Except LedgerError Settled)
      return some (.settled token) : Call Proof Evidence (Option Settlement)) Post world := by
    unfold Ledger.settledFrom
    cases record.settlementReference with
    | none => exact fails.here _
    | some reference => exact returns _
  have failed : Respects externals ledgers t (do
      let token ← (Ledger.failedFrom record : Except LedgerError SettlementFailed)
      return some (.failed token) : Call Proof Evidence (Option Settlement)) Post world := by
    unfold Ledger.failedFrom
    cases record.failureReason with
    | none => exact fails.here _
    | some reason => exact returns _
  unfold Ledger.settlementReplay
  split
  · exact returns none
  · exact settled
  · exact settled
  · exact failed
  · exact failed
  · exact respects_deny fails
  · exact respects_deny fails

theorem respects_submitSettlement {ledger : Ledger} {record : Record} {evidence : Evidence}
    {reference : String} {status : FinalityStatus} (own : record.ctx = ctx)
    (opened : Authorizes world.acts (Ledger.authorizedFrom record))
    (paid : ∃ paid, paid.ctx = ctx ∧ paid.rail = ledger.railId ∧ paid.reference = reference ∧
      Pays world.acts paid)
    (told : Act.judged ledger.railId evidence (Ledger.settlementExpectation ctx record reference)
      (.ok status) ∈ world.acts) :
    Respects externals ledgers t (ledger.submitSettlement ctx now status) Anyhow world := by
  obtain ⟨token, same, railed, rfl, pays⟩ := paid
  have sound : SettlementSound world.acts ctx ledger.railId status :=
    ⟨Ledger.authorizedFrom record, token, evidence, own, opened, same, pays, railed, told⟩
  cases status with
  | final settled =>
      refine respects_bind _ _ (respects_appendPlain ?_ ?_)
      · rintro event rfl - content
        rw [EventSound, content]
        exact sound
      · intro result after grown
        cases result <;> trivial
  | pending reason => trivial
  | failed reason =>
      refine respects_bind _ _ (respects_appendPlain ?_ ?_)
      · rintro event rfl - content
        rw [EventSound, content]
        exact sound
      · intro result after grown
        cases result <;> trivial

theorem respects_settlePaid {ledger : Ledger} {record : Record} {evidence : Evidence}
    (own : record.ctx = ctx) (opened : Authorizes world.acts (Ledger.authorizedFrom record))
    (paid : ∀ rail reference, record.rail = some rail → record.paymentReference = some reference →
      ∃ paid, paid.ctx = ctx ∧ paid.rail = rail ∧ paid.reference = reference ∧
        Pays world.acts paid) :
    Respects externals ledgers t (ledger.settlePaid externals ctx now record evidence) Anyhow
      world := by
  unfold Ledger.settlePaid
  split
  · exact respects_deny (mayFail_anyhow _)
  · next railed =>
      split
      · trivial
      · next reference referenced =>
          obtain ⟨token, same, rails, references, pays⟩ :=
            paid _ reference (Decidable.not_not.mp railed) referenced
          refine respects_bind _ _ (respects_checkFinality ?_)
          intro answer after grown told
          dsimp only [Ends]
          split
          · exact respects_deny (mayFail_anyhow _)
          · trivial
          · exact respects_submitSettlement own (opened.later grown)
              ⟨token, same, rails, references, pays.later grown⟩ told

theorem respects_recordSettlement (ledger : Ledger) (paid : Paid) (evidence : Evidence) :
    Respects externals ledgers t (ledger.recordSettlement externals paid evidence) Anyhow
      world := by
  refine respects_bind _ _ (respects_now ?_)
  intro now started _
  refine respects_bind _ _ (respects_record ?_)
  intro after grown run
  cases found : after.inner.records.lookup paid.ctx with
  | none => exact respects_deny (mayFail_anyhow _)
  | some record =>
      obtain ⟨own, opened⟩ := authorizes_of_record run found
      refine respects_bind _ _ (respects_settlementReplay (fun _ _ _ => trivial) ?_)
      intro settlement
      cases settlement with
      | some settlement => trivial
      | none =>
          exact respects_settlePaid own opened fun rail reference railed referenced =>
            pays_of_record run found railed referenced

theorem respects_state {Post : Except LedgerError (Option PaymentState) → World Proof Evidence → Prop}
    (next : ∀ state after, world.acts <+: after.acts → Post (.ok state) after) :
    Respects externals ledgers t (Ledger.state ctx) Post world :=
  respects_bind _ _ (respects_record fun after grown _ => next _ after grown)

theorem respects_plain {α : Type} {body : EventBody} {value : α}
    (plain : ∀ event, event.body = body → EventSound externals ledgers world.acts event) :
    Respects externals ledgers t (do Ledger.appendPlain ctx now body; return value) Anyhow
      world := by
  refine respects_bind _ _ (respects_appendPlain (fun event _ _ => plain event) ?_)
  intro result after grown
  cases result <;> trivial

theorem respects_compensate (failed : SettlementFailed) (reference : Option String) :
    Respects externals ledgers t
      (Ledger.compensate failed reference : Call Proof Evidence Compensated) Anyhow world := by
  refine respects_bind _ _ (respects_now ?_)
  intro now started _
  refine respects_bind _ _ (respects_state ?_)
  intro state after grown
  dsimp only [Ends]
  split
  · exact respects_plain fun event content => by simp [EventSound, content]
  · trivial
  · exact respects_refuseState _ (mayFail_anyhow _)

theorem respects_expire (auth : Authorized) :
    Respects externals ledgers t (Ledger.expire auth : Call Proof Evidence Unit) Anyhow world := by
  refine respects_bind _ _ (respects_now ?_)
  intro now started _
  refine respects_bind _ _ (respects_state ?_)
  intro state after grown
  dsimp only [Ends]
  split
  · refine respects_appendPlain (fun event _ _ content => ?_) (fun _ _ _ => trivial)
    simp [EventSound, content]
  · trivial
  · exact respects_refuseState _ (mayFail_anyhow _)

theorem respects_recordDelivery (settled : Settled) (receipt : DeliveryReceipt) :
    Respects externals ledgers t
      (Ledger.recordDelivery settled receipt : Call Proof Evidence Delivered) Anyhow world := by
  refine respects_bind _ _ (respects_now ?_)
  intro now started _
  refine respects_bind _ _ (respects_record ?_)
  intro after grown run
  cases found : after.inner.records.lookup settled.ctx with
  | none => exact respects_refuseState _ (mayFail_anyhow _)
  | some record =>
      dsimp only [Ends]
      split
      · exact respects_plain fun event content => by simp [EventSound, content]
      · cases record.receiptReference <;> trivial
      · exact respects_refuseState _ (mayFail_anyhow _)

def authorizedTokens : Response → List Authorized
  | .authorize (.ok token) => [token]
  | .resume (.ok (some (.authorized token))) => [token]
  | .reached (.ok (some reached)) => [reached.authorized]
  | _ => []

/-- Every token of the response stands for an event that was appended. -/
def ResponseTruthful (response : Response) (world : World Proof Evidence) : Prop :=
  ∀ token ∈ authorizedTokens response, Authorizes world.acts token

theorem resumedFrom_authorized {record : Record} {token : Authorized}
    (resumed : Ledger.resumedFrom ctx record = .ok (.authorized token)) :
    token = Ledger.authorizedFrom record := by
  unfold Ledger.resumedFrom at resumed
  split at resumed
  · cases resumed
    rfl
  · obtain ⟨_, -, other⟩ := bind_eq_ok.mp resumed
    cases other
  · obtain ⟨_, -, other⟩ := bind_eq_ok.mp resumed
    cases other
  · obtain ⟨_, -, other⟩ := bind_eq_ok.mp resumed
    cases other
  · cases resumed
  · obtain ⟨_, -, other⟩ := bind_eq_ok.mp resumed
    cases other
  · cases resumed

theorem reachedFrom_authorized {record : Record} {reached : Reached}
    (read : Ledger.reachedFrom ctx record = .ok reached) :
    reached.authorized = Ledger.authorizedFrom record := by
  obtain ⟨_, -, read⟩ := bind_eq_ok.mp read
  obtain ⟨_, -, read⟩ := bind_eq_ok.mp read
  obtain ⟨_, -, read⟩ := bind_eq_ok.mp read
  obtain ⟨_, -, read⟩ := bind_eq_ok.mp read
  cases read
  rfl

theorem respects_resume (ctx : ContextId) :
    Respects externals ledgers t (Ledger.resume ctx : Call Proof Evidence (Option Resumed))
      (fun result after => ResponseTruthful (.resume result) after) world := by
  refine respects_bind _ _ (respects_record ?_)
  intro after grown run
  cases found : after.inner.records.lookup ctx with
  | none =>
      intro token listed
      cases listed
  | some record =>
      dsimp only [Ends]
      cases resumed : Ledger.resumedFrom ctx record with
      | error error =>
          intro token listed
          cases listed
      | ok value =>
          intro token listed
          cases value with
          | authorized own =>
              cases List.mem_singleton.mp listed
              rw [resumedFrom_authorized resumed]
              exact (authorizes_of_record run found).2
          | _ => cases listed

theorem respects_reached (ctx : ContextId) :
    Respects externals ledgers t (Ledger.reached ctx : Call Proof Evidence (Option Reached))
      (fun result after => ResponseTruthful (.reached result) after) world := by
  refine respects_bind _ _ (respects_record ?_)
  intro after grown run
  cases found : after.inner.records.lookup ctx with
  | none =>
      intro token listed
      cases listed
  | some record =>
      dsimp only [Ends]
      cases read : Ledger.reachedFrom ctx record with
      | error error =>
          intro token listed
          cases listed
      | ok reached =>
          intro token listed
          cases List.mem_singleton.mp listed
          rw [reachedFrom_authorized read]
          exact (authorizes_of_record run found).2

theorem respects_evidence (ctx : ContextId) :
    Respects externals ledgers t
      (Ledger.evidence ctx : Call Proof Evidence (Option EvidenceBundle)) Anyhow world := by
  refine respects_bind _ _ (respects_events ?_)
  intro chain after _
  dsimp only [Ends]
  split
  · trivial
  · exact respects_bind _ _ (respects_now fun _ _ _ => trivial)

theorem keeps_silent {α : Type} {call : Call Proof Evidence α}
    {respond : Except LedgerError α → Response}
    (silent : ∀ result, authorizedTokens (respond result) = [])
    (kept : Respects externals ledgers t call Anyhow world) :
    (do return respond (← call.run) : Program (Op Proof Evidence) Op.Answer Response).Keeps
      (semantics Tid externals) (discipline Tid externals ledgers) t ResponseTruthful world := by
  refine (Program.keeps_bind _ _).mpr (kept.mono ?_)
  intro result after _ token returned
  rw [silent result] at returned
  cases returned

/-- Every call of the ledgers keeps the discipline and returns truthful tokens. -/
theorem request_keeps (request : Request Proof Evidence)
    (listed : ∀ ledger ∈ request.ledger?, ledger ∈ ledgers) :
    (request.program externals).Keeps (semantics Tid externals)
      (discipline Tid externals ledgers) t ResponseTruthful world := by
  cases request with
  | authorize ledger mandate cart requestKey =>
      refine (Program.keeps_bind _ _).mpr ?_
      refine (respects_authorize (listed ledger rfl) mandate cart requestKey).mono ?_
      intro result after truthful token returned
      cases result with
      | error error => cases returned
      | ok value =>
          cases List.mem_singleton.mp returned
          exact truthful _ rfl
  | recordPayment ledger auth proof =>
      exact keeps_silent (fun _ => rfl) (respects_recordPayment ledger auth proof)
  | recordSettlement ledger paid evidence =>
      exact keeps_silent (fun _ => rfl) (respects_recordSettlement ledger paid evidence)
  | compensate failed reference =>
      exact keeps_silent (fun _ => rfl) (respects_compensate failed reference)
  | expire auth => exact keeps_silent (fun _ => rfl) (respects_expire auth)
  | recordDelivery settled receipt =>
      exact keeps_silent (fun _ => rfl) (respects_recordDelivery settled receipt)
  | resume ctx => exact (Program.keeps_bind _ _).mpr (respects_resume ctx)
  | reached ctx => exact (Program.keeps_bind _ _).mpr (respects_reached ctx)
  | evidence ctx => exact keeps_silent (fun _ => rfl) (respects_evidence ctx)
  | revoke mandate => exact keeps_silent (fun _ => rfl) (respects_revoke fun _ _ => trivial)

theorem discipline_sound :
    (discipline Tid externals ledgers).Sound
      (semantics Tid externals : Semantics Tid (World Proof Evidence) _ _) where
  env := by
    rintro before after ⟨instant, rfl⟩ ⟨run, each⟩
    exact ⟨⟨run.tail (.prune before.traced instant), each⟩, fun _ => List.prefix_refl _⟩
  halt := by
    rintro t before after rfl invariant
    exact ⟨permits_refl invariant, trivial⟩

/-- In every run of ledger calls, the store is in a state of its own runs, every
event is justified, and every call that is done returned truthful tokens. -/
theorem reachable_kept [DecidableEq Tid]
    {config : Config Tid (World Proof Evidence) (Op Proof Evidence) Op.Answer Response}
    (reached : Reachable externals ledgers config) :
    config.Kept (semantics Tid externals) (discipline Tid externals ledgers)
      (fun _ => ResponseTruthful) := by
  refine Process.Reachable.keeps discipline_sound ?_ ?_ ?_ (fun _ => trivial) reached
  · intro t response before after grown _ truthful token listed
    exact (truthful token listed).later grown
  · rintro program ⟨request, listed, rfl⟩ t world - -
    exact request_keeps request listed
  · exact ⟨.refl, .nil⟩

end MandateLedger.Engine
