import MandateLedger.Engine.Payments
import MandateLedger.Engine.Replays
import MandateLedger.X402.Payment

namespace MandateLedger.Engine

open MandateLedger.Core MandateLedger.Data MandateLedger.Memory MandateLedger.Process

variable {Proof Evidence Tid α : Type} {externals : Externals}

/-- Some event of the context stands for the value. -/
def Earns (ctx : ContextId) (token : Event → Option α) (value : α)
    (world : World Proof Evidence) : Prop :=
  ∃ event ∈ changes ctx world.history, token event = some value

theorem Earns.later {ctx : ContextId} {token : Event → Option α} {value : α}
    {before after : World Proof Evidence} (grown : before.acts <+: after.acts)
    (earns : Earns ctx token value before) : Earns ctx token value after := by
  obtain ⟨event, listed, stands⟩ := earns
  exact ⟨event, changes_later grown listed, stands⟩

/-- The payment is in the past, and the rail has verified this proof of it. -/
structure PaymentFounded (ledger : Ledger) (auth : Authorized) (proof : Proof)
    (exchanges : List (Exchange (Op Proof Evidence) Op.Answer)) (token : Paid)
    (world : World Proof Evidence) : Prop where
  rail : token.rail = ledger.railId
  earned : Earns auth.ctx paidToken token world
  verified : ∃ opening, Earns auth.ctx authorizedToken opening world ∧
    ∃ recorded verified, verified.reference = token.reference ∧
      ⟨.verifyProof ledger.railId proof
        ⟨auth.ctx, opening.cartHash, opening.amount, opening.merchant, recorded⟩, .ok verified⟩ ∈
          exchanges

/-- The response of a step of the lifecycle, with its token. -/
def succeeded : Response → Bool
  | .authorize (.ok _) | .recordPayment (.ok _) | .compensate (.ok _) | .expire (.ok _)
  | .recordDelivery (.ok _) | .recordSettlement (.ok (.settled _))
  | .recordSettlement (.ok (.failed _)) => true
  | _ => false

/-- What a response of this kind rests on. -/
inductive Founded (externals : Externals)
    (exchanges : List (Exchange (Op Proof Evidence) Op.Answer)) (world : World Proof Evidence) :
    Request Proof Evidence → Response → Prop where
  | authorized {ledger : Ledger} {mandate : Mandate} {cart : Cart} {requestKey : String}
      {token : Authorized} (verified : mandate.verify externals.signatures = .ok ())
      (rests : ∃ event ∈ world.history,
        SameMandate mandate (attempt externals mandate cart requestKey) token event) :
      Founded externals exchanges world (.authorize ledger mandate cart requestKey)
        (.authorize (.ok token))
  | paid {ledger : Ledger} {auth : Authorized} {proof : Proof} {token : Paid}
      (founded : PaymentFounded ledger auth proof exchanges token world) :
      Founded externals exchanges world (.recordPayment ledger auth proof)
        (.recordPayment (.ok token))
  | settled {ledger : Ledger} {paid : Paid} {evidence : Evidence} {token : Settled}
      (earned : Earns paid.ctx settledToken token world) :
      Founded externals exchanges world (.recordSettlement ledger paid evidence)
        (.recordSettlement (.ok (.settled token)))
  | settlementFailed {ledger : Ledger} {paid : Paid} {evidence : Evidence}
      {token : SettlementFailed} (earned : Earns paid.ctx failedToken token world) :
      Founded externals exchanges world (.recordSettlement ledger paid evidence)
        (.recordSettlement (.ok (.failed token)))
  | compensated {failed : SettlementFailed} {reference : Option String} {token : Compensated}
      (earned : Earns failed.ctx compensatedToken token world) :
      Founded externals exchanges world (.compensate failed reference) (.compensate (.ok token))
  | expired {auth : Authorized}
      (earned : ∃ event ∈ changes auth.ctx world.history, event.body = .expired) :
      Founded externals exchanges world (.expire auth) (.expire (.ok ()))
  | delivered {settled : Settled} {receipt : DeliveryReceipt} {token : Delivered}
      (earned : Earns settled.ctx deliveredToken token world) :
      Founded externals exchanges world (.recordDelivery settled receipt)
        (.recordDelivery (.ok token))

theorem Founded.later {exchanges : List (Exchange (Op Proof Evidence) Op.Answer)}
    {request : Request Proof Evidence} {response : Response} {before after : World Proof Evidence}
    (grown : before.acts <+: after.acts)
    (founded : Founded externals exchanges before request response) :
    Founded externals exchanges after request response := by
  cases founded with
  | authorized verified rests =>
      obtain ⟨event, past, same⟩ := rests
      exact .authorized verified ⟨event, (World.history_grows grown).subset past, same⟩
  | paid founded =>
      obtain ⟨rail, earned, opening, opened, verified⟩ := founded
      exact .paid ⟨rail, earned.later grown, opening, opened.later grown, verified⟩
  | settled earned => exact .settled (earned.later grown)
  | settlementFailed earned => exact .settlementFailed (earned.later grown)
  | compensated earned => exact .compensated (earned.later grown)
  | expired earned =>
      obtain ⟨event, listed, body⟩ := earned
      exact .expired ⟨event, changes_later grown listed, body⟩
  | delivered earned => exact .delivered (earned.later grown)

section Footing

variable {t : Tid} {world : World Proof Evidence}

theorem earns_of_submitted {later : World Proof Evidence} {event : Event} {ctx : ContextId}
    {token : Event → Option α} {value : α} (written : event ∈ later.history)
    (own : event.ctx = ctx) (changes : event.body.resultingState.isSome = true)
    (stands : token event = some value) : Earns ctx token value later :=
  ⟨event, mem_changes.mpr ⟨written, own, changes⟩, stands⟩

theorem payment_founded (ledger : Ledger) (auth : Authorized) (proof : Proof) :
    Ensures externals t (payment externals ledger auth proof : Decision Proof Evidence Paid).call
      (fun seen => Ends (PaymentFounded ledger auth proof seen) fun _ _ => True) world := by
  have opened : ∀ {read later : World Proof Evidence} {record : Record},
      Traced.Reachable externals read.traced → Later externals read later →
      read.inner.records.lookup auth.ctx = some record →
      Earns auth.ctx authorizedToken (Ledger.authorizedFrom record) later := by
    intro read later record reached further found
    obtain ⟨event, listed, token⟩ := ((Lifecycle.run reached).provenance found).opened
    exact ⟨event, changes_later further.grown listed, token⟩
  have founded : Ensures externals t
      (payment externals ledger auth proof : Decision Proof Evidence Paid).call
      (fun seen => Ends (fun token after => ∃ told, told ⊆ seen ∧
        PaymentFounded ledger auth proof told token after) fun _ _ => True) world := by
    refine Decision.ensures _ ?_ ?_
    · intro around read later value reached further decided
      obtain ⟨record, verified, key, found, -, answered, railed, referenced, keyed, rfl⟩ :=
        payment_answers decided
      refine ⟨rfl, ?_, Ledger.authorizedFrom record, opened reached further found,
        record.paymentReference, verified, rfl, ?_⟩
      · obtain ⟨none, -⟩ | ⟨event, listed, token, stands, rails, references, keys⟩ :=
          ((Lifecycle.run reached).provenance found).paid
        · rw [railed] at none
          cases none
        · obtain ⟨_, _, _, _, _, body, rfl⟩ := paidToken_eq_some.mp stands
          obtain ⟨-, own, -⟩ := mem_changes.mp listed
          rw [railed] at rails
          rw [referenced] at references
          rw [keyed] at keys
          refine ⟨event, changes_later further.grown listed, stands.trans ?_⟩
          simp only [Option.some.injEq] at rails references keys
          simp only [rails, references, keys]
          rw [show event.ctx = auth.ctx from own]
      · rw [found]
        exact List.mem_singleton.mpr (by rw [answered]; rfl)
    · intro around read later submission event reached further decided written own body
      obtain ⟨-, rail, reference, nonce, amount, key, content, value, rfl, record, verified, found,
        rfl, answered⟩ := payment_submits decided
      rw [content] at body
      rw [value]
      refine ⟨rfl, earns_of_submitted written own (by rw [body]; rfl) ?_,
        Ledger.authorizedFrom record, opened reached further found, record.paymentReference,
        verified, rfl, ?_⟩
      · rw [paidToken, body, own]
        rfl
      · rw [found]
        exact List.mem_singleton.mpr (by rw [answered]; rfl)
  refine founded.mono ?_
  intro seen result after ends
  cases result with
  | error error => trivial
  | ok token =>
      obtain ⟨told, among, rail, earned, opening, opened, recorded, verified, same, listed⟩ := ends
      exact ⟨rail, earned, opening, opened, recorded, verified, same, among listed⟩

/-- What the other steps rest on does not depend on what the rail said. -/
theorem Decision.ensures_good (decision : Decision Proof Evidence α)
    {Good : α → World Proof Evidence → Prop}
    (answers : ∀ around read later record value, Traced.Reachable externals read.traced →
      Later externals read later → read.inner.records.lookup decision.ctx = record →
      (decision.decide record).resolve around = .answer value → Good value later)
    (submits : ∀ around later record submission event,
      (decision.decide record).resolve around = .submit submission →
      event ∈ later.history → event.ctx = decision.ctx → event.body = submission.body →
      Good submission.value later) :
    Ensures externals t decision.call (fun _ => Ends Good fun _ _ => True) world := by
  have good : Ensures externals t decision.call (fun seen => Ends
      (fun value after => ∃ told, told ⊆ seen ∧ Good value after) fun _ _ => True) world := by
    refine decision.ensures ?_ ?_
    · intro around read later value reached further decided
      exact answers around read later _ value reached further rfl decided
    · intro around read later submission event reached further decided written own body
      exact submits around later _ submission event decided written own body
  refine good.mono ?_
  intro seen result after ends
  cases result with
  | error error => trivial
  | ok value =>
      obtain ⟨told, -, good⟩ := ends
      exact good

theorem settlement_founded (ledger : Ledger) (paid : Paid) (evidence : Evidence) :
    Ensures externals t
      (settlement externals ledger paid evidence : Decision Proof Evidence Settlement).call
      (fun _ => Ends (fun value after =>
        (∀ token, value = .settled token → Earns paid.ctx settledToken token after) ∧
        ∀ token, value = .failed token → Earns paid.ctx failedToken token after)
        fun _ _ => True) world := by
  refine Decision.ensures_good _ ?_ ?_
  · intro around read later record value reached further found decided
    have lifecycle := Lifecycle.run reached
    obtain ⟨reason, rfl⟩ | ⟨record, rfl, ⟨reference, there, referenced, rfl⟩ |
      ⟨reason, there, given, rfl⟩⟩ := settlement_answers decided
    · constructor <;> intro token same <;> cases same
    · constructor <;> intro token same <;> cases same
      obtain ⟨event, listed, moves, carries, own⟩ := lifecycle.arrived found there
      obtain ⟨value, reads, stands⟩ := carries.settledFrom own moves
      rw [Ledger.settledFrom, referenced] at reads
      cases reads
      exact ⟨event, changes_later further.grown listed, stands⟩
    · constructor <;> intro token same <;> cases same
      obtain ⟨event, listed, moves, carries, own⟩ := lifecycle.arrived found there
      obtain ⟨value, reads, stands⟩ := carries.failedFrom own moves
      rw [Ledger.failedFrom, given] at reads
      cases reads
      exact ⟨event, changes_later further.grown listed, stands⟩
  · intro around later record submission event decided written own body
    obtain ⟨-, ⟨rail, reference, content, value⟩ | ⟨rail, reason, content, value⟩⟩ :=
      settlement_submits decided
    · rw [content] at body
      rw [value]
      constructor <;> intro token same <;> cases same
      exact earns_of_submitted written own (by rw [body]; rfl) (by rw [settledToken, body, own]; rfl)
    · rw [content] at body
      rw [value]
      constructor <;> intro token same <;> cases same
      exact earns_of_submitted written own (by rw [body]; rfl) (by rw [failedToken, body, own]; rfl)

theorem compensation_founded (failed : SettlementFailed) (reference : Option String) :
    Ensures externals t (compensation failed reference : Decision Proof Evidence Compensated).call
      (fun _ => Ends (Earns failed.ctx compensatedToken) fun _ _ => True) world := by
  refine Decision.ensures_good _ ?_ ?_
  · intro around read later record value reached further found decided
    obtain ⟨record, rfl, state, rfl⟩ := compensation_answers decided
    obtain ⟨event, listed, moves, -, own⟩ :=
      (Lifecycle.run reached).arrived found (by simp [past, state] : record.state ∈ past .compensated)
    refine ⟨event, changes_later further.grown listed, ?_⟩
    obtain ⟨-, filed, -⟩ := mem_changes.mp listed
    cases body : event.body with
    | compensated reference =>
        rw [compensatedToken, body, filed]
        rfl
    | _ => simp [body, EventBody.resultingState] at moves
  · intro around later record submission event decided written own body
    obtain ⟨-, content, value⟩ := compensation_submits decided
    rw [content] at body
    rw [value]
    exact earns_of_submitted written own (by rw [body]; rfl) (by rw [compensatedToken, body, own]; rfl)

theorem expiry_founded (auth : Authorized) :
    Ensures externals t (expiry auth : Decision Proof Evidence Unit).call
      (fun _ => Ends (fun _ after => ∃ event ∈ changes auth.ctx after.history, event.body = .expired)
        fun _ _ => True) world := by
  refine Decision.ensures_good _ ?_ ?_
  · intro around read later record value reached further found decided
    obtain ⟨record, rfl, state⟩ := expiry_answers decided
    obtain ⟨event, listed, moves, -⟩ :=
      (Lifecycle.run reached).arrived found (by simp [past, state] : record.state ∈ past .expired)
    refine ⟨event, changes_later further.grown listed, ?_⟩
    cases body : event.body with
    | expired => rfl
    | _ => simp [body, EventBody.resultingState] at moves
  · intro around later record submission event decided written own body
    obtain ⟨-, content⟩ := expiry_submits decided
    rw [content] at body
    exact ⟨event, mem_changes.mpr ⟨written, own, by rw [body]; rfl⟩, body⟩

theorem delivery_founded (settled : Settled) (receipt : DeliveryReceipt) :
    Ensures externals t (delivery settled receipt : Decision Proof Evidence Delivered).call
      (fun _ => Ends (Earns settled.ctx deliveredToken) fun _ _ => True) world := by
  refine Decision.ensures_good _ ?_ ?_
  · intro around read later record value reached further found decided
    have lifecycle := Lifecycle.run reached
    obtain ⟨record, reference, rfl, state, referenced, rfl⟩ := delivery_answers decided
    obtain ⟨event, listed, moves, carries, own⟩ :=
      lifecycle.arrived found (by simp [past, state] : record.state ∈ past .delivered)
    obtain ⟨value, reads, stands⟩ := carries.deliveredFrom own moves
    rw [Ledger.deliveredFrom, referenced] at reads
    cases reads
    refine ⟨event, changes_later further.grown listed, stands.trans ?_⟩
    rw [lifecycle.record_ctx found]
    rfl
  · intro around later record submission event decided written own body
    obtain ⟨-, content, value⟩ := delivery_submits decided
    rw [content] at body
    rw [value]
    exact earns_of_submitted written own (by rw [body]; rfl) (by rw [deliveredToken, body, own]; rfl)

end Footing

/-- A proof that is presented again, with the reference it was recorded under, is
verified as it was the first time. -/
def Repeatable (around : Surroundings Proof Evidence)
    (exchanges : List (Exchange (Op Proof Evidence) Op.Answer)) : Prop :=
  ∀ rail proof expected verified, ⟨.verifyProof rail proof expected, .ok verified⟩ ∈ exchanges →
    around.verify rail proof { expected with recordedReference := some verified.reference } =
      .ok verified

section Again

variable {world : World Proof Evidence} {around : Surroundings Proof Evidence}
  {exchanges : List (Exchange (Op Proof Evidence) Op.Answer)}
  (lifecycle : Lifecycle world.traced)
include lifecycle

theorem payment_again {ledger : Ledger} {auth : Authorized} {proof : Proof} {token : Paid}
    (founded : PaymentFounded ledger auth proof exchanges token world)
    (repeats : Repeatable around exchanges) :
    ((payment externals ledger auth proof : Decision Proof Evidence Paid).decide
      (world.inner.records.lookup auth.ctx)).resolve around = .answer token := by
  obtain ⟨railed, ⟨event, listed, stands⟩, opening, ⟨first, opened, authorized⟩, recorded, verified,
    same, told⟩ := founded
  obtain ⟨rail, reference, nonce, amount, key, body, rfl⟩ := paidToken_eq_some.mp stands
  obtain ⟨record, found, there, carries, -⟩ := lifecycle.passed listed (by rw [body]; rfl)
  obtain ⟨_, _, _, began, -⟩ := authorizedToken_eq_some.mp authorized
  have carried := lifecycle.carries found opened
  rw [Carries, began, authorized, Option.some.injEq] at carried
  rw [Carries, body] at carries
  obtain ⟨rails, references, keys⟩ := carries
  have asked : around.verify ledger.railId proof (Ledger.paymentExpectation auth.ctx record) =
      .ok verified := by
    rw [← repeats _ _ _ _ told, Ledger.paymentExpectation, references, same, carried]
    rfl
  have advanced : record.state ≠ .authorized := by
    intro state
    simp [past, state] at there
  obtain ⟨-, own, -⟩ := mem_changes.mp listed
  dsimp only at railed same
  subst railed
  have located : world.inner.records.lookup auth.ctx = some record := found
  rw [located]
  simp only [payment, Consult.resolve, asked, paymentPlan]
  rw [if_pos advanced, if_pos ⟨rails, by rw [references, same]⟩, keys]
  simp only [same, own]

theorem settled_again {ledger : Ledger} {paid : Paid} {evidence : Evidence} {token : Settled}
    (earned : Earns paid.ctx settledToken token world) :
    ((settlement externals ledger paid evidence : Decision Proof Evidence Settlement).decide
      (world.inner.records.lookup paid.ctx)).resolve around = .answer (.settled token) := by
  obtain ⟨event, listed, stands⟩ := earned
  obtain ⟨-, filed, -⟩ := mem_changes.mp listed
  cases body : event.body with
  | settled rail reference =>
      obtain ⟨record, found, there, carries, own⟩ := lifecycle.passed listed (by rw [body]; rfl)
      rw [Carries, body] at carries
      rw [settledToken, body] at stands
      cases stands
      have located : world.inner.records.lookup paid.ctx = some record := found
      rw [located]
      simp only [past, List.mem_cons, List.not_mem_nil, or_false] at there
      obtain state | state := there <;>
        simp [settlement, state, Consult.resolve, Plan.present, carries, own, filed]
  | _ => simp [settledToken, body] at stands

theorem failed_again {ledger : Ledger} {paid : Paid} {evidence : Evidence}
    {token : SettlementFailed} (earned : Earns paid.ctx failedToken token world) :
    ((settlement externals ledger paid evidence : Decision Proof Evidence Settlement).decide
      (world.inner.records.lookup paid.ctx)).resolve around = .answer (.failed token) := by
  obtain ⟨event, listed, stands⟩ := earned
  obtain ⟨-, filed, -⟩ := mem_changes.mp listed
  cases body : event.body with
  | settlementFailed rail reason =>
      obtain ⟨record, found, there, carries, own⟩ := lifecycle.passed listed (by rw [body]; rfl)
      rw [Carries, body] at carries
      rw [failedToken, body] at stands
      cases stands
      have located : world.inner.records.lookup paid.ctx = some record := found
      rw [located]
      simp only [past, List.mem_cons, List.not_mem_nil, or_false] at there
      obtain state | state := there <;>
        simp [settlement, state, Consult.resolve, Plan.present, carries, own, filed]
  | _ => simp [failedToken, body] at stands

theorem compensated_again {failed : SettlementFailed} {reference : Option String}
    {token : Compensated} (earned : Earns failed.ctx compensatedToken token world) :
    ((compensation failed reference : Decision Proof Evidence Compensated).decide
      (world.inner.records.lookup failed.ctx)).resolve around = .answer token := by
  obtain ⟨event, listed, stands⟩ := earned
  obtain ⟨-, filed, -⟩ := mem_changes.mp listed
  cases body : event.body with
  | compensated given =>
      obtain ⟨record, found, there, -⟩ := lifecycle.passed listed (by rw [body]; rfl)
      rw [compensatedToken, body] at stands
      cases stands
      have located : world.inner.records.lookup failed.ctx = some record := found
      rw [located]
      simp [compensation, List.mem_singleton.mp there, Consult.resolve, filed]
  | _ => simp [compensatedToken, body] at stands

theorem expired_again {auth : Authorized}
    (earned : ∃ event ∈ changes auth.ctx world.history, event.body = .expired) :
    ((expiry auth : Decision Proof Evidence Unit).decide
      (world.inner.records.lookup auth.ctx)).resolve around = .answer () := by
  obtain ⟨event, listed, body⟩ := earned
  obtain ⟨record, found, there, -⟩ := lifecycle.passed listed (by rw [body]; rfl)
  have located : world.inner.records.lookup auth.ctx = some record := found
  rw [located]
  simp [expiry, List.mem_singleton.mp there, Consult.resolve]

theorem delivered_again {settled : Settled} {receipt : DeliveryReceipt} {token : Delivered}
    (earned : Earns settled.ctx deliveredToken token world) :
    ((delivery settled receipt : Decision Proof Evidence Delivered).decide
      (world.inner.records.lookup settled.ctx)).resolve around = .answer token := by
  obtain ⟨event, listed, stands⟩ := earned
  obtain ⟨-, filed, -⟩ := mem_changes.mp listed
  cases body : event.body with
  | delivered given =>
      obtain ⟨record, found, there, carries, -⟩ := lifecycle.passed listed (by rw [body]; rfl)
      rw [Carries, body] at carries
      rw [deliveredToken, body] at stands
      cases stands
      have located : world.inner.records.lookup settled.ctx = some record := found
      rw [located]
      simp [delivery, List.mem_singleton.mp there, Consult.resolve, Plan.present, carries, filed]
  | _ => simp [deliveredToken, body] at stands

theorem authorizedMandate_again {ctx : ContextId} {event : Event} {stored : Mandate}
    {cart : CartSnapshot} {requestKey : String} (unpruned : world.inner.events = world.history)
    (listed : event ∈ changes ctx world.history)
    (body : event.body = .authorized stored cart requestKey) :
    world.inner.authorizedMandate ctx = some stored := by
  obtain ⟨past, own, -⟩ := mem_changes.mp listed
  obtain ⟨record, found⟩ := lifecycle.found listed
  have moves : event.body.resultingState = some .authorized := by rw [body]; rfl
  have once := lifecycle.once past moves
  obtain ⟨other, among, mandate, _, _, same, held⟩ | ⟨missing, -⟩ := lifecycle.authorizedMandate found
  · obtain ⟨before, filed, -⟩ := mem_changes.mp among
    have arrives : other.body.resultingState = some .authorized := by rw [same]; rfl
    have again := lifecycle.once before arrives
    rw [filed, ← own, once] at again
    cases List.singleton_inj.mp again
    rw [body] at same
    cases same
    exact held
  · have chained : event ∈ world.traced.inner.chain ctx := by
      rw [Inner.chain_eq lifecycle.indexed]
      exact List.mem_filter.mpr ⟨unpruned ▸ past, decide_eq_true own⟩
    have silent := List.findSome?_eq_none_iff.mp missing event chained
    simp [body, EventBody.mandate?] at silent

theorem authorized_again {ledger : Ledger} {mandate : Mandate} {cart : Cart} {requestKey : String}
    {token : Authorized} {now : Timestamp} (unpruned : world.inner.events = world.history)
    (verified : mandate.verify externals.signatures = .ok ())
    (rests : ∃ event ∈ world.history,
      SameMandate mandate (attempt externals mandate cart requestKey) token event) :
    authorizePlan externals ledger mandate cart requestKey now world.inner = .answer token := by
  obtain ⟨event, past, own, stands, stored, snapshot, key, body, same, signed⟩ := rests
  have listed : event ∈ changes (attempt externals mandate cart requestKey) world.history :=
    mem_changes.mpr ⟨past, own, by rw [body]; rfl⟩
  obtain ⟨record, found, -, carries, -⟩ := lifecycle.passed listed (by rw [body]; rfl)
  rw [Carries, body, stands, Option.some.injEq] at carries
  have located : world.inner.records.lookup (attempt externals mandate cart requestKey) =
    some record := found
  simp only [authorizePlan, located, authorizedMandate_again lifecycle unpruned listed body,
    replayPlan, verified, same, signed]
  simp [carries]

end Again

theorem Outcome.answer {ctx : ContextId} {now : Timestamp} {before after : Traced} {value : α}
    {plan : Plan α} {result : Except LedgerError α}
    (outcome : Outcome externals ctx now before plan result after) (answers : plan = .answer value) :
    result = .ok value ∧ after = before := by
  subst answers
  cases outcome
  exact ⟨rfl, rfl⟩

def Returns (externals : Externals) (around : Surroundings Proof Evidence)
    (request : Request Proof Evidence) (response : Response) (world : World Proof Evidence) : Prop :=
  (world.complete externals around (request.program externals)).1 = response ∧
    (world.complete externals around (request.program externals)).2.traced = world.traced

/-- A founded response is given again. -/
theorem Founded.again {world : World Proof Evidence} {around : Surroundings Proof Evidence}
    {exchanges : List (Exchange (Op Proof Evidence) Op.Answer)} {request : Request Proof Evidence}
    {response : Response} (founded : Founded externals exchanges world request response)
    (lifecycle : Lifecycle world.traced) (unpruned : world.inner.events = world.history)
    (repeats : Repeatable around exchanges) :
    Returns externals around request response world := by
  unfold Returns
  cases founded with
  | @authorized ledger mandate cart requestKey token verified rests =>
      rw [Request.program, World.complete_respond]
      obtain ⟨returned, same⟩ :=
        (world.complete_authorize externals around ledger mandate cart requestKey).answer
          (authorized_again lifecycle unpruned verified rests)
      exact ⟨congrArg _ returned, same⟩
  | @paid ledger auth proof token founded =>
      rw [Request.program, World.complete_respond, recordPayment_eq]
      obtain ⟨returned, same⟩ :=
        (world.complete_decision externals around (payment externals ledger auth proof)).answer
          (payment_again lifecycle founded repeats)
      exact ⟨congrArg _ returned, same⟩
  | @settled ledger paid evidence token earned =>
      rw [Request.program, World.complete_respond, recordSettlement_eq]
      obtain ⟨returned, same⟩ :=
        (world.complete_decision externals around (settlement externals ledger paid evidence)).answer
          (settled_again lifecycle earned)
      exact ⟨congrArg _ returned, same⟩
  | @settlementFailed ledger paid evidence token earned =>
      rw [Request.program, World.complete_respond, recordSettlement_eq]
      obtain ⟨returned, same⟩ :=
        (world.complete_decision externals around (settlement externals ledger paid evidence)).answer
          (failed_again lifecycle earned)
      exact ⟨congrArg _ returned, same⟩
  | @compensated failed reference token earned =>
      rw [Request.program, World.complete_respond, compensate_eq]
      obtain ⟨returned, same⟩ :=
        (world.complete_decision externals around (compensation failed reference)).answer
          (compensated_again lifecycle earned)
      exact ⟨congrArg _ returned, same⟩
  | @expired auth earned =>
      rw [Request.program, World.complete_respond, expire_eq]
      obtain ⟨returned, same⟩ :=
        (world.complete_decision externals around (expiry auth)).answer
          (expired_again lifecycle earned)
      exact ⟨congrArg _ returned, same⟩
  | @delivered settled receipt token earned =>
      rw [Request.program, World.complete_respond, recordDelivery_eq]
      obtain ⟨returned, same⟩ :=
        (world.complete_decision externals around (delivery settled receipt)).answer
          (delivered_again lifecycle earned)
      exact ⟨congrArg _ returned, same⟩

/-- Ledger calls over a store that is never pruned. -/
def unpruned (Tid : Type) (externals : Externals) :
    Semantics Tid (World Proof Evidence) (Op Proof Evidence) Op.Answer where
  exec := (semantics Tid externals).exec
  env _ _ := False
  halt := (semantics Tid externals).halt

section Unpruned

variable [DecidableEq Tid] {β : Type} {Start : Program (Op Proof Evidence) Op.Answer β → Prop}

theorem World.Exec.unpruned {world after : World Proof Evidence} {op : Op Proof Evidence}
    {answer : op.Answer} (executed : world.Exec externals op answer after)
    (same : world.inner.events = world.history) : after.inner.events = after.history := by
  cases executed.leaves with
  | reads | revokes => exact same
  | verifies | judges =>
      rw [World.history_saw]
      exact same.trans (List.append_nil _).symm
  | appends ctx now body =>
      obtain ⟨error, appended, -⟩ | ⟨outcome, appended, -⟩ | ⟨event, tables, writes, -, appended⟩ :=
        world.append_cases externals ctx now body
      · rw [appended]
        exact same
      · rw [appended]
        exact same
      · rw [appended]
        have logged : (tables.log event).events = tables.events ++ [event] := rfl
        rw [logged, writes.frame.1, same]
        simp [World.history, Act.event?]

theorem step_unpruned {before after : Config Tid (World Proof Evidence) (Op Proof Evidence)
      Op.Answer β} (stepped : Step (unpruned Tid externals) Start before after) :
    before.shared.acts <+: after.shared.acts ∧
      (before.shared.inner.events = before.shared.history →
        after.shared.inner.events = after.shared.history) := by
  cases stepped with
  | spawn => exact ⟨List.prefix_refl _, id⟩
  | call t op next answer after running executed =>
      have executed : World.Exec externals before.shared op answer after := executed
      exact ⟨executed.grows, executed.unpruned⟩
  | env after moved => exact moved.elim
  | halt t after stopped =>
      cases stopped
      exact ⟨List.prefix_refl _, id⟩

theorem steps_unpruned {before after : Config Tid (World Proof Evidence) (Op Proof Evidence)
      Op.Answer β}
    (steps : Relation.ReflTransGen (Step (unpruned Tid externals) Start) before after) :
    before.shared.acts <+: after.shared.acts ∧
      (before.shared.inner.events = before.shared.history →
        after.shared.inner.events = after.shared.history) := by
  induction steps with
  | refl => exact ⟨List.prefix_refl _, id⟩
  | tail _ stepped ih =>
      obtain ⟨grown, kept⟩ := step_unpruned stepped
      exact ⟨ih.1.trans grown, fun same => kept (ih.2 same)⟩

theorem reachable_of_steps {semantics : Semantics Tid (World Proof Evidence) (Op Proof Evidence)
      Op.Answer} {before after : Config Tid (World Proof Evidence) (Op Proof Evidence) Op.Answer β}
    (reached : Process.Reachable semantics Start World.empty before)
    (steps : Relation.ReflTransGen (Step semantics Start) before after) :
    Process.Reachable semantics Start World.empty after := by
  induction steps with
  | refl => exact reached
  | tail _ stepped ih => exact ih.step stepped

theorem steps_of_reachable {semantics : Semantics Tid (World Proof Evidence) (Op Proof Evidence)
      Op.Answer} {config : Config Tid (World Proof Evidence) (Op Proof Evidence) Op.Answer β}
    (reached : Process.Reachable semantics Start World.empty config) :
    Relation.ReflTransGen (Step semantics Start) (.initial World.empty) config := by
  induction reached with
  | initial => exact .refl
  | step _ stepped ih => exact ih.tail stepped

theorem reachable_of_unpruned {config : Config Tid (World Proof Evidence) (Op Proof Evidence)
      Op.Answer β} (reached : Process.Reachable (unpruned Tid externals) Start World.empty config) :
    Process.Reachable (semantics Tid externals) Start World.empty config :=
  reached.weaken (fun _ _ _ _ _ executed => executed) (fun _ _ moved => moved.elim)
    (fun _ _ _ stopped => stopped)

end Unpruned

section Idempotence

variable [DecidableEq Tid] {ledgers : Set Ledger}

/-- Every response that hands out a token rests on something. -/
theorem reachable_founded
    {config : Config Tid (World Proof Evidence) (Op Proof Evidence) Op.Answer
      (Invocation Proof Evidence)}
    (reached : Process.Reachable (semantics Tid externals) (Invocations externals ledgers)
      World.empty config) {t : Tid} {invocation : Invocation Proof Evidence}
    (returned : config.threads t = some (.done invocation))
    (granted : succeeded invocation.response = true) :
    Founded externals invocation.exchanges config.shared invocation.request invocation.response := by
  let Post : Invocation Proof Evidence → World Proof Evidence → Prop := fun invocation world =>
    succeeded invocation.response = true →
      Founded externals invocation.exchanges world invocation.request invocation.response
  have ensured : Post invocation config.shared := by
    refine reachable_ensured ?_ ?_ reached returned
    · intro invocation before after later founded granted
      exact (founded granted).later later.grown
    · intro request t world
      cases request with
      | authorize ledger mandate cart requestKey =>
          refine observes_respond ((authorize_ensures ledger).mono ?_)
          intro seen result after ends granted
          cases result with
          | error error => cases granted
          | ok token =>
              obtain ⟨-, verified, event, first, stands, body⟩ | ⟨-, replayed⟩ := ends
              · obtain ⟨past, own, -⟩ := mem_changes.mp (List.mem_of_head? first)
                exact .authorized verified ⟨event, past, own, stands, mandate, _, _, body,
                  ReflBEq.rfl, rfl⟩
              · exact .authorized replayed.verified replayed.rests
      | recordPayment ledger auth proof =>
          rw [Request.program, recordPayment_eq]
          refine observes_respond ((payment_founded ledger auth proof).mono ?_)
          intro seen result after founded granted
          cases result with
          | error error => cases granted
          | ok token => exact .paid founded
      | recordSettlement ledger paid evidence =>
          rw [Request.program, recordSettlement_eq]
          refine observes_respond ((settlement_founded ledger paid evidence).mono ?_)
          intro seen result after founded granted
          cases result with
          | error error => cases granted
          | ok value =>
              cases value with
              | settled token => exact .settled (founded.1 token rfl)
              | pending reason => cases granted
              | failed token => exact .settlementFailed (founded.2 token rfl)
      | compensate failed reference =>
          rw [Request.program, compensate_eq]
          refine observes_respond ((compensation_founded failed reference).mono ?_)
          intro seen result after earned granted
          cases result with
          | error error => cases granted
          | ok token => exact .compensated earned
      | expire auth =>
          rw [Request.program, expire_eq]
          refine observes_respond ((expiry_founded auth).mono ?_)
          intro seen result after earned granted
          cases result with
          | error error => cases granted
          | ok token => exact .expired earned
      | recordDelivery settled receipt =>
          rw [Request.program, recordDelivery_eq]
          refine observes_respond ((delivery_founded settled receipt).mono ?_)
          intro seen result after earned granted
          cases result with
          | error error => cases granted
          | ok token => exact .delivered earned
      | resume | reached | evidence | revoke =>
          refine observes_respond ((observes_any _).mono ?_)
          intro seen result after _ granted
          cases granted
  exact ensured granted

/-- Every step that has returned a token returns it again, after whatever has
happened since, and changes nothing; and the x402 rail is one that answers a
recorded proof as it did before, at every time. -/
theorem granted_again :
    (∀ {config later : Config Tid (World Proof Evidence) (Op Proof Evidence) Op.Answer
        (Invocation Proof Evidence)},
      Process.Reachable (unpruned Tid externals) (Invocations externals ledgers) World.empty config →
      ∀ {t : Tid} {invocation : Invocation Proof Evidence},
      config.threads t = some (.done invocation) → succeeded invocation.response = true →
      Relation.ReflTransGen (Step (unpruned Tid externals) (Invocations externals ledgers))
        config later →
      ∀ around, Repeatable around invocation.exchanges →
        Returns externals around invocation.request invocation.response later.shared) ∧
    ∀ (keccak256 : Bytes → Hash32) (curve : X402.Secp256k1) (rail : X402.X402Rail)
      (exchanges : List (Exchange (Op X402.PaymentPayload X402.X402Finality) Op.Answer)),
      (∀ id proof expected answer, ⟨.verifyProof id proof expected, answer⟩ ∈ exchanges →
        ∃ clock, answer = rail.verifyProof keccak256 curve clock proof expected) →
      ∀ now, Repeatable (rail.surroundings keccak256 curve now) exchanges := by
  refine ⟨?_, ?_⟩
  · intro config later reached t invocation returned granted steps around repeats
    have founded := reachable_founded (reachable_of_unpruned reached) returned granted
    obtain ⟨grown, kept⟩ := steps_unpruned steps
    have logged := (steps_unpruned (steps_of_reachable reached)).2 rfl
    have run := reachable_traced (reachable_of_unpruned (reachable_of_steps reached steps))
    exact (founded.later grown).again (Lifecycle.run run) (kept logged) repeats
  · intro keccak256 curve rail exchanges verified now id proof expected reported listed
    obtain ⟨clock, answered⟩ := verified id proof expected _ listed
    exact X402.X402Rail.verifyProof_again answered.symm now

end Idempotence

def settledPurchase : Config Nat (World Adapters.MockProof Adapters.MockFinality)
    (Op Adapters.MockProof Adapters.MockFinality) Op.Answer
    (Invocation Adapters.MockProof Adapters.MockFinality) :=
  Config.schedule
    (fun _ world op => world.perform Sample.externals (Adapters.Sample.rail.surroundings ⟨10⟩) op)
    (Config.started World.empty
      (samplePayment.mapIdx fun index call => (index, invoke Sample.externals call.2)))
    [0, 0, 0, 0, 1, 1, 1, 1, 2, 2, 2, 2]

theorem settledPurchase_reachable :
    Process.Reachable (unpruned Nat Sample.externals)
      (Invocations Sample.externals {Adapters.Sample.ledger}) World.empty settledPurchase := by
  refine Process.Reachable.schedule (fun _ world op => World.perform_exec _ world _ op) ?_ _
  refine Process.Reachable.started _ (by simp [samplePayment]) ?_
  intro entry listed
  obtain ⟨index, bound, rfl⟩ := List.mem_mapIdx.mp listed
  refine ⟨_, ?_, rfl⟩
  have own : ∀ call ∈ samplePayment, ∀ ledger ∈ call.2.ledger?, ledger = Adapters.Sample.ledger := by
    simp [samplePayment, Request.ledger?]
  exact own _ (List.getElem_mem bound)

def answeredByMock : Exchange (Op Adapters.MockProof Adapters.MockFinality) Op.Answer → Bool
  | ⟨.verifyProof _ proof _, answer⟩ =>
      let answer : Except RailError VerifiedProof := answer
      decide (answer = Adapters.MockRail.verifyProof proof)
  | _ => true

theorem settledPurchase_again :
    ∃ invocation, settledPurchase.threads 1 = some (.done invocation) ∧
      succeeded invocation.response = true ∧
      Returns Sample.externals (Adapters.Sample.rail.surroundings ⟨5⟩) invocation.request
        invocation.response settledPurchase.shared := by
  have told : (settledPurchase.finished 1).map (fun invocation => succeeded invocation.response) =
      some true := by decide +kernel
  have honest : ∀ invocation ∈ settledPurchase.finished 1,
      invocation.exchanges.all answeredByMock = true := by decide +kernel
  obtain ⟨invocation, finished, granted⟩ := Option.map_eq_some_iff.mp told
  have returned := Config.threads_of_finished finished
  refine ⟨invocation, returned, granted, granted_again.1 settledPurchase_reachable returned granted
    .refl _ ?_⟩
  intro rail proof expected verified listed
  exact (of_decide_eq_true (List.all_eq_true.mp (honest invocation finished) _ listed)).symm

end MandateLedger.Engine
