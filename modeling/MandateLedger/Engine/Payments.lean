import MandateLedger.Adapters.Mock
import MandateLedger.Engine.Calls

namespace MandateLedger.Engine

open MandateLedger.Core MandateLedger.Data MandateLedger.Memory MandateLedger.Process

variable {Proof Evidence : Type} {externals : Externals} {ledgers : Set Ledger}

/-- Every payment and every settlement of the log is justified by what happened
before it, and the events it refers to are the only ones of their kind. -/
structure PaymentsSound (world : World Proof Evidence) : Prop where
  paid : ∀ earlier event later, world.acts = earlier ++ .appended event :: later →
    ∀ rail reference nonce amount key, event.body = .paid rail reference nonce amount key →
      PaidSound earlier event.ctx rail reference nonce amount
  settled : ∀ earlier event later, world.acts = earlier ++ .appended event :: later →
    ∀ rail reference, event.body = .settled rail reference →
      SettlementSound earlier event.ctx rail (.final reference)
  failed : ∀ earlier event later, world.acts = earlier ++ .appended event :: later →
    ∀ rail reason, event.body = .settlementFailed rail reason →
      SettlementSound earlier event.ctx rail (.failed reason)
  once : ∀ event ∈ world.history, ∀ state, event.body.resultingState = some state →
    arrivals event.ctx state world.history = [event]

/-- What is paid and settled in any interleaving of the calls of any ledgers is
what was authorized. -/
theorem reachable_paymentsSound {Tid : Type} [DecidableEq Tid]
    {config : Config Tid (World Proof Evidence) (Op Proof Evidence) Op.Answer Response}
    (reached : Reachable externals ledgers config) : PaymentsSound config.shared := by
  obtain ⟨run, each⟩ := (reachable_kept reached).inv
  constructor
  · intro earlier event later split rail reference nonce amount key body
    have justified := each earlier _ later split
    simp only [Justifies, EventSound, body] at justified
    exact justified
  · intro earlier event later split rail reference body
    have justified := each earlier _ later split
    simp only [Justifies, EventSound, body] at justified
    exact justified
  · intro earlier event later split rail reason body
    have justified := each earlier _ later split
    simp only [Justifies, EventSound, body] at justified
    exact justified
  · intro event past state moves
    exact (Lifecycle.run run).once past moves

def samplePayment : List Adapters.Sample.Timed :=
  [ (10, .authorize Adapters.Sample.ledger (Sample.mandate Sample.alice) Sample.cart "k1"),
    (11, .recordPayment Adapters.Sample.ledger
      ⟨Sample.firstCtx, Sample.mandateId, Sample.cartHash, Sample.merchant, Sample.cents 6000⟩
      (.boundTo Sample.firstCtx "pay-1" (Sample.cents 6000))),
    (12, .recordSettlement Adapters.Sample.ledger ⟨Sample.firstCtx, "mock", "pay-1", Sample.paymentKey⟩
      (.confirmed "pay-1" 3)) ]

theorem samplePayment_reachable :
    Reachable Sample.externals {Adapters.Sample.ledger}
      (⟨Adapters.Sample.served samplePayment, fun _ : Unit => none⟩ : Config ..) :=
  Adapters.Sample.served_reachable samplePayment (by simp [samplePayment, Request.ledger?])

theorem samplePayment_paymentsSound :
    states (Adapters.Sample.served samplePayment).history = [.authorized, .paid, .settled] ∧
      PaymentsSound (Adapters.Sample.served samplePayment) :=
  ⟨by decide +kernel, reachable_paymentsSound samplePayment_reachable⟩

variable {world : World Proof Evidence} {around : Surroundings Proof Evidence} {ledger : Ledger}
  {auth : Authorized} {proof : Proof}

/-- Whenever the call returns a `Paid` token, the proof it was given agrees with
the authorization. -/
def AcceptsAgreeing (externals : Externals) (world : World Proof Evidence)
    (around : Surroundings Proof Evidence) (ledger : Ledger) (auth : Authorized)
    (proof : Proof) : Prop :=
  ∀ paid, (world.complete externals around (ledger.recordPayment externals auth proof).run).1 =
      .ok paid →
    ∃ record verified, world.inner.records.lookup auth.ctx = some record ∧
      around.verify ledger.railId proof (Ledger.paymentExpectation auth.ctx record) =
        .ok verified ∧
      Agrees verified (Ledger.authorizedFrom record)

/-- A proof that repeats the rail and the reference of a recorded payment agrees
with the authorization. -/
def RetriesAgree (world : World Proof Evidence) (around : Surroundings Proof Evidence)
    (ledger : Ledger) (auth : Authorized) (proof : Proof) : Prop :=
  ∀ record verified, world.inner.records.lookup auth.ctx = some record →
    around.verify ledger.railId proof (Ledger.paymentExpectation auth.ctx record) =
      .ok verified →
    record.state ≠ .authorized → record.rail = some ledger.railId →
    record.paymentReference = some verified.reference →
      Agrees verified (Ledger.authorizedFrom record)

section Answers

variable {ctx : ContextId} {now : Timestamp} {record : Record} {verified : VerifiedProof}
  {paid : Paid}

theorem retryPayment_ok
    (returned : (world.complete externals around
      (ledger.retryPayment ctx now record verified).run).1 = .ok paid) :
    record.rail = some ledger.railId ∧ record.paymentReference = some verified.reference := by
  unfold Ledger.retryPayment at returned
  split at returned
  · assumption
  · exact (World.complete_deny returned).elim

theorem submitPayment_ok
    (returned : (world.complete externals around
      (ledger.submitPayment externals ctx now record verified).run).1 = .ok paid) :
    Ledger.proofRefusal ctx record verified = none := by
  unfold Ledger.submitPayment Ledger.checkProofBinding at returned
  cases refusal : Ledger.proofRefusal ctx record verified with
  | none => rfl
  | some refused =>
      rw [World.complete_bind] at returned
      simp only [refusal] at returned
      split at returned
      · next bound => exact (World.complete_deny (congrArg Prod.fst bound)).elim
      · cases returned

/-- What the rail extracted from a proof that was accepted, and which path
accepted it. -/
theorem recordPayment_ok
    (returned : (world.complete externals around
      (ledger.recordPayment externals auth proof).run).1 = .ok paid) :
    ∃ record verified, world.inner.records.lookup auth.ctx = some record ∧
      around.verify ledger.railId proof (Ledger.paymentExpectation auth.ctx record) =
        .ok verified ∧
      ((record.state ≠ .authorized ∧ record.rail = some ledger.railId ∧
          record.paymentReference = some verified.reference) ∨
        Ledger.proofRefusal auth.ctx record verified = none) := by
  unfold Ledger.recordPayment at returned
  simp only [World.complete_bind, World.complete_now, World.complete_record] at returned
  cases found : world.inner.records.lookup auth.ctx with
  | none =>
      rw [found] at returned
      exact (World.complete_deny returned).elim
  | some record =>
      simp only [found, World.complete_bind, World.complete_verifyProof] at returned
      cases spoken : around.verify ledger.railId proof
          (Ledger.paymentExpectation auth.ctx record) with
      | error error =>
          rw [spoken] at returned
          cases error with
          | invalidProof detail => exact (World.complete_deny returned).elim
          | unavailable detail => cases returned
      | ok verified =>
          refine ⟨record, verified, rfl, spoken, ?_⟩
          simp only [spoken] at returned
          split at returned
          · next past => exact .inl ⟨past, retryPayment_ok returned⟩
          · exact .inr (submitPayment_ok returned)

theorem recordPayment_retry {key : Hash32}
    (found : world.inner.records.lookup auth.ctx = some record)
    (spoken : around.verify ledger.railId proof (Ledger.paymentExpectation auth.ctx record) =
      .ok verified)
    (past : record.state ≠ .authorized) (railed : record.rail = some ledger.railId)
    (referenced : record.paymentReference = some verified.reference)
    (keyed : record.idempotencyKey = some key) :
    (world.complete externals around (ledger.recordPayment externals auth proof).run).1 =
      .ok ⟨auth.ctx, ledger.railId, verified.reference, key⟩ := by
  unfold Ledger.recordPayment
  simp only [World.complete_bind, World.complete_now, World.complete_record, found,
    World.complete_verifyProof, spoken]
  rw [if_pos past, Ledger.retryPayment, if_pos ⟨railed, referenced⟩, keyed]
  rfl

end Answers

/-- In every reachable state, `record_payment` accepts only agreeing proofs
exactly when a proof that repeats a recorded payment's rail and reference agrees
as well: the retry path does not look at the rest. -/
theorem acceptsAgreeing_iff_retriesAgree {Tid : Type} [DecidableEq Tid]
    {config : Config Tid (World Proof Evidence) (Op Proof Evidence) Op.Answer Response}
    (reached : Reachable externals ledgers config) (around : Surroundings Proof Evidence)
    (ledger : Ledger) (auth : Authorized) (proof : Proof) :
    AcceptsAgreeing externals config.shared around ledger auth proof ↔
      RetriesAgree config.shared around ledger auth proof := by
  obtain ⟨run, -⟩ := (reachable_kept reached).inv
  have lifecycle := Lifecycle.run run
  constructor
  · intro accepts record verified found spoken past railed referenced
    obtain ⟨none, -⟩ | ⟨_, -, token, -, -, -, keyed⟩ := (lifecycle.provenance found).paid
    · rw [railed] at none
      cases none
    · obtain ⟨other, answer, same, spokenSame, agrees⟩ := accepts _
        (recordPayment_retry found spoken past railed referenced keyed)
      rw [found] at same
      cases same
      rw [spoken] at spokenSame
      cases spokenSame
      exact agrees
  · intro retries paid returned
    obtain ⟨record, verified, found, spoken, ⟨past, railed, referenced⟩ | unrefused⟩ :=
      recordPayment_ok returned
    · exact ⟨record, verified, found, spoken,
        retries record verified found spoken past railed referenced⟩
    · exact ⟨record, verified, found, spoken,
        (proofRefusal_eq_none (lifecycle.record_ctx found)).mp unrefused⟩

def samplePaymentRecord : Record where
  ctx := Sample.firstCtx
  state := .settled
  mandateId := Sample.mandateId
  cartHash := Sample.cartHash
  merchant := Sample.merchant
  amount := Sample.cents 6000
  rail := some "mock"
  paymentReference := some "pay-1"
  idempotencyKey := some Sample.paymentKey
  settlementReference := some "pay-1@3"
  failureReason := none
  receiptReference := none

theorem samplePayment_record :
    (Adapters.Sample.served samplePayment).inner.records.lookup Sample.firstCtx =
      some samplePaymentRecord := by decide +kernel

theorem samplePayment_retried :
    AcceptsAgreeing Sample.externals (Adapters.Sample.served samplePayment)
      (Adapters.Sample.rail.surroundings ⟨20⟩) Adapters.Sample.ledger
      (Ledger.authorizedFrom samplePaymentRecord)
      (.boundTo Sample.firstCtx "pay-1" (Sample.cents 6000)) := by
  refine (acceptsAgreeing_iff_retriesAgree samplePayment_reachable _ _ _ _).mpr ?_
  intro record verified found spoken _ _ _
  obtain rfl := Option.some.inj (samplePayment_record.symm.trans found)
  cases spoken
  refine ⟨?_, ?_, ?_, ?_, ?_⟩
  · decide +kernel
  · exact .inl rfl
  · intro bound named
    exact (Option.some.inj named).symm
  · intro bound named
    cases named
  · intro payee named
    cases named

/-- A proof of one cent that is bound to another context but names the recorded
reference is accepted on the settled context. -/
theorem samplePayment_disagreeing :
    ¬ AcceptsAgreeing Sample.externals (Adapters.Sample.served samplePayment)
      (Adapters.Sample.rail.surroundings ⟨20⟩) Adapters.Sample.ledger
      (Ledger.authorizedFrom samplePaymentRecord)
      (.boundTo Sample.secondCtx "pay-1" (Sample.cents 1)) := by
  intro accepts
  obtain ⟨record, verified, found, spoken, agrees⟩ := accepts _
    (recordPayment_retry samplePayment_record rfl (by decide) rfl rfl rfl)
  obtain rfl := Option.some.inj (samplePayment_record.symm.trans found)
  cases spoken
  exact absurd agrees.amount (by decide +kernel)

end MandateLedger.Engine
