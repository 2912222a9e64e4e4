import MandateLedger.Engine.Replays

namespace MandateLedger.Engine

open MandateLedger.Core MandateLedger.Data MandateLedger.Memory MandateLedger.Process

variable {Proof Evidence Tid α : Type} {externals : Externals} {t : Tid}
  {world : World Proof Evidence}

/-- Whoever fails has written nothing but refusals. -/
def Harmless {ε : Type} (externals : Externals)
    (exchanges : List (Exchange (Op Proof Evidence) Op.Answer)) (result : Except ε α) : Prop :=
  ∀ error, result = .error error → ∀ exchange ∈ exchanges, Leaves externals Untouched exchange

abbrev Careful (externals : Externals) (t : Tid) (call : Call Proof Evidence α)
    (world : World Proof Evidence) : Prop :=
  Ensures externals t call (fun seen result _ => Harmless externals seen result) world

theorem Harmless.cons {ε : Type} {exchange : Exchange (Op Proof Evidence) Op.Answer}
    {exchanges : List (Exchange (Op Proof Evidence) Op.Answer)} {result : Except ε α}
    (untouched : Leaves externals Untouched exchange)
    (harmless : Harmless externals exchanges result) :
    Harmless externals (exchange :: exchanges) result := by
  intro error failed
  exact List.forall_mem_cons.mpr ⟨untouched, harmless error failed⟩

theorem harmless_ok {ε : Type} {exchanges : List (Exchange (Op Proof Evidence) Op.Answer)}
    (value : α) : Harmless externals exchanges (.ok value : Except ε α) := by
  intro error failed
  cases failed

theorem Plan.careful (plan : Plan α) (ctx : ContextId) (now : Timestamp) :
    Careful externals t (plan.call ctx now : Call Proof Evidence α) world := by
  cases plan with
  | answer value => exact ensures_pure (harmless_ok value)
  | corrupt message => exact ensures_throw fun _ _ => List.forall_mem_nil _
  | unavailable detail => exact ensures_throw fun _ _ => List.forall_mem_nil _
  | refuse refusal =>
      exact ensures_deny fun _ _ _ left _ _ => List.forall_mem_singleton.mpr left
  | submit submission =>
      refine ensures_append ?_ ?_ ?_
      · intro before later error _ _
        exact List.forall_mem_singleton.mpr (silent_append _ _ _ _ (by simp)).untouched
      · intro before later outcome refused
        obtain ⟨refusal, handled⟩ := submission.handled outcome refused
        rw [Plan.conclude_refused refused handled]
        have unwritten : ∀ event, (.ok outcome : Except StoreError AppendOutcome) ≠
            .ok (.appended event) := by
          intro event same
          cases same
          simp at refused
        refine ensures_deny fun exchange _ _ left => ?_
        refine Harmless.cons (silent_append _ _ _ _ unwritten).untouched ?_
        exact fun _ _ => List.forall_mem_singleton.mpr left
      · intro before after later further event tables writes own same kept
        exact ensures_pure (harmless_ok submission.value)

theorem silent_verifyProof (rail : String) (proof : Proof) (expected : PaymentExpectation)
    (answer : Except RailError VerifiedProof) :
    Silent externals (⟨.verifyProof rail proof expected, answer⟩ :
      Exchange (Op Proof Evidence) Op.Answer) := by
  intro before after executed
  obtain rfl : after = _ := executed
  rfl

theorem silent_checkFinality (rail : String) (evidence : Evidence)
    (expected : SettlementExpectation) (answer : Except RailError FinalityStatus) :
    Silent externals (⟨.checkFinality rail evidence expected, answer⟩ :
      Exchange (Op Proof Evidence) Op.Answer) := by
  intro before after executed
  obtain rfl : after = _ := executed
  rfl

theorem Decision.careful (decision : Decision Proof Evidence α) :
    Careful externals t decision.call world := by
  refine ensures_now fun now first _ => ensures_record fun read looked => ?_
  have passed : ∀ {seen : List (Exchange (Op Proof Evidence) Op.Answer)}
      {result : Except LedgerError α}, Harmless externals seen result →
      Harmless externals (⟨.now, now⟩ ::
        ⟨.record decision.ctx, .ok (read.inner.records.lookup decision.ctx)⟩ :: seen) result :=
    fun harmless => (harmless.cons (silent_record _ _).untouched).cons (silent_now now).untouched
  cases decision.decide (read.inner.records.lookup decision.ctx) with
  | outright plan => exact (plan.careful decision.ctx now).mono fun _ _ _ => passed
  | verify rail proof expected next =>
      refine observes_op fun before later answer after executed further => ?_
      refine ((next answer).careful decision.ctx now).mono fun seen result _ harmless => ?_
      exact passed (harmless.cons (silent_verifyProof _ _ _ _).untouched)
  | judge rail evidence expected next =>
      refine observes_op fun before later answer after executed further => ?_
      refine ((next answer).careful decision.ctx now).mono fun seen result _ harmless => ?_
      exact passed (harmless.cons (silent_checkFinality _ _ _ _).untouched)

theorem authorize_careful (ledger : Ledger) (mandate : Mandate) (cart : Cart)
    (requestKey : String) :
    Careful externals t
      (ledger.authorize externals mandate cart requestKey : Call Proof Evidence Authorized)
      world := by
  refine (authorize_ensures ledger).mono ?_
  intro seen result after ends error failed
  rw [failed] at ends
  exact ends

theorem revoke_careful (mandate : MandateId) :
    Careful externals t (Ledger.revoke mandate : Call Proof Evidence Unit) world := by
  refine observes_op fun before later answer after executed further => ?_
  obtain ⟨rfl, -⟩ := executed
  exact harmless_ok ()

/-- The log is what it was, but for a refusal at its end. -/
def RefusedAtMost (before after : Inner) : Prop :=
  after.events = before.events ∨
    ∃ event, after.events = before.events ++ [event] ∧ event.body.isDenied = true

/-- An operation that leaves the records alone appends a refusal at most: every other event
changes the state of its record. -/
theorem World.Exec.refusedAtMost {before after : World Proof Evidence} {op : Op Proof Evidence}
    {answer : op.Answer} (executed : before.Exec externals op answer after)
    (untouched : Untouched before.inner after.inner) :
    RefusedAtMost before.inner after.inner := by
  cases executed.leaves with
  | reads | revokes | verifies | judges => exact .inl rfl
  | appends ctx now body =>
      obtain ⟨result, appended, -⟩ | ⟨event, tables, writes, built, appended⟩ :=
        before.inner.append_cases externals ctx now body
      · exact .inl (by simp [World.append, appended])
      have logged : (before.append externals ctx now body).2.inner = tables.log event := by
        simp [World.append, appended]
      rw [logged] at untouched ⊢
      have kept : tables.records = before.inner.records := untouched.records
      refine .inr ⟨event, by rw [← writes.frame.1]; rfl, ?_⟩
      obtain ⟨-, -, -, -, rfl, -⟩ := Event.new_eq_ok built
      obtain ⟨refusal, -⟩ | ⟨mandate, cart, requestKey, -, absent, inserted⟩ |
        ⟨target, record, moves, later, found, legal, inserted⟩ := writes.records
      · exact EventBody.resultingState_eq_none.mp refusal
      · rw [← kept, inserted, Finmap.lookup_insert] at absent
        cases absent
      · -- a legal move changes the state, so the record cannot be the one it was
        rw [← kept, inserted, Finmap.lookup_insert] at found
        have same := congrArg Record.state (Option.some.inj found)
        rw [Record.advance_state moves later] at same
        rw [← same] at legal
        cases target <;> cases legal

/-- Nothing the call asks for changes the store. -/
abbrev Reads (externals : Externals) (t : Tid) (call : Call Proof Evidence α)
    (world : World Proof Evidence) : Prop :=
  Ensures externals t call (fun seen _ _ => ∀ exchange ∈ seen, Silent externals exchange) world

theorem reads_record (ctx : ContextId) :
    Reads externals t (Ledger.record ctx : Call Proof Evidence (Option Record)) world := by
  have bound : (Ledger.record ctx : Call Proof Evidence (Option Record)) =
      Ledger.record ctx >>= pure := (bind_pure _).symm
  rw [bound]
  exact ensures_record fun before later =>
    ensures_pure (List.forall_mem_singleton.mpr (silent_record ctx _))

theorem reads_reached (ctx : ContextId) :
    Reads externals t (Ledger.reached ctx : Call Proof Evidence (Option Reached)) world := by
  refine ensures_record fun before later => ?_
  have read : Silent externals (⟨.record ctx, .ok (before.inner.records.lookup ctx)⟩ :
      Exchange (Op Proof Evidence) Op.Answer) := silent_record ctx _
  cases found : before.inner.records.lookup ctx with
  | none =>
      rw [found] at read
      exact ensures_pure (List.forall_mem_singleton.mpr read)
  | some record =>
      rw [found] at read
      dsimp only
      cases Ledger.reachedFrom ctx record with
      | ok reached => exact ensures_pure (List.forall_mem_singleton.mpr read)
      | error error => exact ensures_throw (List.forall_mem_singleton.mpr read)

theorem silent_events (ctx : ContextId) (answer : Except StoreError (List Event)) :
    Silent externals (⟨.events ctx, answer⟩ : Exchange (Op Proof Evidence) Op.Answer) := by
  intro before after executed
  exact congrArg World.inner executed.2

theorem ensures_events {ctx : ContextId} {rest : List Event → Call Proof Evidence α}
    {Post : List (Exchange (Op Proof Evidence) Op.Answer) → Except LedgerError α →
      World Proof Evidence → Prop}
    (continues : ∀ before, Later externals world before →
      Ensures externals t (rest (before.inner.chain ctx))
        (fun seen => Post (⟨.events ctx, .ok (before.inner.chain ctx)⟩ :: seen)) before) :
    Ensures externals t (Ledger.events ctx >>= rest) Post world := by
  refine observes_op ?_
  intro before later answer after executed _
  obtain ⟨rfl, rfl⟩ := executed
  exact continues _ later

theorem reads_evidence (ctx : ContextId) :
    Reads externals t (Ledger.evidence ctx : Call Proof Evidence (Option EvidenceBundle)) world := by
  refine ensures_events fun before later => ?_
  have read : Silent externals (⟨.events ctx, .ok (before.inner.chain ctx)⟩ :
      Exchange (Op Proof Evidence) Op.Answer) := silent_events ctx _
  split
  · exact ensures_pure (List.forall_mem_singleton.mpr read)
  · refine ensures_now fun now before later => ensures_pure ?_
    exact List.forall_mem_cons.mpr ⟨read, List.forall_mem_singleton.mpr (silent_now now)⟩

end MandateLedger.Engine
