import MandateLedger.Core.Event
import MandateLedger.Data.Table

namespace MandateLedger.Core

open MandateLedger.Data

/-! # What every store decides

The vocabulary of `Store::append`: the record of a context, the outcomes and
errors, and the decisions that `MemoryStore` and `PostgresStore` take in the
same way from the data each of them reads.
-/

structure Record where
  ctx : ContextId
  state : PaymentState
  mandateId : MandateId
  cartHash : Hash32
  merchant : MerchantId
  amount : Money
  rail : Option String
  paymentReference : Option String
  idempotencyKey : Option Hash32
  settlementReference : Option String
  failureReason : Option String
  receiptReference : Option String
deriving DecidableEq

inductive StoreError where
  | illegalTransition (ctx : ContextId) (source : Option PaymentState) (target : PaymentState)
  | corrupt (message : String)
  | backend (message : String)
  | canonicalize (error : CanonicalizeError)
  | money (error : MoneyError)
deriving DecidableEq

/-- `Display for StoreError`. -/
def StoreError.toString : StoreError → String
  | .illegalTransition ctx source target =>
      let origin := match source with
        | none => "None"
        | some state => "Some(" ++ state.debug ++ ")"
      s!"illegal transition {origin} -> {target.debug} on {ctx.val}"
  | .corrupt message => "store corrupt: " ++ message
  | .backend message => "store backend: " ++ message
  | .canonicalize error => error.toString
  | .money error => error.toString

inductive AppendOutcome where
  | appended (event : Event)
  | budgetExceeded (remaining : Money)
  | velocityExceeded (count : UInt32)
  | nonceAlreadyUsed
  | mandateRevoked
  | denialsCapped
deriving DecidableEq

/-- Which refusals each body can meet. -/
def AppendOutcome.refuses : AppendOutcome → EventBody → Bool
  | .budgetExceeded _, .authorized .. => true
  | .velocityExceeded _, .authorized .. => true
  | .mandateRevoked, .authorized .. => true
  | .nonceAlreadyUsed, .paid .. => true
  | .denialsCapped, .denied .. => true
  | _, _ => false

@[simp] theorem AppendOutcome.appended_refuses (event : Event) (body : EventBody) :
    (AppendOutcome.appended event).refuses body = false := rfl

/-- Only authorizations, payments and denials meet refusals. -/
theorem AppendOutcome.not_refuses (outcome : AppendOutcome) {body : EventBody}
    {target : PaymentState} (moves : body.resultingState = some target)
    (opened : target ≠ .authorized) (unpaid : target ≠ .paid) : outcome.refuses body = false := by
  cases body <;> cases moves <;> first | contradiction | (cases outcome <;> rfl)

/-- The event an append added to the log. -/
def appendedEvent : Except StoreError AppendOutcome → Option Event
  | .ok (.appended event) => some event
  | _ => none

theorem appendedEvent_of_refusal {result : Except StoreError AppendOutcome} {body : EventBody}
    (refusal : ∀ outcome, result = .ok outcome → outcome.refuses body = true) :
    appendedEvent result = none := by
  unfold appendedEvent
  split
  · next event => simp at refusal
  · rfl

/-- `DENIAL_CAP`. -/
def denialCap : Nat := 32

/-- A decision: the store refuses with an outcome, or goes on with a value. -/
inductive Verdict (α : Type) where
  | refused (outcome : AppendOutcome)
  | granted (value : α)

namespace Record

def opened (ctx : ContextId) (mandate : Mandate) (cart : CartSnapshot) : Record where
  ctx := ctx
  state := .authorized
  mandateId := mandate.body.id
  cartHash := cart.hash
  merchant := cart.claims.merchant
  amount := cart.claims.total
  rail := none
  paymentReference := none
  idempotencyKey := none
  settlementReference := none
  failureReason := none
  receiptReference := none

/-- What the commit phase does to an existing record. -/
def advance (record : Record) : EventBody → Record
  | .paid rail reference _ _ idempotencyKey =>
      { record with
        state := .paid
        rail := some rail
        paymentReference := some reference
        idempotencyKey := some idempotencyKey }
  | .settled _ reference =>
      { record with state := .settled, settlementReference := some reference }
  | .settlementFailed _ reason =>
      { record with state := .settlementFailed, failureReason := some reason }
  | .compensated _ => { record with state := .compensated }
  | .delivered receipt =>
      { record with state := .delivered, receiptReference := some receipt.reference }
  | .expired => { record with state := .expired }
  | .authorized .. | .denied .. => record

variable (record : Record) (body : EventBody)

@[simp] theorem advance_ctx : (record.advance body).ctx = record.ctx := by
  cases body <;> rfl

@[simp] theorem advance_mandateId : (record.advance body).mandateId = record.mandateId := by
  cases body <;> rfl

@[simp] theorem advance_cartHash : (record.advance body).cartHash = record.cartHash := by
  cases body <;> rfl

@[simp] theorem advance_merchant : (record.advance body).merchant = record.merchant := by
  cases body <;> rfl

@[simp] theorem advance_amount : (record.advance body).amount = record.amount := by
  cases body <;> rfl

variable {record body} in
/-- A state-changing body other than `Authorized` moves the record to its state. -/
theorem advance_state {target : PaymentState} (moves : body.resultingState = some target)
    (later : target ≠ .authorized) : (record.advance body).state = target := by
  cases body <;> cases moves <;> first | rfl | contradiction

end Record

/-- `check_transition`: only `Authorized` opens a context, and an open context
follows the machine. -/
def checkTransition (existing : Option Record) (ctx : ContextId) (target : PaymentState) :
    Except StoreError Unit :=
  ensure
    ((match existing with
      | none => target == .authorized
      | some record => record.state.canTransitionTo target) = true)
    (.illegalTransition ctx (existing.map Record.state) target)

/-- `u32::try_from(count).unwrap_or(u32::MAX)`. -/
def saturatedCount (count : Nat) : UInt32 :=
  if count < UInt32.size then UInt32.ofNat count else UInt32.ofNat (UInt32.size - 1)

/-- The velocity check, for the number of authorizations since an instant. -/
def checkVelocity (scope : Scope) (now : Timestamp) (countSince : Timestamp → Nat) :
    Option AppendOutcome :=
  match scope.velocity with
  | none => none
  | some velocity =>
      let count := saturatedCount (countSince (now.saturatingSubSecs velocity.windowSecs))
      if velocity.maxCount ≤ count then some (.velocityExceeded count) else none

/-- The budget check: the new running total of the mandate, or the refusal. -/
def checkBudget (ops : DecimalOps) (scope : Scope) (amount : Money) (reserved : Option Money) :
    Except StoreError (Verdict Money) := do
  let current := reserved.getD (Money.zero amount.currency)
  let next ← (current.checkedAdd ops amount).mapError .money
  match scope.maxTotal with
  | none => return .granted next
  | some cap =>
      let order ← (next.cmpSameCurrency cap).mapError .money
      if order = .gt then
        let remaining ← (cap.checkedSub ops current).mapError .money
        return .refused (.budgetExceeded remaining)
      else
        return .granted next

/-- What is left of a reservation once an amount is given back. -/
def releaseFrom (ops : DecimalOps) (reserved : Option Money) (mandate : MandateId)
    (amount : Money) : Except StoreError Money :=
  match reserved with
  | none => .error (.corrupt s!"no reservation for {mandate.val}")
  | some current => do
      let next ← (current.checkedSub ops amount).mapError .money
      ensure (next.isNegative = false)
        (.corrupt s!"releasing {amount.toString} from {current.toString} on {mandate.val} goes negative")
      return next

section Decisions

variable {ops : DecimalOps} {scope : Scope} {ctx : ContextId} {amount next : Money}
  {mandate : MandateId} {reserved : Option Money} {existing : Option Record}
  {target : PaymentState}

theorem checkTransition_eq_ok :
    checkTransition existing ctx target = .ok () ↔
      (existing = none ∧ target = .authorized) ∨
        ∃ record, existing = some record ∧ record.state.canTransitionTo target = true := by
  unfold checkTransition
  cases existing <;> simp

/-- A context that may open has no record: the machine never returns to
`Authorized`. -/
theorem checkTransition_authorized :
    checkTransition existing ctx .authorized = .ok () ↔ existing = none := by
  simp [checkTransition_eq_ok, PaymentState.not_canTransitionTo_authorized]

/-- A step of the machine other than the first finds a record. -/
theorem checkTransition_advance (later : target ≠ .authorized) :
    checkTransition existing ctx target = .ok () ↔
      ∃ record, existing = some record ∧ record.state.canTransitionTo target = true := by
  simp [checkTransition_eq_ok, later]

theorem checkTransition_error {error : StoreError}
    (failed : checkTransition existing ctx target = .error error) :
    error = .illegalTransition ctx (existing.map Record.state) target :=
  (ensure_eq_error.mp failed).2.symm

theorem checkVelocity_some {now : Timestamp} {countSince : Timestamp → Nat}
    {outcome : AppendOutcome} (reached : checkVelocity scope now countSince = some outcome) :
    ∃ count, outcome = .velocityExceeded count := by
  unfold checkVelocity at reached
  cases limit : scope.velocity with
  | none =>
      rw [limit] at reached
      cases reached
  | some velocity =>
      simp only [limit, Option.ite_none_right_eq_some, Option.some.injEq] at reached
      exact ⟨_, reached.2.symm⟩

theorem checkBudget_refused {outcome : AppendOutcome}
    (refused : checkBudget ops scope amount reserved = .ok (.refused outcome)) :
    ∃ remaining, outcome = .budgetExceeded remaining := by
  obtain ⟨sum, -, rest⟩ := bind_eq_ok.mp refused
  cases limit : scope.maxTotal with
  | none =>
      rw [limit] at rest
      cases rest
  | some cap =>
      rw [limit] at rest
      obtain ⟨order, -, rest⟩ := bind_eq_ok.mp rest
      split at rest
      · obtain ⟨remaining, -, chosen⟩ := bind_eq_ok.mp rest
        cases chosen
        exact ⟨remaining, rfl⟩
      · cases rest

theorem checkBudget_error {error : StoreError}
    (failed : checkBudget ops scope amount reserved = .error error) :
    ∃ cause, error = .money cause := by
  have arithmetic : ∀ {α : Type} {outcome : Except MoneyError α},
      outcome.mapError StoreError.money = .error error → ∃ cause, error = .money cause := by
    intro α outcome failed
    obtain ⟨cause, -, same⟩ := mapError_eq_error.mp failed
    exact ⟨cause, same.symm⟩
  rcases bind_eq_error.mp failed with failed | ⟨next, -, failed⟩
  · exact arithmetic failed
  cases limit : scope.maxTotal with
  | none =>
      rw [limit] at failed
      cases failed
  | some cap =>
      rw [limit] at failed
      rcases bind_eq_error.mp failed with failed | ⟨order, -, failed⟩
      · exact arithmetic failed
      split at failed
      · rcases bind_eq_error.mp failed with failed | ⟨remaining, -, failed⟩
        · exact arithmetic failed
        · cases failed
      · cases failed

theorem checkBudget_eq_granted :
    checkBudget ops scope amount reserved = .ok (.granted next) ↔
      (reserved.getD (Money.zero amount.currency)).checkedAdd ops amount = .ok next ∧
        ∀ cap, scope.maxTotal = some cap →
          next.currency = cap.currency ∧ next.value ≤ cap.value := by
  rw [checkBudget, bind_eq_ok]
  simp only [mapError_eq_ok]
  cases scope.maxTotal with
  | none =>
      constructor
      · intro granted
        obtain ⟨sum, added, made⟩ := granted
        cases made
        exact ⟨added, by simp⟩
      · intro within
        exact ⟨next, within.1, rfl⟩
  | some cap =>
      constructor
      · intro granted
        obtain ⟨sum, added, rest⟩ := granted
        obtain ⟨order, compared, rest⟩ := bind_eq_ok.mp rest
        rw [mapError_eq_ok] at compared
        by_cases greater : order = .gt
        · rw [if_pos greater] at rest
          obtain ⟨remaining, -, refused⟩ := bind_eq_ok.mp rest
          cases refused
        · rw [if_neg greater] at rest
          cases rest
          refine ⟨added, ?_⟩
          intro limit same
          cases same
          exact ⟨(Money.cmpSameCurrency_eq_ok.mp compared).1,
            Money.value_le_of_cmp compared greater⟩
      · intro within
        obtain ⟨added, capped⟩ := within
        obtain ⟨same, below⟩ := capped cap rfl
        refine ⟨next, added, bind_eq_ok.mpr ⟨_, mapError_eq_ok.mpr
          (Money.cmpSameCurrency_eq_ok.mpr ⟨same, rfl⟩), if_neg ?_⟩⟩
        rw [Decimal.cmp_eq_gt_iff, not_lt]
        exact below

/-- A granted total is the old one, or zero, plus the amount, in the amount's
currency and within the cap. -/
theorem checkBudget_granted (exact : ops.Exact)
    (granted : checkBudget ops scope amount reserved = .ok (.granted next)) :
    next.value = (reserved.map Money.value).getD 0 + amount.value ∧
      next.currency = amount.currency ∧
      (∀ current, reserved = some current → current.currency = amount.currency) ∧
      ∀ cap, scope.maxTotal = some cap → next.currency = cap.currency ∧ next.value ≤ cap.value := by
  obtain ⟨added, capped⟩ := checkBudget_eq_granted.mp granted
  obtain ⟨same, kept, -⟩ := Money.checked_eq_ok.mp added
  refine ⟨?_, kept.trans same, ?_, capped⟩
  · rw [Money.checkedAdd_value exact added]
    cases reserved <;> simp
  · rintro current rfl
    exact same

theorem releaseFrom_eq_ok_iff :
    releaseFrom ops reserved mandate amount = .ok next ↔
      ∃ current, reserved = some current ∧ current.checkedSub ops amount = .ok next ∧
        next.isNegative = false := by
  cases reserved with
  | none => simp [releaseFrom]
  | some current =>
      simp only [Option.some.injEq, exists_eq_left']
      constructor
      · intro released
        obtain ⟨difference, subtracted, rest⟩ := bind_eq_ok.mp released
        obtain ⟨nonnegative, kept⟩ := check_bind_eq_ok.mp rest
        cases kept
        exact ⟨mapError_eq_ok.mp subtracted, ensure_eq_ok.mp nonnegative⟩
      · intro released
        refine bind_eq_ok.mpr ⟨next, mapError_eq_ok.mpr released.1, ?_⟩
        exact check_bind_eq_ok.mpr ⟨ensure_eq_ok.mpr released.2, rfl⟩

theorem releaseFrom_eq_ok (exact : ops.Exact)
    (released : releaseFrom ops reserved mandate amount = .ok next) :
    ∃ current, reserved = some current ∧ current.currency = amount.currency ∧
      next.currency = current.currency ∧ next.value = current.value - amount.value ∧
      0 ≤ next.value := by
  obtain ⟨current, held, subtracted, nonnegative⟩ := releaseFrom_eq_ok_iff.mp released
  obtain ⟨same, currency, -⟩ := Money.checked_eq_ok.mp subtracted
  exact ⟨current, held, same, currency, Money.checkedSub_value exact subtracted,
    (Money.not_isNegative_iff _).mp nonnegative⟩

theorem releaseFrom_currency (released : releaseFrom ops reserved mandate amount = .ok next) :
    ∃ current, reserved = some current ∧ next.currency = current.currency := by
  obtain ⟨current, held, subtracted, -⟩ := releaseFrom_eq_ok_iff.mp released
  exact ⟨current, held, (Money.checked_eq_ok.mp subtracted).2.1⟩

theorem releaseFrom_defined (exact : ops.Exact) {current : Money}
    (same : current.currency = amount.currency) (nonnegative : 0 ≤ amount.value)
    (covered : amount.value ≤ current.value) :
    ∃ next, releaseFrom ops (some current) mandate amount = .ok next := by
  obtain ⟨next, subtracted, positive⟩ := Money.checkedSub_defined exact same nonnegative covered
  exact ⟨next, releaseFrom_eq_ok_iff.mpr ⟨current, rfl, subtracted, positive⟩⟩

end Decisions

end MandateLedger.Core
