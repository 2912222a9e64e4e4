import MandateLedger.Core.RustDecimal
import MandateLedger.Memory.Budget

namespace MandateLedger.Memory

open MandateLedger.Core MandateLedger.Data

/-- What an append does to the totals is exact: no amount is negative, no sum is
rounded, and what a release leaves fits. -/
def Inner.Precise (rounding : Rounding) (inner : Inner) (ctx : ContextId) : EventBody → Prop
  | .authorized mandate cart _ =>
      0 ≤ cart.claims.total.value ∧
        TotalFits rounding (inner.reserved.lookup mandate.body.id) cart.claims.total
  | .settlementFailed .. | .expired =>
      ∀ record ∈ inner.records.lookup ctx,
        RestFits (inner.reserved.lookup record.mandateId) record.amount
  | _ => True

/-- The states of runs in which every append is precise. -/
inductive PreciseRun (externals : Externals) (rounding : Rounding) : Traced → Prop where
  | empty : PreciseRun externals rounding .empty
  | append {traced : Traced} {ctx : ContextId} {now : Timestamp} {body : EventBody}
      (run : PreciseRun externals rounding traced)
      (precise : traced.inner.Precise rounding ctx body) :
      PreciseRun externals rounding
        (traced.append (rustExternals externals rounding) ctx now body).2
  | revoke {traced : Traced} (run : PreciseRun externals rounding traced) (mandate : MandateId) :
      PreciseRun externals rounding (traced.revoke mandate)
  | prune {traced : Traced} (run : PreciseRun externals rounding traced) (before : Timestamp) :
      PreciseRun externals rounding (traced.prune before)

section Precise

variable {externals : Externals} {rounding : Rounding} {inner tables : Inner} {ctx : ContextId}
  {now : Timestamp} {body : EventBody} {record : Record} {current : Money}

theorem Inner.Precise.fits {target : PaymentState} (precise : inner.Precise rounding ctx body)
    (moves : body.resultingState = some target)
    (giving : target = .settlementFailed ∨ target = .expired)
    (found : inner.records.lookup ctx = some record) :
    RestFits (inner.reserved.lookup record.mandateId) record.amount := by
  cases body with
  | settlementFailed rail reason => exact precise record found
  | expired => exact precise record found
  | _ => cases moves <;> simp at giving

/-- A precise append writes what it would write with exact arithmetic. -/
theorem Inner.Precise.corrected (precise : inner.Precise rounding ctx body)
    (writes : inner.Writes (.rustDecimal rounding) ctx now body tables) :
    inner.Writes (DecimalOps.rustDecimal rounding).corrected ctx now body tables := by
  cases writes with
  | authorized absent active paced granted =>
      exact .authorized absent active paced (checkBudget_corrected precise.2 granted)
  | paid found legal free => exact .paid found legal free
  | moved moves plain found legal => exact .moved moves plain found legal
  | released moves giving found legal given =>
      exact .released moves giving found legal
        (releaseFrom_corrected (precise.fits moves giving found) given)
  | denied uncapped => exact .denied uncapped

theorem releaseFrom_of_fits {mandate : MandateId} {amount next : Money}
    (fits : Decimal.Fits (current.amount.alignedDifference amount.amount)
      (current.amount.commonScale amount.amount))
    (given : releaseFrom (DecimalOps.rustDecimal rounding).corrected (some current) mandate amount =
      .ok next) :
    releaseFrom (.rustDecimal rounding) (some current) mandate amount = .ok next := by
  obtain ⟨_, held, subtracted, nonnegative⟩ := releaseFrom_eq_ok_iff.mp given
  cases held
  obtain ⟨same, currency, corrected⟩ := Money.checked_eq_ok.mp subtracted
  obtain ⟨difference, returned, exact⟩ : ∃ difference,
      (DecimalOps.rustDecimal rounding).checkedSub current.amount amount.amount =
        some difference ∧ difference.toRat = _ := fits.stored
  rw [← Decimal.toRat_sub] at exact
  rw [DecimalOps.corrected_sub returned exact] at corrected
  cases corrected
  exact releaseFrom_eq_ok_iff.mpr
    ⟨current, rfl, Money.checked_eq_ok.mpr ⟨same, currency, returned⟩, nonnegative⟩

end Precise

namespace PreciseRun

variable {externals : Externals} {rounding : Rounding} {traced : Traced}

theorem reachable (run : PreciseRun externals rounding traced) :
    Traced.Reachable (rustExternals externals rounding) traced := by
  induction run with
  | empty => exact .refl
  | append run precise ih => exact ih.tail (.append _ _ _ _)
  | revoke run mandate ih => exact ih.tail (.revoke _ mandate)
  | prune run before ih => exact ih.tail (.prune _ before)

theorem nonnegative (run : PreciseRun externals rounding traced) :
    NonnegativeHistory traced.history := by
  induction run with
  | empty =>
      intro event listed
      cases listed
  | @append traced ctx now body run precise ih =>
      obtain ⟨result, appended, -⟩ | ⟨event, tables, -, built, appended⟩ :=
        traced.append_cases (rustExternals externals rounding) ctx now body
      · rw [appended]
        exact ih
      · rw [appended]
        intro listed member mandate cart requestKey authorized
        rcases List.mem_append.mp member with earlier | last
        · exact ih listed earlier mandate cart requestKey authorized
        · obtain rfl := List.mem_singleton.mp last
          obtain ⟨-, -, -, -, same, -⟩ := Event.new_eq_ok built
          rw [← same, authorized] at precise
          exact precise.1
  | revoke run mandate ih => exact ih
  | prune run before ih => exact ih

/-- The totals of a precise run are the sums of the live amounts. -/
theorem budget (run : PreciseRun externals rounding traced) : Budget traced := by
  induction run with
  | empty => exact .empty
  | @append traced ctx now body run precise ih =>
      obtain ⟨result, appended, -⟩ | ⟨event, tables, writes, built, appended⟩ :=
        traced.append_cases (rustExternals externals rounding) ctx now body
      · rw [appended]
        exact ih
      · rw [appended]
        obtain ⟨-, rfl, -, -, rfl, -⟩ := Event.new_eq_ok built
        exact ih.logged (DecimalOps.corrected_exact _) (precise.corrected writes)
  | @revoke traced run mandate ih =>
      have step : Traced.Step
          { externals with decimals := (DecimalOps.rustDecimal rounding).corrected } traced
          (traced.revoke mandate) := .revoke traced mandate
      exact ih.step (DecimalOps.corrected_exact _) step
  | @prune traced run before ih =>
      have step : Traced.Step
          { externals with decimals := (DecimalOps.rustDecimal rounding).corrected } traced
          (traced.prune before) := .prune traced before
      exact ih.step (DecimalOps.corrected_exact _) step

theorem released (run : PreciseRun externals rounding traced) {ctx : ContextId} {now : Timestamp}
    {body : EventBody} {target : PaymentState} {record : Record} {event : Event}
    (precise : traced.inner.Precise rounding ctx body)
    (moves : body.resultingState = some target)
    (giving : target = .settlementFailed ∨ target = .expired)
    (found : traced.inner.records.lookup ctx = some record)
    (legal : record.state.canTransitionTo target = true)
    (built : Event.new (rustExternals externals rounding) (traced.inner.prevHash ctx)
      (traced.inner.lastSeq + 1) ctx now body = .ok event) :
    (traced.append (rustExternals externals rounding) ctx now body).1 = .ok (.appended event) := by
  have live := (PaymentState.isLive_of_giving legal giving).1
  have lifecycle := Lifecycle.run run.reachable
  obtain ⟨next, given⟩ := releaseFrom_backed (DecimalOps.corrected_exact (.rustDecimal rounding))
    run.budget.total run.budget.currency le_of_eq
    (fun _ _ => lifecycle.nonnegative_record run.nonnegative) found live
  obtain ⟨current, held, -, -⟩ := releaseFrom_eq_ok_iff.mp given
  rw [held] at given
  have returned := releaseFrom_of_fits (precise.fits moves giving found current held) given
  rw [← held] at returned
  have writes : traced.inner.Writes (rustExternals externals rounding).decimals ctx now body _ :=
    .released moves giving found legal returned
  unfold Traced.append
  rw [writes.appended built]

/-- With no live context left, nothing is reserved. -/
theorem reservedValue_eq_zero (run : PreciseRun externals rounding traced) {mandate : MandateId}
    (ended : ∀ ctx record, traced.inner.records.lookup ctx = some record →
      record.mandateId = mandate → record.state.isLive = false) :
    reservedValue (traced.inner.reserved.lookup mandate) = 0 := by
  rw [← run.budget.total mandate]
  apply Table.total_eq_zero
  intro ctx record found
  unfold liveAmount
  split
  · next live =>
      rw [ended ctx record found live.1] at live
      cases live.2
  · rfl

end PreciseRun

def usdcOf (mantissa scale : Nat) : Money := ⟨⟨false, mantissa, scale⟩, Sample.usdc⟩

def purchaseOf (total : Money) (requestKey : String) : EventBody :=
  .authorized (Sample.mandate Sample.alice)
    { hash := Sample.cartHash
      claims := ⟨Sample.merchant, total, none, none⟩
      attestation := .agentReported
      raw := Sample.cart.raw } requestKey

def rustSample : Externals := rustExternals Sample.externals .halfEven

/-- 8 USDC, then the smallest amount there is, then the first expires. -/
def blurred : Traced :=
  Traced.empty.appends rustSample
    [(Sample.firstCtx, ⟨10⟩, purchaseOf (usdcOf 8 0) "k1"),
      (Sample.secondCtx, ⟨20⟩, purchaseOf (usdcOf 1 28) "k2"),
      (Sample.firstCtx, ⟨30⟩, .expired)]

def sixtyReserved : Traced :=
  (Traced.empty.append rustSample Sample.firstCtx ⟨10⟩ (purchaseOf (usdcOf 6000 2) "k1")).2

theorem sixtyReserved_run : PreciseRun Sample.externals .halfEven sixtyReserved := by
  refine .append .empty ⟨?_, .inl ⟨0, by decide, by simp, ?_⟩⟩
  · exact (Money.not_isNegative_iff _).mp rfl
  · decide

/-- Money is exact where its results fit.  A sum or a difference is exact, or an
error, exactly when it fits or overflows; and in a run whose results fit, a total is
the sum of the live amounts, nothing once none is live, and every release goes
through. -/
theorem money_exact_iff (externals : Externals) (rounding : Rounding) :
    (∀ left right : Money, left.currency = right.currency →
      ((∀ result, left.checkedAdd (.rustDecimal rounding) right = .ok result →
          result.value = left.value + right.value) ↔
        Decimal.Fits (left.amount.alignedSum right.amount)
            (left.amount.commonScale right.amount) ∨
          Decimal.Overflows rounding (left.amount.alignedSum right.amount)
            (left.amount.commonScale right.amount)) ∧
      ((∀ result, left.checkedSub (.rustDecimal rounding) right = .ok result →
          result.value = left.value - right.value) ↔
        Decimal.Fits (left.amount.alignedDifference right.amount)
            (left.amount.commonScale right.amount) ∨
          Decimal.Overflows rounding (left.amount.alignedDifference right.amount)
            (left.amount.commonScale right.amount))) ∧
    ∀ traced, PreciseRun externals rounding traced →
      (∀ mandate, reservedValue (traced.inner.reserved.lookup mandate) =
        liveTotal mandate traced.inner.records) ∧
      (∀ mandate, (∀ ctx record, traced.inner.records.lookup ctx = some record →
          record.mandateId = mandate → record.state.isLive = false) →
        reservedValue (traced.inner.reserved.lookup mandate) = 0) ∧
      ∀ ctx now body target record event,
        traced.inner.Precise rounding ctx body → body.resultingState = some target →
        (target = .settlementFailed ∨ target = .expired) →
        traced.inner.records.lookup ctx = some record →
        record.state.canTransitionTo target = true →
        Event.new (rustExternals externals rounding) (traced.inner.prevHash ctx)
          (traced.inner.lastSeq + 1) ctx now body = .ok event →
        (traced.append (rustExternals externals rounding) ctx now body).1 =
          .ok (.appended event) := by
  constructor
  · intro left right same
    exact ⟨Money.checkedAdd_exact_iff same, Money.checkedSub_exact_iff same⟩
  · intro traced run
    refine ⟨fun mandate => (run.budget.total mandate).symm, fun mandate => run.reservedValue_eq_zero, ?_⟩
    intro ctx now body target record event precise moves giving found legal built
    exact run.released precise moves giving found legal built

theorem sixtyReserved_exact :
    reservedValue (sixtyReserved.inner.reserved.lookup Sample.mandateId) =
        liveTotal Sample.mandateId sixtyReserved.inner.records ∧
      ((sixtyReserved.append rustSample Sample.firstCtx ⟨20⟩ .expired).1.toOption).isSome =
        true := by
  have exact := (money_exact_iff Sample.externals .halfEven).2 _ sixtyReserved_run
  refine ⟨exact.1 Sample.mandateId, ?_⟩
  have fits : sixtyReserved.inner.Precise .halfEven Sample.firstCtx .expired := by
    intro record found current held
    cases found
    cases held
    exact ⟨0, by decide, by simp, by decide⟩
  have released := exact.2.2 Sample.firstCtx ⟨20⟩ .expired .expired _ _ fits rfl (.inr rfl) rfl
    rfl rfl
  rw [show rustSample = rustExternals Sample.externals .halfEven from rfl, released]
  rfl

/-- 8 USDC and the smallest amount there is add up to 8 USDC, so the second of the two
releases finds too little. -/
theorem blurred_release_fails :
    (usdcOf 8 0).checkedAdd (.rustDecimal .halfEven) (usdcOf 1 28) =
        .ok (usdcOf 8000000000000000000000000000 27) ∧
      (usdcOf 8000000000000000000000000000 27).value ≠
        (usdcOf 8 0).value + (usdcOf 1 28).value ∧
      (blurred.append rustSample Sample.secondCtx ⟨40⟩ .expired).1 =
        .error (.corrupt ("releasing 0.0000000000000000000000000001 USDC from " ++
          "0.000000000000000000000000000 USDC on m-1 goes negative")) := by
  refine ⟨by decide +kernel, ?_, by decide +kernel⟩
  norm_num [usdcOf, Money.value, Decimal.toRat, Decimal.signed]

end MandateLedger.Memory
