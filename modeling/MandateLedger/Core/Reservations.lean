import MandateLedger.Core.Store

namespace MandateLedger.Core

open MandateLedger.Data

/-- What a record adds to the reservation of a mandate. -/
def liveAmount (mandate : MandateId) (record : Record) : ℚ :=
  if record.mandateId = mandate ∧ record.state.isLive = true then record.amount.value else 0

/-- The amounts of a mandate's live contexts. -/
def liveTotal (mandate : MandateId) (records : Table ContextId Record) : ℚ :=
  Table.total (fun _ => liveAmount mandate) records

section Totals

variable {records : Table ContextId Record} {ctx : ContextId} {record next : Record}
  {mandate : MandateId}

theorem liveTotal_opened (absent : records.lookup ctx = none) :
    liveTotal mandate (records.insert ctx record) =
      liveAmount mandate record + liveTotal mandate records :=
  Table.total_insert_of_absent _ absent

theorem liveTotal_advanced (found : records.lookup ctx = some record) :
    liveTotal mandate (records.insert ctx next) =
      liveTotal mandate records - liveAmount mandate record + liveAmount mandate next := by
  have exchanged : liveAmount mandate record + liveTotal mandate (records.insert ctx next) =
      liveAmount mandate next + liveTotal mandate records :=
    Table.total_insert_of_present (fun _ => liveAmount mandate) found
  linarith

theorem liveAmount_advance_kept {body : EventBody} {target : PaymentState}
    (moves : body.resultingState = some target) (later : target ≠ .authorized)
    (kept : record.state.isLive = target.isLive) :
    liveAmount mandate (record.advance body) = liveAmount mandate record := by
  simp [liveAmount, Record.advance_state moves later, kept]

theorem liveAmount_advance_released {body : EventBody} {target : PaymentState}
    (moves : body.resultingState = some target) (later : target ≠ .authorized)
    (released : target.isLive = false) : liveAmount mandate (record.advance body) = 0 := by
  simp [liveAmount, Record.advance_state moves later, released]

end Totals

/-- Some context was authorized under the mandate. -/
def EverAuthorized (mandate : MandateId) (history : List Event) : Prop :=
  ∃ event ∈ history, ∃ signed cart requestKey,
    event.body = .authorized signed cart requestKey ∧ signed.body.id = mandate

theorem everAuthorized_append {mandate : MandateId} {history : List Event} {event : Event} :
    EverAuthorized mandate (history ++ [event]) ↔
      EverAuthorized mandate history ∨ ∃ signed cart requestKey,
        event.body = .authorized signed cart requestKey ∧ signed.body.id = mandate := by
  simp [EverAuthorized, or_and_right, exists_or]

theorem everAuthorized_moved {mandate : MandateId} {history : List Event} {event : Event}
    (unopened : event.body.resultingState ≠ some .authorized) :
    EverAuthorized mandate (history ++ [event]) ↔ EverAuthorized mandate history := by
  rw [everAuthorized_append, or_iff_left]
  rintro ⟨signed, cart, requestKey, body, -⟩
  exact unopened (by rw [body]; rfl)

/-- What a reservation is worth; a missing row is worth nothing. -/
def reservedValue (reserved : Option Money) : ℚ := (reserved.map Money.value).getD 0

@[simp] theorem reservedValue_some (money : Money) : reservedValue (some money) = money.value := rfl

@[simp] theorem reservedValue_none : reservedValue none = 0 := rfl

/-- The live contexts of every mandate against its reservation. -/
def Backed (rel : ℚ → ℚ → Prop) (reserved : Table MandateId Money)
    (records : Table ContextId Record) : Prop :=
  ∀ mandate, rel (liveTotal mandate records) (reservedValue (reserved.lookup mandate))

/-- The mandate of every record has a reservation, in the record's currency. -/
def Denominated (reserved : Table MandateId Money) (records : Table ContextId Record) : Prop :=
  ∀ ctx record, records.lookup ctx = some record →
    ∃ money, reserved.lookup record.mandateId = some money ∧
      record.amount.currency = money.currency

section Backed

variable {rel : ℚ → ℚ → Prop} {reserved : Table MandateId Money}
  {records : Table ContextId Record} {ctx : ContextId} {record : Record} {body : EventBody}
  {next : Money}

/-- An authorization adds its amount to both sides.  The total it adds to may
be older than the reservation. -/
theorem Backed.opened {mandate : Mandate} {cart : CartSnapshot} {held : Option Money}
    (backed : Backed rel reserved records)
    (shift : ∀ {a b} c, rel a b → rel (c + a) (c + b))
    (trans : ∀ {a b c}, rel a b → rel b c → rel a c)
    (absent : records.lookup ctx = none)
    (recent : rel (reservedValue (reserved.lookup mandate.body.id)) (reservedValue held))
    (sum : next.value = reservedValue held + cart.claims.total.value) :
    Backed rel (reserved.insert mandate.body.id next)
      (records.insert ctx (Record.opened ctx mandate cart)) := by
  intro other
  rw [liveTotal_opened absent, Table.lookup_insert_eq]
  by_cases same : other = mandate.body.id
  · subst same
    rw [if_pos rfl, reservedValue_some, sum, add_comm (reservedValue held)]
    have amount : liveAmount mandate.body.id (Record.opened ctx mandate cart) =
        cart.claims.total.value := by
      simp [liveAmount, Record.opened, PaymentState.isLive]
    rw [amount]
    exact shift _ (trans (backed _) recent)
  · rw [if_neg same]
    have amount : liveAmount other (Record.opened ctx mandate cart) = 0 := by
      simp [liveAmount, Record.opened, Ne.symm same]
    rw [amount, zero_add]
    exact backed other

theorem Backed.moved (backed : Backed rel reserved records)
    (found : records.lookup ctx = some record)
    (kept : ∀ mandate, liveAmount mandate (record.advance body) = liveAmount mandate record) :
    Backed rel reserved (records.insert ctx (record.advance body)) := by
  intro mandate
  rw [liveTotal_advanced found, kept, sub_add_cancel]
  exact backed mandate

theorem Backed.released {current : Money} (backed : Backed rel reserved records)
    (shift : ∀ {a b} c, rel a b → rel (c + a) (c + b))
    (found : records.lookup ctx = some record) (live : record.state.isLive = true)
    (ended : ∀ mandate, liveAmount mandate (record.advance body) = 0)
    (held : reserved.lookup record.mandateId = some current)
    (rest : next.value = current.value - record.amount.value) :
    Backed rel (reserved.insert record.mandateId next)
      (records.insert ctx (record.advance body)) := by
  intro mandate
  rw [liveTotal_advanced found, ended, add_zero, Table.lookup_insert_eq]
  have before := backed mandate
  by_cases own : mandate = record.mandateId
  · subst own
    have amount : liveAmount record.mandateId record = record.amount.value := by
      simp [liveAmount, live]
    rw [held, reservedValue_some] at before
    rw [if_pos rfl, reservedValue_some, rest, amount, sub_eq_neg_add, sub_eq_neg_add]
    exact shift _ before
  · have amount : liveAmount mandate record = 0 := by
      simp [liveAmount, Ne.symm own]
    rw [if_neg own, amount, sub_zero]
    exact before

theorem Denominated.opened {mandate : Mandate} {cart : CartSnapshot}
    (denominated : Denominated reserved records)
    (currency : next.currency = cart.claims.total.currency)
    (same : ∀ current, reserved.lookup mandate.body.id = some current →
      current.currency = next.currency) :
    Denominated (reserved.insert mandate.body.id next)
      (records.insert ctx (Record.opened ctx mandate cart)) := by
  intro other stored found
  rw [Table.lookup_insert_eq] at found
  split at found
  · cases found
    exact ⟨next, Finmap.lookup_insert _, currency.symm⟩
  · obtain ⟨money, held, agrees⟩ := denominated other stored found
    rw [Table.lookup_insert_eq]
    by_cases own : stored.mandateId = mandate.body.id
    · rw [own] at held
      exact ⟨next, if_pos own, agrees.trans (same money held)⟩
    · exact ⟨money, (if_neg own).trans held, agrees⟩

theorem Denominated.moved (denominated : Denominated reserved records)
    (found : records.lookup ctx = some record) :
    Denominated reserved (records.insert ctx (record.advance body)) := by
  intro other stored present
  rw [Table.lookup_insert_eq] at present
  split at present
  · cases present
    rw [Record.advance_mandateId, Record.advance_amount]
    exact denominated ctx record found
  · exact denominated other stored present

theorem Denominated.insert {mandate : MandateId} {current : Money}
    (denominated : Denominated reserved records) (held : reserved.lookup mandate = some current)
    (currency : next.currency = current.currency) :
    Denominated (reserved.insert mandate next) records := by
  intro ctx stored found
  obtain ⟨money, before, agrees⟩ := denominated ctx stored found
  rw [Table.lookup_insert_eq]
  by_cases own : stored.mandateId = mandate
  · rw [own, held] at before
    cases before
    exact ⟨next, if_pos own, agrees.trans currency.symm⟩
  · exact ⟨money, (if_neg own).trans before, agrees⟩

/-- What backs a live context can be given back. -/
theorem releaseFrom_backed {ops : DecimalOps} (exact : ops.Exact)
    (backed : Backed rel reserved records) (denominated : Denominated reserved records)
    (covers : ∀ {a b}, rel a b → a ≤ b)
    (nonnegative : ∀ ctx record, records.lookup ctx = some record → 0 ≤ record.amount.value)
    (found : records.lookup ctx = some record) (live : record.state.isLive = true) :
    ∃ next, releaseFrom ops (reserved.lookup record.mandateId) record.mandateId record.amount =
      .ok next := by
  obtain ⟨current, held, currency⟩ := denominated ctx record found
  have total := covers (backed record.mandateId)
  rw [held, reservedValue_some] at total
  have part : liveAmount record.mandateId record ≤ liveTotal record.mandateId records := by
    refine Table.weight_le_total (fun _ => liveAmount record.mandateId) ?_ found
    intro other stored present
    unfold liveAmount
    split
    · exact nonnegative other stored present
    · exact le_rfl
  have covered : record.amount.value ≤ current.value := by
    have amount : liveAmount record.mandateId record = record.amount.value := by
      simp [liveAmount, live]
    exact (amount ▸ part).trans total
  rw [held]
  exact releaseFrom_defined exact currency.symm (nonnegative ctx record found) covered

end Backed

end MandateLedger.Core
