import MandateLedger.Core.Serial
import MandateLedger.Core.Store

namespace MandateLedger.Postgres

open MandateLedger.Core MandateLedger.Data

/-! # Rows

`convert.rs`: how records, amounts and events become the columns of a row, and what is
made of a row that is read.  A row that was written from a value gives the value back;
an event has to carry patterns that `parse` can return.
-/

/-- `corrupt`, for an identifier that is not one. -/
def idFromSql (kind : IdKind) (text : String) : Except StoreError (StringId kind) :=
  (StringId.new kind text).mapError fun error => .corrupt error.toString

def stateToSql : PaymentState → String
  | .authorized => "authorized"
  | .paid => "paid"
  | .settled => "settled"
  | .settlementFailed => "settlement_failed"
  | .compensated => "compensated"
  | .delivered => "delivered"
  | .expired => "expired"

def stateFromSql : String → Except StoreError PaymentState
  | "authorized" => .ok .authorized
  | "paid" => .ok .paid
  | "settled" => .ok .settled
  | "settlement_failed" => .ok .settlementFailed
  | "compensated" => .ok .compensated
  | "delivered" => .ok .delivered
  | "expired" => .ok .expired
  | other => .error (.corrupt s!"unknown payment state `{other}`")

def hashFromSql (text : String) : Except StoreError Hash32 :=
  match Hash32.parse text with
  | some hash => .ok hash
  | none => .error (.corrupt s!"unparseable hash `{text}`")

def moneyFromSql (amount : Decimal) (currency : String) : Except StoreError Money := do
  let currency ← (Currency.new currency).mapError fun error => .corrupt error.toString
  return ⟨amount, currency⟩

@[simp] theorem idFromSql_val {kind : IdKind} (id : StringId kind) :
    idFromSql kind id.val = .ok id := by
  simp [idFromSql]

@[simp] theorem stateFromSql_stateToSql (state : PaymentState) :
    stateFromSql (stateToSql state) = .ok state := by
  cases state <;> rfl

theorem stateToSql_inj {first second : PaymentState} :
    stateToSql first = stateToSql second ↔ first = second := by
  constructor
  · intro same
    have read := congrArg stateFromSql same
    rw [stateFromSql_stateToSql, stateFromSql_stateToSql] at read
    exact Except.ok.inj read
  · exact congrArg stateToSql

@[simp] theorem hashFromSql_toString (hash : Hash32) :
    hashFromSql (Hash32.toString hash) = .ok hash := by
  simp [hashFromSql]

@[simp] theorem moneyFromSql_columns (money : Money) :
    moneyFromSql money.amount money.currency.code = .ok money := by
  simp [moneyFromSql, pure, Except.pure]

/-- A row of `ml_contexts`, in the order of `RECORD_COLUMNS`. -/
structure RecordRow where
  ctx : String
  state : String
  mandateId : String
  cartHash : String
  merchant : String
  amount : Decimal
  currency : String
  rail : Option String
  paymentReference : Option String
  idempotencyKey : Option String
  settlementReference : Option String
  failureReason : Option String
  receiptReference : Option String

def RecordRow.of (record : Record) : RecordRow where
  ctx := record.ctx.val
  state := stateToSql record.state
  mandateId := record.mandateId.val
  cartHash := Hash32.toString record.cartHash
  merchant := record.merchant.val
  amount := record.amount.amount
  currency := record.amount.currency.code
  rail := record.rail
  paymentReference := record.paymentReference
  idempotencyKey := record.idempotencyKey.map Hash32.toString
  settlementReference := record.settlementReference
  failureReason := record.failureReason
  receiptReference := record.receiptReference

/-- `record_from_row`. -/
def recordFromRow (row : RecordRow) : Except StoreError Record := do
  let ctx ← idFromSql .context row.ctx
  let state ← stateFromSql row.state
  let mandateId ← idFromSql .mandate row.mandateId
  let cartHash ← hashFromSql row.cartHash
  let merchant ← idFromSql .merchant row.merchant
  let amount ← moneyFromSql row.amount row.currency
  let idempotencyKey ← row.idempotencyKey.mapM hashFromSql
  return {
    ctx := ctx
    state := state
    mandateId := mandateId
    cartHash := cartHash
    merchant := merchant
    amount := amount
    rail := row.rail
    paymentReference := row.paymentReference
    idempotencyKey := idempotencyKey
    settlementReference := row.settlementReference
    failureReason := row.failureReason
    receiptReference := row.receiptReference }

@[simp] theorem recordFromRow_of (record : Record) : recordFromRow (.of record) = .ok record := by
  have key : (record.idempotencyKey.map Hash32.toString).mapM hashFromSql =
      .ok record.idempotencyKey := by
    cases record.idempotencyKey with
    | none => rfl
    | some hash => simp [Option.mapM_some]
  simp [recordFromRow, RecordRow.of, key, pure, Except.pure]

/-- A row of `ml_events`, in the order of `EVENT_COLUMNS`. -/
structure EventRow where
  seq : Int
  ctx : String
  recordedAt : Int64
  prevHash : String
  hash : String
  body : Tree

def EventRow.of (event : Event) : EventRow where
  seq := event.seq
  ctx := event.ctx.val
  recordedAt := event.recordedAt.secs
  prevHash := Hash32.toString event.prevHash
  hash := Hash32.toString event.hash
  body := event.body.toJson

/-- `u64::try_from` of a `BIGINT`. -/
def seqFromSql (seq : Int) : Except StoreError Nat :=
  if 0 ≤ seq then .ok seq.toNat
  else .error (.corrupt "out of range integral type conversion attempted")

section Events

-- what `serde_json` says of a body it cannot read
variable (complaint : Tree → String)

def bodyFromSql (json : Tree) : Except StoreError EventBody :=
  match EventBody.ofJson json with
  | some body => .ok body
  | none => .error (.corrupt (complaint json))

/-- `event_from_row`. -/
def eventFromRow (row : EventRow) : Except StoreError Event := do
  let body ← bodyFromSql complaint row.body
  let seq ← seqFromSql row.seq
  let ctx ← idFromSql .context row.ctx
  let prevHash ← hashFromSql row.prevHash
  let hash ← hashFromSql row.hash
  return ⟨seq, ctx, ⟨row.recordedAt⟩, prevHash, hash, body⟩

variable {complaint}

theorem bodyFromSql_toJson {body : EventBody} (parsed : body.Parsed) :
    bodyFromSql complaint body.toJson = .ok body := by
  simp [bodyFromSql, EventBody.ofJson_toJson parsed]

theorem eventFromRow_of {event : Event} (parsed : event.body.Parsed) :
    eventFromRow complaint (.of event) = .ok event := by
  simp [eventFromRow, EventRow.of, bodyFromSql_toJson parsed, seqFromSql, pure, Except.pure]

end Events

end MandateLedger.Postgres
