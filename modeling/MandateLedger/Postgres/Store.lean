import MandateLedger.Core.Operations
import MandateLedger.Postgres.Columns
import MandateLedger.Postgres.Queries
import MandateLedger.Postgres.Session

namespace MandateLedger.Postgres

open MandateLedger.Core MandateLedger.Data MandateLedger.Process

namespace Tables

variable (tables : Tables)

/-- `read_record`. -/
def readRecord (ctx : ContextId) : Except StoreError (Option Record) :=
  ((tables.contexts.lookup ctx).map RecordRow.of).mapM recordFromRow

/-- `read_reserved`: the columns `amount, currency`. -/
def readReserved (mandate : MandateId) : Except StoreError (Option Money) :=
  ((tables.reservations.lookup mandate).map fun money =>
    (money.amount, money.currency.code)).mapM fun row => moneyFromSql row.1 row.2

/-- `SELECT coalesce(max(seq), 0)`. -/
def maxSeq : Nat := (tables.events.map Event.seq).max?.getD 0

/-- `($1::text IS NULL OR mandate_id = $1) AND ($2::text IS NULL OR state = $2) AND
($3::text IS NULL OR ctx COLLATE "C" > $3)`. -/
def selects (mandate state after : Option String) (row : RecordRow) : Bool :=
  mandate.all (row.mandateId = ·) && state.all (row.state = ·) &&
    after.all fun text => byteOrder text < byteOrder row.ctx

def scan (filter : RecordFilter) (after : Option ContextId) (limit : Nat) :
    Except StoreError (List Record) :=
  let rows := (tables.contexts.rows.map RecordRow.of).filter
    (selects (filter.mandate.map StringId.val) (filter.state.map stateToSql)
      (after.map StringId.val))
  -- `ORDER BY ctx COLLATE "C" LIMIT $4`
  let page := (rows.insertionSort fun first second =>
    byteOrder first.ctx ≤ byteOrder second.ctx).take (bigint limit)
  page.mapM recordFromRow

variable (complaint : Tree → String)

def readEvents (events : List Event) : Except StoreError (List Event) :=
  (events.map EventRow.of).mapM (eventFromRow complaint)

/-- `body->>'type'`. -/
def typeOf (row : EventRow) : Option String := row.body.get "type" readString

/-- `WHERE ctx = $1 AND body->>'type' = 'authorized' ORDER BY seq LIMIT 1`. -/
def authorizedMandate (ctx : ContextId) : Except StoreError (Option Mandate) :=
  let row := ((bySeq (tables.chain ctx)).map EventRow.of).find? fun row =>
    typeOf row = some "authorized"
  match row with
  | none => .ok none
  | some row =>
      match bodyFromSql complaint row.body with
      | .error error => .error error
      | .ok (.authorized mandate _ _) => .ok (some mandate)
      | .ok _ => .error (.corrupt "an event tagged authorized that is not Authorized")

end Tables

section Serve

variable (hashtext : String → Int) (externals : Externals) (complaint : Tree → String)

/-- `impl Store for PostgresStore`. -/
def serve (db : Db Unit) : (call : StoreCall) → call.Reply × Db Unit
  | .append ctx now body => (appendTx hashtext externals ctx now body).transaction.run alone db
  | .revoke mandate => (revokeTx hashtext mandate).transaction.run alone db
  | .record ctx => (db.tables.readRecord ctx, db)
  | .events ctx => (Tables.readEvents complaint (bySeq (db.tables.chain ctx)), db)
  | .authorizedMandate ctx => (db.tables.authorizedMandate complaint ctx, db)
  | .eventsAfter after limit =>
      (Tables.readEvents complaint (db.tables.eventsAfter after limit), db)
  | .scan filter after limit => (db.tables.scan filter after limit, db)
  | .lastSeq => (seqFromSql db.tables.maxSeq, db)
  | .reserved mandate => (db.tables.readReserved mandate, db)
  | .isRevoked mandate => (.ok (decide (mandate ∈ db.tables.revocations)), db)

end Serve

end MandateLedger.Postgres
