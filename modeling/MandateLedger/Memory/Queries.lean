import MandateLedger.Core.Operations
import MandateLedger.Memory.Store
import Mathlib.Data.List.Sort

namespace MandateLedger.Memory

open MandateLedger.Core MandateLedger.Data

namespace Inner

def eventsAfter (inner : Inner) (after limit : Nat) : List Event :=
  (inner.events.filter fun event => after < event.seq).take limit

/-- The order in which the hash map lists its values is lost when they are sorted. -/
def scan (inner : Inner) (filter : RecordFilter) (after : Option ContextId) (limit : Nat) :
    List Record :=
  let hits := inner.records.rows.filter fun record =>
    filter.accepts record && after.all (· < record.ctx)
  (hits.insertionSort fun first second => first.ctx ≤ second.ctx).take limit

/-- `impl Store for MemoryStore`. -/
def serve (externals : Externals) (inner : Inner) : (call : StoreCall) → call.Reply × Inner
  | .append ctx now body => inner.append externals ctx now body
  | .revoke mandate => (.ok (), inner.revoke mandate)
  | .record ctx => (.ok (inner.records.lookup ctx), inner)
  | .events ctx => (.ok (inner.chain ctx), inner)
  | .authorizedMandate ctx => (.ok (inner.authorizedMandate ctx), inner)
  | .eventsAfter after limit => (.ok (inner.eventsAfter after limit), inner)
  | .scan filter after limit => (.ok (inner.scan filter after limit), inner)
  | .lastSeq => (.ok inner.lastSeq, inner)
  | .reserved mandate => (.ok (inner.reserved.lookup mandate), inner)
  | .isRevoked mandate => (.ok (decide (mandate ∈ inner.revoked)), inner)

end Inner

end MandateLedger.Memory
