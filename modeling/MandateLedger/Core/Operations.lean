import MandateLedger.Core.Store
import Mathlib.Data.List.Lex

namespace MandateLedger.Core

/-- The bytes of a text, as they are compared. -/
def byteOrder (text : String) : List Nat := (utf8 text).map UInt8.toNat

theorem byteOrder_injective : Function.Injective byteOrder := by
  intro first second same
  exact utf8_injective (List.map_injective_iff.mpr (fun _ _ => UInt8.toNat_inj.mp) same)

/-- `Ord` for an identifier compares the bytes. -/
instance {kind : IdKind} : LinearOrder (StringId kind) where
  toPartialOrder := PartialOrder.lift (fun id : StringId kind => byteOrder id.val)
    (fun _ _ same => StringId.val_inj.mp (byteOrder_injective same))
  le_total first second := le_total (byteOrder first.val) (byteOrder second.val)
  toDecidableLE first second := inferInstanceAs
    (Decidable (byteOrder first.val ≤ byteOrder second.val))
  toDecidableEq := inferInstance

theorem StringId.le_iff {kind : IdKind} {first second : StringId kind} :
    first ≤ second ↔ byteOrder first.val ≤ byteOrder second.val := Iff.rfl

theorem StringId.lt_iff {kind : IdKind} {first second : StringId kind} :
    first < second ↔ byteOrder first.val < byteOrder second.val := Iff.rfl

structure RecordFilter where
  mandate : Option MandateId
  state : Option PaymentState
deriving DecidableEq

/-- `RecordFilter::matches`. -/
def RecordFilter.accepts (filter : RecordFilter) (record : Record) : Bool :=
  filter.mandate.all (· = record.mandateId) && filter.state.all (· = record.state)

inductive StoreCall where
  | append (ctx : ContextId) (now : Timestamp) (body : EventBody)
  | revoke (mandate : MandateId)
  | record (ctx : ContextId)
  | events (ctx : ContextId)
  | authorizedMandate (ctx : ContextId)
  | eventsAfter (after limit : Nat)
  | scan (filter : RecordFilter) (after : Option ContextId) (limit : Nat)
  | lastSeq
  | reserved (mandate : MandateId)
  | isRevoked (mandate : MandateId)

def StoreCall.Result : StoreCall → Type
  | .append .. => AppendOutcome
  | .revoke _ => Unit
  | .record _ => Option Record
  | .events _ | .eventsAfter .. => List Event
  | .authorizedMandate _ => Option Mandate
  | .scan .. => List Record
  | .lastSeq => Nat
  | .reserved _ => Option Money
  | .isRevoked _ => Bool

abbrev StoreCall.Reply (call : StoreCall) : Type := Except StoreError call.Result

end MandateLedger.Core
