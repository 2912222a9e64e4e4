import MandateLedger.Core.Store

namespace MandateLedger.Memory

open MandateLedger.Core MandateLedger.Data

/-! # The in-memory store

`MemoryStore` of `store.rs`.  Every operation runs under one mutex, so each is a
function of the guarded `Inner`.  A `Vec` index that the source takes with
`events[i]` is taken here with `events[i]?`; `Memory.Indexing` shows that the
positions it is used at are in range, and that the counter, a `u64` in the source,
does not overflow before `2 ^ 64` events are appended.
-/

structure Inner where
  records : Table ContextId Record
  events : List Event
  byCtx : Table ContextId (List Nat)
  lastSeq : Nat
  reserved : Table MandateId Money
  authTimes : Table MandateId (List Timestamp)
  velocityWindows : Table MandateId Int64
  nonces : Table (String × String) ContextId
  revoked : Finset MandateId

namespace Inner

def empty : Inner where
  records := ∅
  events := []
  byCtx := ∅
  lastSeq := 0
  reserved := ∅
  authTimes := ∅
  velocityWindows := ∅
  nonces := ∅
  revoked := ∅

/-- `Store::events`: the events at the positions the index lists. -/
def chain (inner : Inner) (ctx : ContextId) : List Event :=
  ((inner.byCtx.lookup ctx).getD []).filterMap fun position => inner.events[position]?

/-- `Store::authorized_mandate`. -/
def authorizedMandate (inner : Inner) (ctx : ContextId) : Option Mandate :=
  (inner.chain ctx).findSome? fun event => event.body.mandate?

def countSince (inner : Inner) (mandate : MandateId) (since : Timestamp) : Nat :=
  match inner.authTimes.lookup mandate with
  | none => 0
  | some times => times.countP fun time => since ≤ time

def denials (inner : Inner) (ctx : ContextId) : Nat :=
  (inner.chain ctx).countP fun event => event.body.isDenied

def prevHash (inner : Inner) (ctx : ContextId) : Hash32 :=
  match (inner.chain ctx).getLast? with
  | none => .zero
  | some event => event.hash

def revoke (inner : Inner) (mandate : MandateId) : Inner :=
  { inner with revoked := insert mandate inner.revoked }

/-- What phase 1 decided to do. -/
structure Effects where
  newRecord : Option Record
  reserve : Option (MandateId × Money)
  window : Option Int64
  release : Option (MandateId × Money)
  consumeNonce : Option (String × String)

def Effects.nothing : Effects := ⟨none, none, none, none, none⟩

def validateAuthorized (ops : DecimalOps) (inner : Inner) (ctx : ContextId) (now : Timestamp)
    (mandate : Mandate) (cart : CartSnapshot) : Except StoreError (Verdict Effects) := do
  checkTransition (inner.records.lookup ctx) ctx .authorized
  let scope := mandate.body.scope
  let mandateId := mandate.body.id
  if mandateId ∈ inner.revoked then
    return .refused .mandateRevoked
  else
    match checkVelocity scope now (inner.countSince mandateId) with
    | some outcome => return .refused outcome
    | none =>
        match ← checkBudget ops scope cart.claims.total (inner.reserved.lookup mandateId) with
        | .refused outcome => return .refused outcome
        | .granted next =>
            return .granted
              { Effects.nothing with
                reserve := some (mandateId, next)
                window := scope.velocity.map Velocity.windowSecs
                newRecord := some (Record.opened ctx mandate cart) }

def validatePaid (inner : Inner) (ctx : ContextId) (rail nonce : String) :
    Except StoreError (Verdict Effects) := do
  checkTransition (inner.records.lookup ctx) ctx .paid
  if (inner.nonces.lookup (rail, nonce)).any (· ≠ ctx) then
    return .refused .nonceAlreadyUsed
  else
    return .granted { Effects.nothing with consumeNonce := some (rail, nonce) }

/-- The bodies that move the context and touch nothing else. -/
def validateMove (inner : Inner) (ctx : ContextId) (target : PaymentState) :
    Except StoreError (Verdict Effects) := do
  checkTransition (inner.records.lookup ctx) ctx target
  return .granted .nothing

/-- The bodies that give the context's reservation back. -/
def validateRelease (inner : Inner) (ctx : ContextId) (target : PaymentState) :
    Except StoreError (Verdict Effects) := do
  checkTransition (inner.records.lookup ctx) ctx target
  match inner.records.lookup ctx with
  | none => .error (.corrupt "no record")
  | some record =>
      return .granted { Effects.nothing with release := some (record.mandateId, record.amount) }

def validateDenied (inner : Inner) (ctx : ContextId) : Except StoreError (Verdict Effects) :=
  if denialCap ≤ inner.denials ctx then return .refused .denialsCapped
  else return .granted .nothing

def validate (ops : DecimalOps) (inner : Inner) (ctx : ContextId) (now : Timestamp) :
    EventBody → Except StoreError (Verdict Effects)
  | .authorized mandate cart _ => inner.validateAuthorized ops ctx now mandate cart
  | .paid rail _ nonce _ _ => inner.validatePaid ctx rail nonce
  | .settled .. => inner.validateMove ctx .settled
  | .settlementFailed .. => inner.validateRelease ctx .settlementFailed
  | .compensated .. => inner.validateMove ctx .compensated
  | .delivered .. => inner.validateMove ctx .delivered
  | .expired => inner.validateRelease ctx .expired
  | .denied .. => inner.validateDenied ctx

/-- The longest window `entry(..).or_default()` keeps. -/
def widen (inner : Inner) (mandate : MandateId) : Option Int64 → Inner
  | none => inner
  | some secs =>
      let longest := (inner.velocityWindows.lookup mandate).getD 0
      { inner with velocityWindows := inner.velocityWindows.insert mandate (max longest secs) }

/-- The reservation and the velocity history of an authorization. -/
def reserve (inner : Inner) (now : Timestamp) (window : Option Int64) (mandate : MandateId)
    (next : Money) : Inner :=
  let inner := inner.widen mandate window
  { inner with
    reserved := inner.reserved.insert mandate next
    authTimes := inner.authTimes.insert mandate
      ((inner.authTimes.lookup mandate).getD [] ++ [now]) }

/-- `Inner::release`. -/
def release (ops : DecimalOps) (inner : Inner) (mandate : MandateId) (amount : Money) :
    Except StoreError Inner := do
  let next ← releaseFrom ops (inner.reserved.lookup mandate) mandate amount
  return { inner with reserved := inner.reserved.insert mandate next }

def claimNonce (inner : Inner) (key : String × String) (ctx : ContextId) : Inner :=
  { inner with nonces := inner.nonces.insert key ctx }

def putRecord (inner : Inner) (ctx : ContextId) (record : Record) : Inner :=
  { inner with records := inner.records.insert ctx record }

/-- `records.get_mut(ctx)` and the match on the body. -/
def advanceRecord (inner : Inner) (ctx : ContextId) (body : EventBody) : Inner :=
  match inner.records.lookup ctx with
  | none => inner
  | some record => inner.putRecord ctx (record.advance body)

def log (inner : Inner) (event : Event) : Inner :=
  { inner with
    lastSeq := event.seq
    events := inner.events ++ [event]
    byCtx := inner.byCtx.insert event.ctx
      ((inner.byCtx.lookup event.ctx).getD [] ++ [inner.events.length]) }

/-- Phase 2.  A release that fails returns from the middle of it. -/
def commit (ops : DecimalOps) (inner : Inner) (now : Timestamp) (effects : Effects)
    (event : Event) : Except StoreError AppendOutcome × Inner :=
  let inner := match effects.reserve with
    | none => inner
    | some (mandate, next) => inner.reserve now effects.window mandate next
  let released : Except StoreError Inner := match effects.release with
    | none => .ok inner
    | some (mandate, amount) => inner.release ops mandate amount
  match released with
  | .error error => (.error error, inner)
  | .ok inner =>
      let inner := match effects.consumeNonce with
        | none => inner
        | some key => inner.claimNonce key event.ctx
      let inner := match effects.newRecord with
        | none => inner
        | some record => inner.putRecord event.ctx record
      (.ok (.appended event), (inner.advanceRecord event.ctx event.body).log event)

/-- `Store::append`. -/
def append (externals : Externals) (inner : Inner) (ctx : ContextId) (now : Timestamp)
    (body : EventBody) : Except StoreError AppendOutcome × Inner :=
  match inner.validate externals.decimals ctx now body with
  | .error error => (.error error, inner)
  | .ok (.refused outcome) => (.ok outcome, inner)
  | .ok (.granted effects) =>
      match Event.new externals (inner.prevHash ctx) (inner.lastSeq + 1) ctx now body with
      | .error error => (.error (.canonicalize error), inner)
      | .ok event => inner.commit externals.decimals now effects event

/-- The index of a log, as `prune` rebuilds it. -/
def index (events : List Event) : Table ContextId (List Nat) :=
  (events.zipIdx).foldl
    (fun table entry =>
      table.insert entry.1.ctx ((table.lookup entry.1.ctx).getD [] ++ [entry.2])) ∅

def finished (inner : Inner) (ctx : ContextId) : Bool :=
  (inner.records.lookup ctx).all fun record => record.state.isTerminal

/-- Whether `prune` drops the context's chain. -/
def isGone (inner : Inner) (before : Timestamp) (ctx : ContextId) : Bool :=
  inner.finished ctx && (inner.chain ctx).getLast?.any fun event => event.recordedAt < before

def gone (inner : Inner) (before : Timestamp) : Finset ContextId :=
  inner.byCtx.keys.filter fun ctx => inner.isGone before ctx = true

/-- The velocity history that can still count. -/
def pruneTimes (inner : Inner) (before : Timestamp) : Table MandateId (List Timestamp) :=
  let kept := Table.mapRows (fun mandate times =>
    let cutoff := before.saturatingSubSecs ((inner.velocityWindows.lookup mandate).getD 0)
    times.filter fun time => cutoff ≤ time) inner.authTimes
  Table.keepRows (fun _ times => !times.isEmpty) kept

/-- `MemoryStore::prune`. -/
def prune (inner : Inner) (before : Timestamp) : Inner :=
  let inner := { inner with authTimes := inner.pruneTimes before }
  let gone := inner.gone before
  if gone = ∅ then inner
  else
    let events := inner.events.filter fun event => event.ctx ∉ gone
    { inner with events := events, byCtx := index events }

/-- Pruning touches the log, its index and the velocity history. -/
theorem prune_frame (inner : Inner) (before : Timestamp) :
    ∃ events byCtx, inner.prune before =
      { inner with authTimes := inner.pruneTimes before, events := events, byCtx := byCtx } := by
  unfold prune
  dsimp only
  split
  · exact ⟨inner.events, inner.byCtx, rfl⟩
  · exact ⟨_, _, rfl⟩

theorem prune_sublist (inner : Inner) (before : Timestamp) :
    (inner.prune before).events.Sublist inner.events := by
  unfold prune
  dsimp only
  split
  · exact List.Sublist.refl _
  · exact List.filter_sublist

end Inner

end MandateLedger.Memory
