import MandateLedger.Postgres.Database

namespace MandateLedger.Postgres

open MandateLedger.Core MandateLedger.Data MandateLedger.Process

/-- The inside of a transaction.  It stops early with what the store returns. -/
abbrev Tx (ρ α : Type) := Fallible Statement Statement.Answer (Except StoreError ρ) α

namespace Tx

variable {ρ α : Type}

/-- A statement and `map_err(pg)?`. -/
def query (statement : Statement) : Tx ρ statement.Result :=
  Fallible.attempt statement id .error

/-- `return Ok(…)`. -/
def exit (result : ρ) : Tx ρ α := throw (.ok result)

/-- The `?` operator. -/
def require (result : Except StoreError α) : Tx ρ α :=
  ExceptT.mk (.done (result.mapError .error))

/-- A transaction that did not commit is rolled back when it is dropped. -/
def transaction (tx : Tx ρ ρ) : Program Statement Statement.Answer (Except StoreError ρ) := do
  match ← tx.run with
  | .ok result => return .ok result
  | .error result =>
      let _ ← Program.request .rollback
      return result

end Tx

section Locks

variable (hashtext : String → Int)

/-- `LOCK_CONTEXT`. -/
def contextKey (ctx : ContextId) : LockKey := (1, hashtext ctx.val)

/-- `LOCK_MANDATE`. -/
def mandateKey (mandate : MandateId) : LockKey := (2, hashtext mandate.val)

/-- `LOCK_LOG`. -/
def logKey : LockKey := (3, 0)

end Locks

structure Effects where
  reserve : Option (MandateId × Money)
  release : Option (MandateId × Money)
  create : Option Record

def Effects.default : Effects := ⟨none, none, none⟩

section Decide

variable (ops : DecimalOps) (ctx : ContextId) (now : Timestamp) (existing : Option Record)

/-- An authorization also contends on the mandate. -/
def lockMandate (hashtext : String → Int) : EventBody → Tx AppendOutcome Unit
  | .authorized mandate .. => Tx.query (.lock (mandateKey hashtext mandate.body.id))
  | _ => pure ()

def decideVelocity (mandate : MandateId) (scope : Scope) : Tx AppendOutcome Unit :=
  match scope.velocity with
  | none => pure ()
  | some velocity => do
      let rows : Nat ← Tx.query
        (.countAuthorizations mandate (now.saturatingSubSecs velocity.windowSecs))
      let count := saturatedCount rows
      if velocity.maxCount ≤ count then Tx.exit (.velocityExceeded count) else pure ()

def decideAuthorized (mandate : Mandate) (cart : CartSnapshot) : Tx AppendOutcome Effects := do
  Tx.require (checkTransition existing ctx .authorized)
  let revoked : Bool ← Tx.query (.selectRevocation mandate.body.id)
  if revoked = true then Tx.exit .mandateRevoked else pure ()
  decideVelocity now mandate.body.id mandate.body.scope
  let reserved : Option Money ← Tx.query (.selectReservation mandate.body.id)
  match ← Tx.require (checkBudget ops mandate.body.scope cart.claims.total reserved) with
  | .refused outcome => Tx.exit outcome
  | .granted next =>
      return ⟨some (mandate.body.id, next), none, some (Record.opened ctx mandate cart)⟩

def decidePaid (rail nonce : String) : Tx AppendOutcome Effects := do
  Tx.require (checkTransition existing ctx .paid)
  match ← Tx.query (.claimNonce (rail, nonce) ctx) with
  | some _ => return .default
  | none =>
      match ← Tx.query (.selectNonce (rail, nonce)) with
      | none => Tx.require (.error (.backend "query returned an unexpected number of rows"))
      | some owner => if owner = ctx then return .default else Tx.exit .nonceAlreadyUsed

def decideMove (target : PaymentState) : Tx AppendOutcome Effects := do
  Tx.require (checkTransition existing ctx target)
  return .default

def decideRelease (target : PaymentState) : Tx AppendOutcome Effects := do
  Tx.require (checkTransition existing ctx target)
  match existing with
  | none => Tx.require (.error (.corrupt "no record"))
  | some record => return ⟨none, some (record.mandateId, record.amount), none⟩

def decideDenied : Tx AppendOutcome Effects := do
  let denials : Nat ← Tx.query (.countDenials ctx)
  if denialCap ≤ denials then Tx.exit .denialsCapped else return .default

/-- Phase 1 of `append`. -/
def decideEffects : EventBody → Tx AppendOutcome Effects
  | .authorized mandate cart _ => decideAuthorized ops ctx now existing mandate cart
  | .paid rail _ nonce _ _ => decidePaid ctx existing rail nonce
  | .settled .. => decideMove ctx existing .settled
  | .settlementFailed .. => decideRelease ctx existing .settlementFailed
  | .compensated .. => decideMove ctx existing .compensated
  | .delivered .. => decideMove ctx existing .delivered
  | .expired => decideRelease ctx existing .expired
  | .denied .. => decideDenied ctx

end Decide

section Writes

variable (ops : DecimalOps) (ctx : ContextId) (now : Timestamp)

def writeReserve : Option (MandateId × Money) → Tx AppendOutcome Unit
  | none => pure ()
  | some (mandate, next) => do
      Tx.query (.write (.reserve mandate next))
      Tx.query (.write (.authorize ⟨mandate, ctx, now⟩))

def writeRelease : Option (MandateId × Money) → Tx AppendOutcome Unit
  | none => pure ()
  | some (mandate, amount) => do
      let reserved : Option Money ← Tx.query (.selectReservation mandate)
      let next ← Tx.require (releaseFrom ops reserved mandate amount)
      Tx.query (.write (.setAmount mandate next.amount))

def writeCreate : Option Record → Tx AppendOutcome Unit
  | none => pure ()
  | some record => Tx.query (.write (.create record))

def writeAdvance : EventBody → Tx AppendOutcome Unit
  | .authorized .. | .denied .. => pure ()
  | body => Tx.query (.write (.advance ctx body))

/-- Phase 2 of `append`. -/
def writeEffects (effects : Effects) (event : Event) : Tx AppendOutcome AppendOutcome := do
  writeReserve ctx now effects.reserve
  writeRelease ops effects.release
  writeCreate effects.create
  writeAdvance ctx event.body
  Tx.query (.write (.log event))
  Tx.query .commit
  return .appended event

end Writes

section Store

variable (hashtext : String → Int) (externals : Externals)

def appendTx (ctx : ContextId) (now : Timestamp) (body : EventBody) :
    Tx AppendOutcome AppendOutcome := do
  Tx.query (.lock (contextKey hashtext ctx))
  lockMandate hashtext body
  let existing : Option Record ← Tx.query (.selectContext ctx)
  let effects ← decideEffects externals.decimals ctx now existing body
  Tx.query (.lock logKey)
  let seq : Nat ← Tx.query .nextval
  let last : Option Hash32 ← Tx.query (.selectLastHash ctx)
  let event ← Tx.require
    ((Event.new externals (last.getD .zero) seq ctx now body).mapError .canonicalize)
  writeEffects externals.decimals ctx now effects event

def revokeTx (mandate : MandateId) : Tx Unit Unit := do
  Tx.query (.lock (mandateKey hashtext mandate))
  Tx.query (.write (.revoke mandate))
  Tx.query .commit

inductive Reply where
  | append (result : Except StoreError AppendOutcome)
  | revoke (result : Except StoreError Unit)
deriving DecidableEq

def append (ctx : ContextId) (now : Timestamp) (body : EventBody) :
    Program Statement Statement.Answer Reply :=
  Reply.append <$> (appendTx hashtext externals ctx now body).transaction

def revoke (mandate : MandateId) : Program Statement Statement.Answer Reply :=
  Reply.revoke <$> (revokeTx hashtext mandate).transaction

/-- The calls clients make: revocations, and appends of certain bodies. -/
inductive Requests (Body : EventBody → Prop) : Program Statement Statement.Answer Reply → Prop where
  | append (ctx : ContextId) (now : Timestamp) (body : EventBody) (allowed : Body body) :
      Requests Body (append hashtext externals ctx now body)
  | revoke (mandate : MandateId) : Requests Body (revoke hashtext mandate)

end Store

namespace Sample

open Core.Sample

/-- Digests that differ from event to event, as the log requires. -/
def externals : Externals :=
  { Core.Sample.externals with
    sha256 := fun bytes => ⟨(bytes.reverse ++ List.replicate 32 0).take 32, by simp⟩
    canonicalPreimage := fun preimage => .ok (utf8 (toString preimage.seq)) }

/-- `hashtext` without collisions. -/
def hashtext (text : String) : Int :=
  if text = firstCtx.val then 1 else if text = secondCtx.val then 2 else 3

def smallCart : CartSnapshot where
  hash := ⟨[11, 186, 198, 47, 253, 164, 211, 78, 131, 29, 12, 125, 229, 105, 93, 151, 110, 37,
    196, 2, 191, 131, 75, 245, 99, 127, 188, 114, 212, 53, 105, 180], rfl⟩
  claims := ⟨merchant, cents 3000, none, none⟩
  attestation := .agentReported
  raw := utf8 "\x7b\"cart\":2\x7d"

/-- There are four clients, named by numerals. -/
scoped instance four_ne_zero : NeZero 4 := ⟨by decide⟩

def run (libraries : Externals) (Allowed : Db (Fin 4) → Fin 4 → Prop)
    [∀ db t, Decidable (Allowed db t)] (requests : List (Fin 4 × ContextId × EventBody))
    (turns : List (Fin 4)) : Config (Fin 4) (Db (Fin 4)) Statement Statement.Answer Reply :=
  Config.schedule (Db.perform Allowed)
    (.started .initial (requests.map fun request =>
      (request.1, append hashtext libraries request.2.1 ⟨10⟩ request.2.2))) turns

theorem run_reachable (libraries : Externals) (Allowed : Db (Fin 4) → Fin 4 → Prop)
    [∀ db t, Decidable (Allowed db t)] {requests : List (Fin 4 × ContextId × EventBody)}
    {Body : EventBody → Prop} (distinct : (requests.map Prod.fst).Nodup)
    (allowed : ∀ request ∈ requests, Body request.2.2) (turns : List (Fin 4)) :
    Reachable (semantics (Fin 4) Allowed) (Requests hashtext libraries Body) .initial
      (run libraries Allowed requests turns) := by
  refine Reachable.schedule (Db.perform_exec Allowed) (Reachable.started _ ?_ ?_) turns
  · rw [List.map_map]
    exact distinct
  · intro entry listed
    obtain ⟨request, present, rfl⟩ := List.mem_map.mp listed
    exact .append _ _ _ (allowed request present)

end Sample

end MandateLedger.Postgres
