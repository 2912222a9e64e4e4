import MandateLedger.Memory.Lifecycle

namespace MandateLedger.Memory

open MandateLedger.Core MandateLedger.Data

/-- The stores agree on a mandate and on some contexts; sequence numbers and
hashes aside. -/
structure SameFor (mandate : MandateId) (contexts : Set ContextId) (left right : Inner) :
    Prop where
  leftIndexed : left.byCtx = Inner.index left.events
  rightIndexed : right.byCtx = Inner.index right.events
  records : ∀ ctx ∈ contexts, left.records.lookup ctx = right.records.lookup ctx
  bodies : ∀ ctx ∈ contexts, (left.chain ctx).map Event.body = (right.chain ctx).map Event.body
  reserved : left.reserved.lookup mandate = right.reserved.lookup mandate
  authTimes : left.authTimes.lookup mandate = right.authTimes.lookup mandate
  revoked : mandate ∈ left.revoked ↔ mandate ∈ right.revoked

/-- An `Authorized` or `Denied` body, and the mandates the former may be under. -/
def AuthorizeBody (Under : MandateId → Prop) : EventBody → Prop
  | .authorized mandate _ _ => Under mandate.body.id
  | .denied .. => True
  | _ => False

/-- Two results of an append that differ at most in the event that was built. -/
def AlikeAppends (left right : Except StoreError AppendOutcome) : Prop :=
  left = right ∨ ∃ first second, left = .ok (.appended first) ∧ right = .ok (.appended second)

namespace SameFor

variable {mandate : MandateId} {contexts : Set ContextId} {left right : Inner}
  {ctx : ContextId} {body : EventBody}

theorem empty : SameFor mandate contexts .empty .empty where
  leftIndexed := rfl
  rightIndexed := rfl
  records _ _ := rfl
  bodies _ _ := rfl
  reserved := rfl
  authTimes := rfl
  revoked := Iff.rfl

theorem symm (same : SameFor mandate contexts left right) :
    SameFor mandate contexts right left where
  leftIndexed := same.rightIndexed
  rightIndexed := same.leftIndexed
  records ctx member := (same.records ctx member).symm
  bodies ctx member := (same.bodies ctx member).symm
  reserved := same.reserved.symm
  authTimes := same.authTimes.symm
  revoked := same.revoked.symm

theorem authorizedMandate (same : SameFor mandate contexts left right) (member : ctx ∈ contexts) :
    left.authorizedMandate ctx = right.authorizedMandate ctx := by
  have viaBodies : ∀ inner : Inner, inner.authorizedMandate ctx =
      ((inner.chain ctx).map Event.body).findSome? EventBody.mandate? := by
    intro inner
    rw [Inner.authorizedMandate, List.findSome?_map]
    rfl
  rw [viaBodies, viaBodies, same.bodies ctx member]

theorem denials (same : SameFor mandate contexts left right) (member : ctx ∈ contexts) :
    left.denials ctx = right.denials ctx := by
  have viaBodies : ∀ inner : Inner, inner.denials ctx =
      ((inner.chain ctx).map Event.body).countP EventBody.isDenied := by
    intro inner
    rw [Inner.denials, List.countP_map]
    rfl
  rw [viaBodies, viaBodies, same.bodies ctx member]

theorem validate (same : SameFor mandate contexts left right) (ops : DecimalOps)
    (now : Timestamp) (member : ctx ∈ contexts) (own : AuthorizeBody (· = mandate) body) :
    left.validate ops ctx now body = right.validate ops ctx now body := by
  cases body with
  | authorized signed cart requestKey =>
      obtain rfl : signed.body.id = mandate := own
      have counts : left.countSince signed.body.id = right.countSince signed.body.id := by
        funext since
        rw [Inner.countSince, Inner.countSince, same.authTimes]
      simp only [Inner.validate, Inner.validateAuthorized, same.records ctx member, same.revoked,
        counts, same.reserved]
  | denied stage reason detail =>
      simp only [Inner.validate, Inner.validateDenied, same.denials member]
  | _ => exact own.elim

end SameFor

theorem Inner.chain_log {inner tables : Inner} {event : Event} {ctx : ContextId}
    (indexed : inner.byCtx = Inner.index inner.events) (events : tables.events = inner.events)
    (byCtx : tables.byCtx = inner.byCtx) :
    (tables.log event).chain ctx =
      if event.ctx = ctx then inner.chain ctx ++ [event] else inner.chain ctx := by
  have tablesIndexed : tables.byCtx = Inner.index tables.events := by rw [byCtx, events, indexed]
  rw [Inner.chain_eq (Inner.index_log tablesIndexed event), Inner.chain_eq indexed]
  change (tables.events ++ [event]).filter _ = _
  rw [events, List.filter_append]
  by_cases own : event.ctx = ctx <;> simp [own]

theorem Inner.Writes.of_authorized {ops : DecimalOps} {inner tables : Inner} {ctx : ContextId}
    {now : Timestamp} {signed : Mandate} {cart : CartSnapshot} {requestKey : String}
    (writes : inner.Writes ops ctx now (.authorized signed cart requestKey) tables) :
    ∃ next, checkBudget ops signed.body.scope cart.claims.total
          (inner.reserved.lookup signed.body.id) = .ok (.granted next) ∧
      tables.reserved = inner.reserved.insert signed.body.id next ∧
      tables.authTimes = inner.authTimes.insert signed.body.id
        ((inner.authTimes.lookup signed.body.id).getD [] ++ [now]) ∧
      tables.records = inner.records.insert ctx (Record.opened ctx signed cart) := by
  cases writes with
  | authorized absent active paced granted =>
      refine ⟨_, granted, ?_⟩
      simp only [Inner.putRecord, Inner.reserve, Inner.widen]
      split <;> exact ⟨rfl, rfl, rfl⟩
  | moved moves plain => cases moves; simp at plain
  | released moves giving => cases moves; simp at giving

theorem Inner.Writes.of_denied {ops : DecimalOps} {inner tables : Inner} {ctx : ContextId}
    {now : Timestamp} {stage : Stage} {reason : DenyReason} {detail : String}
    (writes : inner.Writes ops ctx now (.denied stage reason detail) tables) :
    tables = inner := by
  cases writes with
  | denied => rfl
  | moved moves => cases moves
  | released moves => cases moves

namespace SameFor

variable {mandate : MandateId} {contexts : Set ContextId} {left right : Inner}
  {externals : Externals} {ops : DecimalOps} {now : Timestamp} {event : Event}

theorem logged (same : SameFor mandate contexts left right) {leftTables rightTables : Inner}
    {other : Event} (ctxs : event.ctx = other.ctx) (sameBody : event.body = other.body)
    (own : AuthorizeBody (· = mandate) event.body)
    (leftWrites : left.Writes ops event.ctx now event.body leftTables)
    (rightWrites : right.Writes ops event.ctx now event.body rightTables) :
    SameFor mandate contexts (leftTables.log event) (rightTables.log other) := by
  obtain ⟨leftEvents, leftByCtx, -, leftRevoked⟩ := leftWrites.frame
  obtain ⟨rightEvents, rightByCtx, -, rightRevoked⟩ := rightWrites.frame
  have tables : (∀ ctx ∈ contexts, leftTables.records.lookup ctx = rightTables.records.lookup ctx) ∧
      leftTables.reserved.lookup mandate = rightTables.reserved.lookup mandate ∧
      leftTables.authTimes.lookup mandate = rightTables.authTimes.lookup mandate := by
    cases body : event.body with
    | authorized signed cart requestKey =>
        rw [body] at own leftWrites rightWrites
        obtain rfl : signed.body.id = mandate := own
        obtain ⟨next, granted, reserved, times, records⟩ := leftWrites.of_authorized
        obtain ⟨next', granted', reserved', times', records'⟩ := rightWrites.of_authorized
        rw [← same.reserved, granted] at granted'
        cases granted'
        refine ⟨?_, ?_, ?_⟩
        · intro ctx member
          rw [records, records', Table.lookup_insert_eq, Table.lookup_insert_eq,
            same.records ctx member]
        · rw [reserved, reserved', Finmap.lookup_insert, Finmap.lookup_insert]
        · rw [times, times', Finmap.lookup_insert, Finmap.lookup_insert, same.authTimes]
    | denied stage reason detail =>
        rw [body] at leftWrites rightWrites
        rw [leftWrites.of_denied, rightWrites.of_denied]
        exact ⟨same.records, same.reserved, same.authTimes⟩
    | _ =>
        rw [body] at own
        exact own.elim
  obtain ⟨records, reserved, authTimes⟩ := tables
  constructor
  · exact Inner.index_log (by rw [leftByCtx, leftEvents, same.leftIndexed]) event
  · exact Inner.index_log (by rw [rightByCtx, rightEvents, same.rightIndexed]) other
  · exact records
  · intro ctx member
    rw [Inner.chain_log same.leftIndexed leftEvents leftByCtx,
      Inner.chain_log same.rightIndexed rightEvents rightByCtx, ctxs]
    split
    · simp [same.bodies ctx member, sameBody]
    · exact same.bodies ctx member
  · exact reserved
  · exact authTimes
  · change mandate ∈ leftTables.revoked ↔ mandate ∈ rightTables.revoked
    rw [leftRevoked, rightRevoked, same.revoked]

/-- An append elsewhere, in one of the stores. -/
theorem logged_elsewhere (same : SameFor mandate contexts left right) {tables : Inner}
    (apart : event.ctx ∉ contexts) (foreign : AuthorizeBody (· ≠ mandate) event.body)
    (writes : left.Writes ops event.ctx now event.body tables) :
    SameFor mandate contexts (tables.log event) right := by
  obtain ⟨events, byCtx, -, revoked⟩ := writes.frame
  have kept : (∀ ctx ∈ contexts, tables.records.lookup ctx = left.records.lookup ctx) ∧
      tables.reserved.lookup mandate = left.reserved.lookup mandate ∧
      tables.authTimes.lookup mandate = left.authTimes.lookup mandate := by
    refine ⟨?_, ?_⟩
    · intro ctx member
      exact writes.other_record fun own => apart (own ▸ member)
    cases body : event.body with
    | authorized signed cart requestKey =>
        rw [body] at foreign writes
        have other : mandate ≠ signed.body.id := Ne.symm foreign
        obtain ⟨next, -, reserved, times, -⟩ := writes.of_authorized
        rw [reserved, times, Finmap.lookup_insert_of_ne _ other,
          Finmap.lookup_insert_of_ne _ other]
        exact ⟨rfl, rfl⟩
    | denied stage reason detail =>
        rw [body] at writes
        rw [writes.of_denied]
        exact ⟨rfl, rfl⟩
    | _ =>
        rw [body] at foreign
        exact foreign.elim
  obtain ⟨records, reserved, authTimes⟩ := kept
  constructor
  · exact Inner.index_log (by rw [byCtx, events, same.leftIndexed]) event
  · exact same.rightIndexed
  · intro ctx member
    exact (records ctx member).trans (same.records ctx member)
  · intro ctx member
    have other : ¬ event.ctx = ctx := fun own => apart (own ▸ member)
    rw [Inner.chain_log same.leftIndexed events byCtx, if_neg other]
    exact same.bodies ctx member
  · exact reserved.trans same.reserved
  · exact authTimes.trans same.authTimes
  · change mandate ∈ tables.revoked ↔ _
    rw [revoked, same.revoked]

theorem commits {inner : Inner} {ctx : ContextId} {body : EventBody} {effects : Inner.Effects}
    {Under : MandateId → Prop} (known : AuthorizeBody Under body)
    (valid : inner.validate ops ctx now body = .ok (.granted effects)) (own : event.ctx = ctx)
    (content : event.body = body) :
    ∃ tables, inner.Writes ops ctx now body tables ∧
      inner.commit ops now effects event = (.ok (.appended event), tables.log event) := by
  cases body with
  | authorized signed cart requestKey => exact Inner.validateAuthorized_commits valid own content
  | denied stage reason detail => exact Inner.validateDenied_commits valid own content
  | _ => exact known.elim

/-- An append under the mandate gets the same answer from both stores. -/
theorem append (same : SameFor mandate contexts left right)
    (canonical : ∀ preimage, ∃ bytes, externals.canonicalPreimage preimage = .ok bytes)
    {ctx : ContextId} (member : ctx ∈ contexts) {body : EventBody}
    (own : AuthorizeBody (· = mandate) body) :
    AlikeAppends (left.append externals ctx now body).1 (right.append externals ctx now body).1 ∧
      SameFor mandate contexts (left.append externals ctx now body).2
        (right.append externals ctx now body).2 := by
  have built : ∀ inner : Inner, ∃ event,
      Event.new externals (inner.prevHash ctx) (inner.lastSeq + 1) ctx now body = .ok event := by
    intro inner
    obtain ⟨bytes, written⟩ := canonical ⟨inner.lastSeq + 1, ctx, now, body⟩
    exact ⟨_, by rw [Event.new, Event.computeHash, written]; rfl⟩
  obtain ⟨first, leftBuilt⟩ := built left
  obtain ⟨second, rightBuilt⟩ := built right
  have valid := same.validate externals.decimals now member own
  unfold Inner.append
  rw [valid, leftBuilt, rightBuilt]
  cases decided : right.validate externals.decimals ctx now body with
  | error error => exact ⟨.inl rfl, same⟩
  | ok verdict =>
      cases verdict with
      | refused outcome => exact ⟨.inl rfl, same⟩
      | granted effects =>
          obtain ⟨-, rfl, -, -, rfl, -⟩ := Event.new_eq_ok leftBuilt
          obtain ⟨-, ctxs, -, -, bodies, -⟩ := Event.new_eq_ok rightBuilt
          obtain ⟨leftTables, leftWrites, leftEnds⟩ :=
            commits own (valid.trans decided) rfl rfl
          obtain ⟨rightTables, rightWrites, rightEnds⟩ := commits own decided ctxs bodies
          dsimp only
          rw [leftEnds, rightEnds]
          exact ⟨.inr ⟨first, second, rfl, rfl⟩,
            same.logged ctxs.symm bodies.symm own leftWrites rightWrites⟩

/-- An append under another mandate to another context does not show. -/
theorem append_elsewhere (same : SameFor mandate contexts left right) {ctx : ContextId}
    (apart : ctx ∉ contexts) {body : EventBody} (foreign : AuthorizeBody (· ≠ mandate) body) :
    SameFor mandate contexts (left.append externals ctx now body).2 right := by
  obtain ⟨result, ended, -⟩ | ⟨event, tables, writes, built, ended⟩ :=
    left.append_cases externals ctx now body
  · rw [ended]
    exact same
  · obtain ⟨-, rfl, -, -, rfl, -⟩ := Event.new_eq_ok built
    rw [ended]
    exact same.logged_elsewhere apart foreign writes

end SameFor

end MandateLedger.Memory
