import MandateLedger.Memory.Isolation
import MandateLedger.Memory.Velocity

namespace MandateLedger.Memory

open MandateLedger.Core MandateLedger.Data

/-- An operation that presents each mandate id with its one scope. -/
def Scoped (scopes : MandateId → Scope) : Traced.Operation → Prop
  | .append _ _ (.authorized mandate _ _) => mandate.body.scope = scopes mandate.body.id
  | _ => True

/-- What may follow a prune: appends that are not older than it, with refusals only
of contexts it kept, and revocations. -/
def Proceeds (before : Timestamp) (gone : Finset ContextId) : Traced.Operation → Prop
  | .append ctx now body => before ≤ now ∧ (body.isDenied = true → ctx ∉ gone)
  | .revoke _ => True
  | .prune _ => False

/-- The same answer.  Events of a context that lost its chain may hang from another
hash. -/
inductive SameOutcome (gone : Finset ContextId) :
    Except StoreError AppendOutcome → Except StoreError AppendOutcome → Prop where
  | same (result : Except StoreError AppendOutcome) : SameOutcome gone result result
  | appended {event other : Event} (seq : other.seq = event.seq) (ctx : other.ctx = event.ctx)
      (recordedAt : other.recordedAt = event.recordedAt) (body : other.body = event.body)
      (kept : event.ctx ∉ gone → other = event) :
      SameOutcome gone (.ok (.appended event)) (.ok (.appended other))

def Traced.outcomes (externals : Externals) (traced : Traced) :
    List Traced.Operation → List (Except StoreError AppendOutcome)
  | [] => []
  | .append ctx now body :: rest =>
      (traced.append externals ctx now body).1 ::
        outcomes externals (traced.append externals ctx now body).2 rest
  | operation :: rest => outcomes externals (traced.perform externals operation) rest

theorem saturatingSubSecs_mono {earlier later : Timestamp} (secs : Int64)
    (ordered : earlier ≤ later) :
    earlier.saturatingSubSecs secs ≤ later.saturatingSubSecs secs := by
  have ordered : earlier.secs.toInt ≤ later.secs.toInt := Int64.le_iff_toInt_le.mp ordered
  change saturatingSub earlier.secs secs ≤ saturatingSub later.secs secs
  rw [Int64.le_iff_toInt_le, toInt_saturatingSub, toInt_saturatingSub]
  omega

/-- Of every mandate that was authorized under, the store knows a window at least as
long as its scope's. -/
def Widened (scopes : MandateId → Scope) (inner : Inner) : Prop :=
  ∀ mandate velocity, (scopes mandate).velocity = some velocity → inner.times mandate ≠ [] →
    velocity.windowSecs ≤ (inner.velocityWindows.lookup mandate).getD 0

section Widened

variable {externals : Externals} {scopes : MandateId → Scope} {traced : Traced}

theorem Widened.logged {inner tables : Inner} {ops : DecimalOps} {ctx : ContextId}
    {now : Timestamp} {body : EventBody} {event : Event} (widened : Widened scopes inner)
    (single : Scoped scopes (.append ctx now body))
    (writes : inner.Writes ops ctx now body tables) : Widened scopes (tables.log event) := by
  intro mandate velocity limited held
  change tables.times mandate ≠ [] at held
  change _ ≤ (tables.velocityWindows.lookup mandate).getD 0
  obtain ⟨-, times, windows⟩ | ⟨presented, cart, key, next, rfl, rfl, -, rfl⟩ :=
    writes.velocity mandate
  · rw [windows]
    rw [times] at held
    exact widened mandate velocity limited held
  · have scope : presented.body.scope = scopes presented.body.id := single
    have window : presented.body.scope.velocity.map Velocity.windowSecs =
        some velocity.windowSecs := by rw [scope, limited]; rfl
    change _ ≤ ((inner.reserve now _ _ next).velocityWindows.lookup presented.body.id).getD 0
    rw [Inner.velocityWindows_reserve, if_pos rfl, window]
    simp only [Option.getD_some, Int64.le_iff_toInt_le, toInt_max]
    omega

theorem Widened.perform {operation : Traced.Operation} (widened : Widened scopes traced.inner)
    (single : Scoped scopes operation) :
    Widened scopes (traced.perform externals operation).inner := by
  cases operation with
  | append ctx now body =>
      obtain ⟨result, appended, -⟩ | ⟨event, tables, writes, -, appended⟩ :=
        traced.append_cases externals ctx now body
      · rw [Traced.perform, appended]
        exact widened
      · rw [Traced.perform, appended]
        exact widened.logged single writes
  | revoke mandate => exact widened
  | prune before =>
      intro mandate velocity limited held
      change (traced.inner.prune before).times mandate ≠ [] at held
      change _ ≤ ((traced.inner.prune before).velocityWindows.lookup mandate).getD 0
      rw [Inner.velocityWindows_prune]
      refine widened mandate velocity limited ?_
      intro none
      rw [Inner.times_prune, none] at held
      exact held rfl

theorem Widened.performs {operations : List Traced.Operation}
    (widened : Widened scopes traced.inner)
    (single : ∀ operation ∈ operations, Scoped scopes operation) :
    Widened scopes (traced.performs externals operations).inner := by
  induction operations generalizing traced with
  | nil => exact widened
  | cons operation rest ih =>
      have next : Widened scopes (traced.perform externals operation).inner :=
        widened.perform (single operation (by simp))
      exact ih next fun later listed => single later (by simp [listed])

end Widened

namespace Inner

def taking (inner : Inner) (now : Timestamp) (effects : Effects) : Inner :=
  match effects.reserve with
  | none => inner
  | some (mandate, next) => inner.reserve now effects.window mandate next

def giving (ops : DecimalOps) (inner : Inner) (effects : Effects) : Except StoreError Inner :=
  match effects.release with
  | none => .ok inner
  | some (mandate, amount) => inner.release ops mandate amount

def noting (inner : Inner) (effects : Effects) (ctx : ContextId) : Inner :=
  let inner := match effects.consumeNonce with
    | none => inner
    | some key => inner.claimNonce key ctx
  match effects.newRecord with
  | none => inner
  | some record => inner.putRecord ctx record

theorem commit_eq (ops : DecimalOps) (inner : Inner) (now : Timestamp) (effects : Effects)
    (event : Event) : inner.commit ops now effects event =
      match (inner.taking now effects).giving ops effects with
      | .error error => (.error error, inner.taking now effects)
      | .ok given => (.ok (.appended event),
          ((given.noting effects event.ctx).advanceRecord event.ctx event.body).log event) := rfl

end Inner

/-- A store and what is left of it after a prune, some operations later: they agree
on every table but the velocity history, of which they count the same from the prune
on, and on the chains that were kept. -/
structure Alike (scopes : MandateId → Scope) (before : Timestamp) (gone : Finset ContextId)
    (full pruned : Inner) : Prop where
  fullIndexed : full.byCtx = Inner.index full.events
  prunedIndexed : pruned.byCtx = Inner.index pruned.events
  records : pruned.records = full.records
  reserved : pruned.reserved = full.reserved
  nonces : pruned.nonces = full.nonces
  revoked : pruned.revoked = full.revoked
  lastSeq : pruned.lastSeq = full.lastSeq
  chain : ∀ ctx, ctx ∉ gone → pruned.chain ctx = full.chain ctx
  counts : ∀ mandate velocity, (scopes mandate).velocity = some velocity →
    ∀ since, before.saturatingSubSecs velocity.windowSecs ≤ since →
      pruned.countSince mandate since = full.countSince mandate since

namespace Alike

variable {externals : Externals} {scopes : MandateId → Scope} {before : Timestamp}
  {gone : Finset ContextId} {full pruned : Inner} {ops : DecimalOps} {ctx : ContextId}
  {now : Timestamp} {body : EventBody}

theorem validate (alike : Alike scopes before gone full pruned)
    (single : Scoped scopes (.append ctx now body))
    (proceeds : Proceeds before gone (.append ctx now body)) :
    pruned.validate ops ctx now body = full.validate ops ctx now body := by
  obtain ⟨recent, kept⟩ := proceeds
  cases body with
  | authorized mandate cart requestKey =>
      have scope : mandate.body.scope = scopes mandate.body.id := single
      have velocity : checkVelocity mandate.body.scope now (pruned.countSince mandate.body.id) =
          checkVelocity mandate.body.scope now (full.countSince mandate.body.id) := by
        unfold checkVelocity
        cases limited : mandate.body.scope.velocity with
        | none => rfl
        | some velocity =>
            rw [scope] at limited
            simp only [alike.counts mandate.body.id velocity limited _
              (saturatingSubSecs_mono velocity.windowSecs recent)]
      simp only [Inner.validate, Inner.validateAuthorized, alike.records, alike.revoked,
        alike.reserved, velocity]
  | paid rail reference nonce amount key =>
      simp only [Inner.validate, Inner.validatePaid, alike.records, alike.nonces]
  | denied stage reason detail =>
      have survives := kept rfl
      have counted : pruned.denials ctx = full.denials ctx := by
        rw [Inner.denials, Inner.denials, alike.chain ctx survives]
      simp only [Inner.validate, Inner.validateDenied, counted]
  | _ =>
      simp only [Inner.validate, Inner.validateMove, Inner.validateRelease, alike.records]

theorem reserve (alike : Alike scopes before gone full pruned) (now : Timestamp)
    (window : Option Int64) (mandate : MandateId) (next : Money) :
    Alike scopes before gone (full.reserve now window mandate next)
      (pruned.reserve now window mandate next) := by
  have reserved := congrArg (·.insert mandate next) alike.reserved
  have counts : ∀ other velocity, (scopes other).velocity = some velocity →
      ∀ since, before.saturatingSubSecs velocity.windowSecs ≤ since →
        (pruned.reserve now window mandate next).countSince other since =
          (full.reserve now window mandate next).countSince other since := by
    intro other velocity limited since recent
    have same := alike.counts other velocity limited since recent
    rw [Inner.countSince_eq, Inner.countSince_eq] at same
    rw [Inner.countSince_eq, Inner.countSince_eq, Inner.times_reserve, Inner.times_reserve]
    split
    · next own =>
        subst own
        rw [List.countP_append, List.countP_append, same]
    · exact same
  cases window <;> exact { alike with reserved := reserved, counts := counts }

theorem release (alike : Alike scopes before gone full pruned) (ops : DecimalOps)
    (mandate : MandateId) (amount : Money) :
    (∃ error, full.release ops mandate amount = .error error ∧
      pruned.release ops mandate amount = .error error) ∨
    ∃ after left, full.release ops mandate amount = .ok after ∧
      pruned.release ops mandate amount = .ok left ∧ Alike scopes before gone after left := by
  unfold Inner.release
  rw [alike.reserved]
  cases releaseFrom ops (full.reserved.lookup mandate) mandate amount with
  | error error => exact .inl ⟨error, rfl, rfl⟩
  | ok next => exact .inr ⟨_, _, rfl, rfl, { alike with reserved := rfl }⟩

theorem putRecord (alike : Alike scopes before gone full pruned) (ctx : ContextId)
    (record : Record) :
    Alike scopes before gone (full.putRecord ctx record) (pruned.putRecord ctx record) :=
  { alike with records := congrArg (·.insert ctx record) alike.records }

theorem claimNonce (alike : Alike scopes before gone full pruned) (key : String × String)
    (ctx : ContextId) :
    Alike scopes before gone (full.claimNonce key ctx) (pruned.claimNonce key ctx) :=
  { alike with nonces := congrArg (·.insert key ctx) alike.nonces }

theorem advanceRecord (alike : Alike scopes before gone full pruned) (ctx : ContextId)
    (body : EventBody) :
    Alike scopes before gone (full.advanceRecord ctx body) (pruned.advanceRecord ctx body) := by
  unfold Inner.advanceRecord
  rw [alike.records]
  cases full.records.lookup ctx with
  | none => exact alike
  | some record => exact alike.putRecord ctx _

theorem log (alike : Alike scopes before gone full pruned) {event other : Event}
    (seq : other.seq = event.seq) (own : other.ctx = event.ctx)
    (kept : event.ctx ∉ gone → other = event) :
    Alike scopes before gone (full.log event) (pruned.log other) := by
  refine { alike with fullIndexed := ?_, prunedIndexed := ?_, lastSeq := seq, chain := ?_ }
  · exact Inner.index_log alike.fullIndexed event
  · exact Inner.index_log alike.prunedIndexed other
  · intro ctx survives
    rw [Inner.chain_log alike.fullIndexed rfl rfl, Inner.chain_log alike.prunedIndexed rfl rfl, own]
    split
    · next same => rw [alike.chain ctx survives, kept (same ▸ survives)]
    · exact alike.chain ctx survives

theorem taking (alike : Alike scopes before gone full pruned) (effects : Inner.Effects) :
    Alike scopes before gone (full.taking now effects) (pruned.taking now effects) := by
  unfold Inner.taking
  cases effects.reserve with
  | none => exact alike
  | some taken => exact alike.reserve now effects.window taken.1 taken.2

theorem giving (alike : Alike scopes before gone full pruned) (ops : DecimalOps)
    (effects : Inner.Effects) :
    (∃ error, full.giving ops effects = .error error ∧ pruned.giving ops effects = .error error) ∨
    ∃ after left, full.giving ops effects = .ok after ∧ pruned.giving ops effects = .ok left ∧
      Alike scopes before gone after left := by
  unfold Inner.giving
  cases effects.release with
  | none => exact .inr ⟨full, pruned, rfl, rfl, alike⟩
  | some given => exact alike.release ops given.1 given.2

theorem noting (alike : Alike scopes before gone full pruned) (effects : Inner.Effects)
    (ctx : ContextId) :
    Alike scopes before gone (full.noting effects ctx) (pruned.noting effects ctx) := by
  unfold Inner.noting
  cases effects.newRecord with
  | none =>
      cases effects.consumeNonce with
      | none => exact alike
      | some key => exact alike.claimNonce key ctx
  | some record =>
      cases effects.consumeNonce with
      | none => exact alike.putRecord ctx record
      | some key => exact (alike.claimNonce key ctx).putRecord ctx record

theorem commit (alike : Alike scopes before gone full pruned) (effects : Inner.Effects)
    {event other : Event} (seq : other.seq = event.seq) (own : other.ctx = event.ctx)
    (recordedAt : other.recordedAt = event.recordedAt) (content : other.body = event.body)
    (kept : event.ctx ∉ gone → other = event) :
    SameOutcome gone (full.commit ops now effects event).1 (pruned.commit ops now effects other).1 ∧
      Alike scopes before gone (full.commit ops now effects event).2
        (pruned.commit ops now effects other).2 := by
  have taken : Alike scopes before gone (full.taking now effects) (pruned.taking now effects) :=
    alike.taking effects
  rw [Inner.commit_eq, Inner.commit_eq]
  obtain ⟨error, first, second⟩ | ⟨after, left, first, second, given⟩ :=
    taken.giving ops effects
  · rw [first, second]
    exact ⟨.same _, taken⟩
  · rw [first, second]
    refine ⟨.appended seq own recordedAt content kept, ?_⟩
    dsimp only
    rw [own, content]
    exact ((given.noting effects event.ctx).advanceRecord event.ctx event.body).log seq own kept

theorem append (alike : Alike scopes before gone full pruned)
    (single : Scoped scopes (.append ctx now body))
    (proceeds : Proceeds before gone (.append ctx now body)) :
    SameOutcome gone (full.append externals ctx now body).1
        (pruned.append externals ctx now body).1 ∧
      Alike scopes before gone (full.append externals ctx now body).2
        (pruned.append externals ctx now body).2 := by
  have valid : pruned.validate externals.decimals ctx now body =
      full.validate externals.decimals ctx now body := alike.validate single proceeds
  unfold Inner.append
  rw [valid, alike.lastSeq]
  cases full.validate externals.decimals ctx now body with
  | error error => exact ⟨.same _, alike⟩
  | ok verdict =>
      cases verdict with
      | refused outcome => exact ⟨.same _, alike⟩
      | granted effects =>
          -- the encoding does not see the previous hash
          cases encoded : externals.canonicalPreimage ⟨full.lastSeq + 1, ctx, now, body⟩ with
          | error error =>
              have fails : ∀ prevHash, Event.new externals prevHash (full.lastSeq + 1) ctx now body =
                  .error error := by
                intro prevHash
                rw [Event.new, Event.computeHash, encoded]
                rfl
              rw [fails, fails]
              exact ⟨.same _, alike⟩
          | ok bytes =>
              have builds : ∀ prevHash, Event.new externals prevHash (full.lastSeq + 1) ctx now body =
                  .ok ⟨full.lastSeq + 1, ctx, now, prevHash,
                    externals.sha256 (prevHash.bytes ++ bytes), body⟩ := by
                intro prevHash
                rw [Event.new, Event.computeHash, encoded]
                rfl
              rw [builds, builds]
              refine alike.commit effects rfl rfl rfl rfl ?_
              intro survives
              have same : pruned.prevHash ctx = full.prevHash ctx := by
                rw [Inner.prevHash, Inner.prevHash, alike.chain ctx survives]
              rw [same]

theorem revoke (alike : Alike scopes before gone full pruned) (mandate : MandateId) :
    Alike scopes before gone (full.revoke mandate) (pruned.revoke mandate) :=
  { alike with revoked := congrArg (insert mandate ·) alike.revoked }

theorem of_prune {inner : Inner} (indexed : inner.byCtx = Inner.index inner.events)
    (widened : Widened scopes inner) (before : Timestamp) :
    Alike scopes before (inner.gone before) inner (inner.prune before) := by
  have counts : ∀ mandate velocity, (scopes mandate).velocity = some velocity →
      ∀ since, before.saturatingSubSecs velocity.windowSecs ≤ since →
        (inner.prune before).countSince mandate since = inner.countSince mandate since := by
    intro mandate velocity limited since recent
    rw [Inner.countSince_eq, Inner.countSince_eq, Inner.times_prune, List.countP_filter]
    apply List.countP_congr
    intro time listed
    have wide := widened mandate velocity limited (List.ne_nil_of_mem listed)
    simp only [Bool.and_eq_true, decide_eq_true_eq, and_iff_left_iff_imp]
    intro counted
    exact Int64.le_trans (saturatingSubSecs_anti before wide) (Int64.le_trans recent counted)
  by_cases empty : inner.gone before = ∅
  · have same : inner.prune before = { inner with authTimes := inner.pruneTimes before } :=
      if_pos empty
    rw [same] at counts ⊢
    exact ⟨indexed, indexed, rfl, rfl, rfl, rfl, rfl, fun _ _ => rfl, counts⟩
  · have same : inner.prune before = _ := if_neg empty
    rw [same] at counts ⊢
    refine ⟨indexed, rfl, rfl, rfl, rfl, rfl, rfl, ?_, counts⟩
    intro ctx survives
    rw [Inner.chain_eq indexed, Inner.chain_eq rfl]
    exact (filter_ctx_filter ctx inner.events _).trans (if_neg survives)

theorem performs {full pruned : Traced} {later : List Traced.Operation}
    (alike : Alike scopes before gone full.inner pruned.inner)
    (single : ∀ operation ∈ later, Scoped scopes operation)
    (proceeds : ∀ operation ∈ later, Proceeds before gone operation) :
    List.Forall₂ (SameOutcome gone) (full.outcomes externals later)
        (pruned.outcomes externals later) ∧
      Alike scopes before gone (full.performs externals later).inner
        (pruned.performs externals later).inner := by
  induction later generalizing full pruned with
  | nil => exact ⟨.nil, alike⟩
  | cons operation rest ih =>
      have singleRest : ∀ operation ∈ rest, Scoped scopes operation :=
        fun operation listed => single operation (by simp [listed])
      have proceedsRest : ∀ operation ∈ rest, Proceeds before gone operation :=
        fun operation listed => proceeds operation (by simp [listed])
      have proceeds := proceeds operation (by simp)
      cases operation with
      | append ctx now body =>
          have both : SameOutcome gone (full.append externals ctx now body).1
                (pruned.append externals ctx now body).1 ∧
              Alike scopes before gone (full.append externals ctx now body).2.inner
                (pruned.append externals ctx now body).2.inner :=
            alike.append (single _ (by simp)) proceeds
          obtain ⟨outcomes, ends⟩ := ih both.2 singleRest proceedsRest
          exact ⟨.cons both.1 outcomes, ends⟩
      | revoke mandate =>
          have revoked : Alike scopes before gone (full.revoke mandate).inner
            (pruned.revoke mandate).inner := alike.revoke mandate
          exact ih revoked singleRest proceedsRest
      | prune instant => exact proceeds.elim

end Alike

/-- **Pruning never changes a decision.**  In a run that presents each mandate id with
one scope, the appends and revocations after a prune get the answers they would have
got without it, and leave the same tables and the same chains. -/
theorem prune_preserves_decisions {externals : Externals} {scopes : MandateId → Scope}
    {operations later : List Traced.Operation} {before : Timestamp}
    (single : ∀ operation ∈ operations ++ later, Scoped scopes operation)
    (proceeds : ∀ operation ∈ later, Proceeds before
      ((Traced.empty.performs externals operations).inner.gone before) operation) :
    let store := Traced.empty.performs externals operations
    let gone := store.inner.gone before
    let full := (store.performs externals later).inner
    let pruned := ((store.prune before).performs externals later).inner
    List.Forall₂ (SameOutcome gone) (store.outcomes externals later)
        ((store.prune before).outcomes externals later) ∧
      pruned.records = full.records ∧ pruned.reserved = full.reserved ∧
      pruned.nonces = full.nonces ∧ pruned.revoked = full.revoked ∧
      pruned.lastSeq = full.lastSeq ∧ ∀ ctx, ctx ∉ gone → pruned.chain ctx = full.chain ctx := by
  intro store gone full pruned
  have reached : Traced.Reachable externals (Traced.empty.performs externals operations) :=
    Traced.Reachable.performs .refl operations
  have indexed := (Lifecycle.run reached).indexed
  have widened : Widened scopes store.inner := by
    have empty : Widened scopes Traced.empty.inner := by
      intro mandate velocity _ held
      exact absurd rfl held
    exact empty.performs fun operation listed => single operation (by simp [listed])
  have alike : Alike scopes before gone store.inner (store.prune before).inner :=
    .of_prune indexed widened before
  obtain ⟨outcomes, ends⟩ : List.Forall₂ (SameOutcome gone) (store.outcomes externals later)
        ((store.prune before).outcomes externals later) ∧ Alike scopes before gone full pruned :=
    alike.performs (fun operation listed => single operation (by simp [listed])) proceeds
  exact ⟨outcomes, ends.records, ends.reserved, ends.nonces, ends.revoked, ends.lastSeq, ends.chain⟩

def expiredPurchase : List Traced.Operation :=
  [ .append Core.Sample.firstCtx ⟨100⟩ (.authorized Sample.minutely Sample.coffee "k1"),
    .append Core.Sample.firstCtx ⟨110⟩ .expired ]

/-- Then a second one: too early for the limit, and again. -/
def laterPurchase : List Traced.Operation :=
  [ .append Core.Sample.secondCtx ⟨155⟩ (.authorized Sample.minutely Sample.coffee "k2"),
    .append Core.Sample.secondCtx ⟨156⟩ (.denied .authorize .velocityExceeded "too fast"),
    .append Core.Sample.secondCtx ⟨161⟩ (.authorized Sample.minutely Sample.coffee "k2"),
    .revoke Core.Sample.mandateId ]

theorem laterPurchase_decided_alike :
    (Traced.empty.performs Core.Sample.externals expiredPurchase).inner.gone ⟨150⟩ =
        {Core.Sample.firstCtx} ∧
      List.Forall₂ (SameOutcome {Core.Sample.firstCtx})
        ((Traced.empty.performs Core.Sample.externals expiredPurchase).outcomes
          Core.Sample.externals laterPurchase)
        (((Traced.empty.performs Core.Sample.externals expiredPurchase).prune ⟨150⟩).outcomes
          Core.Sample.externals laterPurchase) := by
  have gone : (Traced.empty.performs Core.Sample.externals expiredPurchase).inner.gone ⟨150⟩ =
      {Core.Sample.firstCtx} := by decide +kernel
  have single : ∀ operation ∈ expiredPurchase ++ laterPurchase,
      Scoped (fun _ => Sample.minutely.body.scope) operation := by
    simp [expiredPurchase, laterPurchase, Scoped]
  have other : Core.Sample.secondCtx ≠ Core.Sample.firstCtx := by decide +kernel
  have proceeds : ∀ operation ∈ laterPurchase, Proceeds ⟨150⟩ {Core.Sample.firstCtx} operation := by
    simp [laterPurchase, Proceeds, EventBody.isDenied, other]
    decide
  rw [← gone] at proceeds ⊢
  exact ⟨rfl, (prune_preserves_decisions single proceeds).1⟩

end MandateLedger.Memory
