import MandateLedger.Core.Delegation
import MandateLedger.Memory.Velocity

namespace MandateLedger.Memory

open MandateLedger.Core MandateLedger.Data

/-! # Delegated mandates over whole runs

The budget and the velocity limit of a scope are the store's to enforce.  Take the
appends a store accepts under a narrow scope and make them again under a wider one:
the two stores differ at most in the mandates written in their events, and in the
velocity history, of which the second one keeps no more.  `Looser` is that relation,
and it is a simulation.

The appends that were refused under the narrow scope have to be left out.  Under the
wider one they may be accepted and use up its budget.
-/

theorem checkBudget_within {ops : DecimalOps} {child parent : Scope} {amount next : Money}
    {reserved : Option Money} (within : child.Within parent)
    (granted : checkBudget ops child amount reserved = .ok (.granted next)) :
    checkBudget ops parent amount reserved = .ok (.granted next) := by
  obtain ⟨added, capped⟩ := checkBudget_eq_granted.mp granted
  refine checkBudget_eq_granted.mpr ⟨added, ?_⟩
  intro cap limited
  obtain ⟨own, given, below⟩ := within.total cap limited
  exact Scope.AmountLe.trans (capped own given) below

theorem checkVelocity_within {child parent : Scope} {now : Timestamp}
    {count other : Timestamp → Nat} (within : child.Within parent)
    (fewer : ∀ early late, early ≤ late → other late ≤ count early)
    (paced : checkVelocity child now count = none) : checkVelocity parent now other = none := by
  rw [checkVelocity_eq_none] at paced ⊢
  intro velocity limited
  obtain ⟨own, given, counts, longer⟩ := within.velocity velocity limited
  have back := saturatingSubSecs_anti now longer
  exact Nat.lt_of_le_of_lt (fewer _ _ back)
    (Nat.lt_of_lt_of_le (paced own given) (UInt32.le_iff_toNat_le.mp counts))

def outline (event : Event) : ContextId × Timestamp × Bool :=
  (event.ctx, event.recordedAt, event.body.isDenied)

/-- The same appends were made, under wider scopes. -/
structure Looser (strict loose : Inner) : Prop where
  records : loose.records = strict.records
  byCtx : loose.byCtx = strict.byCtx
  lastSeq : loose.lastSeq = strict.lastSeq
  reserved : loose.reserved = strict.reserved
  nonces : loose.nonces = strict.nonces
  revoked : loose.revoked = strict.revoked
  events : loose.events.map outline = strict.events.map outline
  times : ∀ mandate, (loose.times mandate).Sublist (strict.times mandate)
  windows : ∀ mandate, (loose.velocityWindows.lookup mandate).getD 0 ≤
    (strict.velocityWindows.lookup mandate).getD 0

/-- The same event, for a mandate with the same id and a wider scope. -/
inductive Wider : EventBody → EventBody → Prop where
  | authorized {mandate other : Mandate} {cart : CartSnapshot} {requestKey : String}
      (same : other.body.id = mandate.body.id)
      (within : mandate.body.scope.Within other.body.scope) :
      Wider (.authorized mandate cart requestKey) (.authorized other cart requestKey)
  | same {body : EventBody} (plain : body.resultingState ≠ some .authorized) : Wider body body

theorem Wider.resultingState {body other : EventBody} (wider : Wider body other) :
    other.resultingState = body.resultingState := by
  cases wider <;> rfl

theorem Wider.isDenied {body other : EventBody} (wider : Wider body other) :
    other.isDenied = body.isDenied := by
  cases wider <;> rfl

namespace Looser

variable {strict loose : Inner} {ctx : ContextId}

theorem refl (inner : Inner) : Looser inner inner :=
  ⟨rfl, rfl, rfl, rfl, rfl, rfl, rfl, fun _ => .refl _, fun _ => Int64.le_refl _⟩

theorem chain (looser : Looser strict loose) (ctx : ContextId) :
    (loose.chain ctx).map outline = (strict.chain ctx).map outline := by
  have viaOutlines : ∀ inner : Inner, (inner.chain ctx).map outline =
      ((inner.byCtx.lookup ctx).getD []).filterMap fun position =>
        (inner.events.map outline)[position]? := by
    intro inner
    simp only [Inner.chain, List.map_filterMap, List.getElem?_map]
  rw [viaOutlines, viaOutlines, looser.byCtx, looser.events]

theorem denials (looser : Looser strict loose) (ctx : ContextId) :
    loose.denials ctx = strict.denials ctx := by
  have viaOutlines : ∀ inner : Inner, inner.denials ctx =
      ((inner.chain ctx).map outline).countP fun past => past.2.2 := by
    intro inner
    rw [List.countP_map]
    rfl
  rw [viaOutlines, viaOutlines, looser.chain ctx]

theorem countSince (looser : Looser strict loose) (mandate : MandateId) {early late : Timestamp}
    (earlier : early ≤ late) : loose.countSince mandate late ≤ strict.countSince mandate early := by
  rw [Inner.countSince_eq, Inner.countSince_eq]
  refine (looser.times mandate).countP_le.trans (List.countP_mono_left ?_)
  intro time _ since
  simp only [decide_eq_true_eq] at since ⊢
  exact Int64.le_trans earlier since

theorem putRecord (looser : Looser strict loose) (ctx : ContextId) (record : Record) :
    Looser (strict.putRecord ctx record) (loose.putRecord ctx record) :=
  { looser with records := congrArg (·.insert ctx record) looser.records }

theorem claimNonce (looser : Looser strict loose) (key : String × String) (ctx : ContextId) :
    Looser (strict.claimNonce key ctx) (loose.claimNonce key ctx) :=
  { looser with nonces := congrArg (·.insert key ctx) looser.nonces }

theorem release (looser : Looser strict loose) (mandate : MandateId) (next : Money) :
    Looser { strict with reserved := strict.reserved.insert mandate next }
      { loose with reserved := loose.reserved.insert mandate next } :=
  { looser with reserved := congrArg (·.insert mandate next) looser.reserved }

theorem reserve (looser : Looser strict loose) (now : Timestamp)
    {strictWindow looseWindow : Option Int64}
    (wider : Scope.Tighter (fun own limit => limit ≤ own) strictWindow looseWindow)
    (mandate : MandateId) (next : Money) :
    Looser (strict.reserve now strictWindow mandate next)
      (loose.reserve now looseWindow mandate next) := by
  have reserved := congrArg (·.insert mandate next) looser.reserved
  have times : ∀ other, ((loose.reserve now looseWindow mandate next).times other).Sublist
      ((strict.reserve now strictWindow mandate next).times other) := by
    intro other
    rw [Inner.times_reserve, Inner.times_reserve]
    split
    · exact (looser.times mandate).append (.refl _)
    · exact looser.times other
  have windows : ∀ other,
      ((loose.reserve now looseWindow mandate next).velocityWindows.lookup other).getD 0 ≤
        ((strict.reserve now strictWindow mandate next).velocityWindows.lookup other).getD 0 := by
    intro other
    rw [Inner.velocityWindows_reserve, Inner.velocityWindows_reserve]
    split
    · have before := looser.windows mandate
      cases looseWindow with
      | none =>
          cases strictWindow with
          | none => exact before
          | some long =>
              simp only [Option.getD_some, Int64.le_iff_toInt_le, toInt_max] at before ⊢
              omega
      | some short =>
          obtain ⟨long, given, longer⟩ := wider short rfl
          subst given
          simp only [Option.getD_some, Int64.le_iff_toInt_le, toInt_max] at before longer ⊢
          omega
    · exact looser.windows other
  cases strictWindow <;> cases looseWindow <;>
    exact { looser with reserved := reserved, times := times, windows := windows }

theorem log (looser : Looser strict loose) {event other : Event} (same : outline other = outline event)
    (numbered : other.seq = event.seq) : Looser (strict.log event) (loose.log other) := by
  have own : other.ctx = event.ctx := congrArg Prod.fst same
  have length : loose.events.length = strict.events.length := by
    simpa using congrArg List.length looser.events
  refine { looser with byCtx := ?_, lastSeq := numbered, events := ?_ }
  · simp only [Inner.log, looser.byCtx, length]
    rw [own]
  · simp only [Inner.log, List.map_append, looser.events, List.map_cons, List.map_nil, same]

theorem writes (looser : Looser strict loose) {ops : DecimalOps} {now : Timestamp}
    {body other : EventBody} {tables : Inner} (wider : Wider body other)
    (written : strict.Writes ops ctx now body tables) :
    ∃ looseTables, loose.Writes ops ctx now other looseTables ∧ Looser tables looseTables := by
  cases wider with
  | @authorized mandate signed cart requestKey same within =>
      cases written with
      | @authorized _ _ _ next absent active paced granted =>
          have windows : Scope.Tighter (fun own limit => limit ≤ own)
              (mandate.body.scope.velocity.map Velocity.windowSecs)
              (signed.body.scope.velocity.map Velocity.windowSecs) := by
            intro secs given
            obtain ⟨limit, found, rfl⟩ := Option.map_eq_some_iff.mp given
            obtain ⟨own, has, -, longer⟩ := within.velocity limit found
            exact ⟨own.windowSecs, by rw [has]; rfl, longer⟩
          have opened : Record.opened ctx signed cart = Record.opened ctx mandate cart := by
            simp only [Record.opened, same]
          refine ⟨_, @Inner.Writes.authorized _ _ _ _ _ _ _ next ?_ ?_ ?_ ?_, ?_⟩
          · rw [looser.records, absent]
          · rw [looser.revoked, same]
            exact active
          · refine checkVelocity_within within ?_ paced
            intro early late earlier
            rw [same]
            exact looser.countSince _ earlier
          · rw [looser.reserved, same]
            exact checkBudget_within within granted
          · rw [same, opened]
            exact (looser.reserve now windows _ next).putRecord _ _
      | moved moves plain =>
          cases moves
          simp at plain
      | released moves giving =>
          cases moves
          simp at giving
  | same plain =>
      cases written with
      | authorized => exact absurd rfl plain
      | paid found legal free =>
          refine ⟨_, .paid (by rw [looser.records, found]) legal ?_, (looser.claimNonce _ _).putRecord _ _⟩
          rw [looser.nonces]
          exact free
      | moved moves plain found legal =>
          exact ⟨_, .moved moves plain (by rw [looser.records, found]) legal, looser.putRecord _ _⟩
      | released moves giving found legal given =>
          refine ⟨_, .released moves giving (by rw [looser.records, found]) legal ?_,
            (looser.release _ _).putRecord _ _⟩
          rw [looser.reserved, given]
      | denied uncapped =>
          refine ⟨_, .denied ?_, looser⟩
          rw [looser.denials]
          exact uncapped

theorem append (looser : Looser strict loose) {externals : Externals} {now : Timestamp}
    {body other : EventBody} {event : Event} {tables : Inner}
    (canonical : ∀ preimage, ∃ bytes, externals.canonicalPreimage preimage = .ok bytes)
    (wider : Wider body other) (written : strict.Writes externals.decimals ctx now body tables)
    (built : Event.new externals (strict.prevHash ctx) (strict.lastSeq + 1) ctx now body = .ok event) :
    ∃ second after, loose.append externals ctx now other = (.ok (.appended second), after) ∧
      Looser (tables.log event) after := by
  obtain ⟨looseTables, rewritten, tabled⟩ := looser.writes wider written
  obtain ⟨bytes, encoded⟩ := canonical ⟨loose.lastSeq + 1, ctx, now, other⟩
  obtain ⟨second, made⟩ : ∃ second, Event.new externals (loose.prevHash ctx) (loose.lastSeq + 1)
      ctx now other = .ok second := by
    rw [Event.new, Event.computeHash, encoded]
    exact ⟨_, rfl⟩
  obtain ⟨numbered, own, time, -, same, -⟩ := Event.new_eq_ok built
  obtain ⟨again, also, timed, -, alike, -⟩ := Event.new_eq_ok made
  refine ⟨second, _, rewritten.appended made, tabled.log ?_ ?_⟩
  · simp only [outline, own, time, same, also, timed, alike, wider.isDenied]
  · rw [again, numbered, looser.lastSeq]

theorem revoke (looser : Looser strict loose) (mandate : MandateId) :
    Looser (strict.revoke mandate) (loose.revoke mandate) :=
  { looser with revoked := congrArg (insert mandate ·) looser.revoked }

theorem gone (looser : Looser strict loose) (before : Timestamp) :
    loose.gone before = strict.gone before := by
  have viaOutlines : ∀ (inner : Inner) ctx, inner.isGone before ctx =
      (inner.finished ctx && ((inner.chain ctx).map outline).getLast?.any fun past =>
        decide (past.2.1 < before)) := by
    intro inner ctx
    rw [Inner.isGone, List.getLast?_map, Option.any_map]
    rfl
  simp only [Inner.gone, viaOutlines, looser.chain, looser.byCtx, Inner.finished, looser.records]

theorem index_eq {first second : List Event} (same : first.map Event.ctx = second.map Event.ctx) :
    Inner.index first = Inner.index second := by
  have viaContexts : ∀ events : List Event, Inner.index events =
      ((events.map Event.ctx).zipIdx).foldl (fun table entry =>
        table.insert entry.1 ((table.lookup entry.1).getD [] ++ [entry.2])) ∅ := by
    intro events
    rw [Inner.index, List.zipIdx_map, List.foldl_map]
    rfl
  rw [viaContexts, viaContexts, same]

theorem prune (looser : Looser strict loose) (before : Timestamp) :
    Looser (strict.prune before) (loose.prune before) := by
  have times : ∀ mandate, ((loose.prune before).times mandate).Sublist
      ((strict.prune before).times mandate) := by
    intro mandate
    rw [Inner.times_prune, Inner.times_prune]
    refine ((looser.times mandate).filter _).trans (List.monotone_filter_right _ ?_)
    intro time kept
    simp only [decide_eq_true_eq] at kept ⊢
    exact Int64.le_trans (saturatingSubSecs_anti before (looser.windows mandate)) kept
  have gone := looser.gone before
  by_cases empty : strict.gone before = ∅
  · have strictPruned : strict.prune before = { strict with authTimes := strict.pruneTimes before } :=
      if_pos empty
    have loosePruned : loose.prune before = { loose with authTimes := loose.pruneTimes before } :=
      if_pos (gone.trans empty)
    rw [strictPruned, loosePruned] at times ⊢
    exact { looser with times := times }
  · have strictPruned : strict.prune before = _ := if_neg empty
    have loosePruned : loose.prune before = _ := if_neg (gone.trans_ne empty)
    have kept : (loose.events.filter fun event => event.ctx ∉ loose.gone before).map outline =
        (strict.events.filter fun event => event.ctx ∉ strict.gone before).map outline := by
      have viaOutlines : ∀ (events : List Event) (gone : Finset ContextId),
          (events.filter fun event => event.ctx ∉ gone).map outline =
            (events.map outline).filter fun past => past.1 ∉ gone := by
        intro events gone
        rw [List.filter_map]
        rfl
      rw [viaOutlines, viaOutlines, looser.events, gone]
    rw [strictPruned, loosePruned] at times ⊢
    refine { looser with byCtx := ?_, events := kept, times := times }
    apply index_eq
    have contexts := congrArg (List.map Prod.fst) kept
    rw [List.map_map, List.map_map] at contexts
    exact contexts

end Looser

section Runs

variable (externals : Externals)

/-- Whether an operation is carried out; an append may be refused or fail. -/
def accepts (inner : Inner) : Traced.Operation → Bool
  | .append ctx now body => (appendedEvent (inner.append externals ctx now body).1).isSome
  | .revoke _ | .prune _ => true

def operate (inner : Inner) : Traced.Operation → Inner
  | .append ctx now body => (inner.append externals ctx now body).2
  | .revoke mandate => inner.revoke mandate
  | .prune before => inner.prune before

def accepted (inner : Inner) : List Traced.Operation → List Traced.Operation
  | [] => []
  | operation :: rest =>
      let later := accepted (operate externals inner operation) rest
      if accepts externals inner operation then operation :: later else later

def AcceptsAll (inner : Inner) : List Traced.Operation → Prop
  | [] => True
  | operation :: rest =>
      accepts externals inner operation = true ∧
        AcceptsAll (operate externals inner operation) rest

end Runs

/-- The same operation, with the scope of one mandate in the place of another's,
under the latter's id. -/
def rescope (leaf root : MandateBody) : Traced.Operation → Traced.Operation
  | .append ctx now (.authorized mandate cart requestKey) =>
      if mandate.body.id = leaf.id ∧ mandate.body.scope = leaf.scope then
        .append ctx now (.authorized { mandate with body := { mandate.body with scope := root.scope } }
          cart requestKey)
      else .append ctx now (.authorized mandate cart requestKey)
  | operation => operation

section Replays

variable {externals : Externals} {strict loose : Inner}

theorem operate_of_not_accepts {inner : Inner} {operation : Traced.Operation}
    (refused : accepts externals inner operation = false) :
    operate externals inner operation = inner := by
  cases operation with
  | append ctx now body =>
      obtain ⟨result, appended, -⟩ | ⟨event, tables, -, -, appended⟩ :=
        inner.append_cases externals ctx now body
      · rw [operate, appended]
      · rw [accepts, appended] at refused
        cases refused
  | revoke mandate => cases refused
  | prune before => cases refused

theorem rescope_wider {leaf root : MandateBody} (within : leaf.scope.Within root.scope)
    (ctx : ContextId) (now : Timestamp) (body : EventBody) :
    ∃ other, rescope leaf root (.append ctx now body) = .append ctx now other ∧ Wider body other := by
  cases body with
  | authorized mandate cart requestKey =>
      by_cases own : mandate.body.id = leaf.id ∧ mandate.body.scope = leaf.scope
      · refine ⟨_, if_pos own, .authorized rfl ?_⟩
        rw [own.2]
        exact within
      · exact ⟨_, if_neg own, .authorized rfl (.refl _)⟩
  | _ => exact ⟨_, rfl, .same (by simp [EventBody.resultingState])⟩

theorem Looser.operate {leaf root : MandateBody} (within : leaf.scope.Within root.scope)
    (canonical : ∀ preimage, ∃ bytes, externals.canonicalPreimage preimage = .ok bytes)
    (looser : Looser strict loose) {operation : Traced.Operation}
    (allowed : accepts externals strict operation = true) :
    accepts externals loose (rescope leaf root operation) = true ∧
      Looser (operate externals strict operation)
        (operate externals loose (rescope leaf root operation)) := by
  cases operation with
  | append ctx now body =>
      obtain ⟨other, same, wider⟩ := rescope_wider within ctx now body
      rw [same]
      obtain ⟨result, appended, refusal⟩ | ⟨event, tables, written, built, appended⟩ :=
        strict.append_cases externals ctx now body
      · rw [accepts, appended, appendedEvent_of_refusal refusal] at allowed
        cases allowed
      · obtain ⟨second, after, again, kept⟩ := looser.append canonical wider written built
        refine ⟨by rw [accepts, again]; rfl, ?_⟩
        rw [Memory.operate, Memory.operate, appended, again]
        exact kept
  | revoke mandate => exact ⟨rfl, looser.revoke mandate⟩
  | prune before => exact ⟨rfl, looser.prune before⟩

theorem Looser.replays {leaf root : MandateBody} (within : leaf.scope.Within root.scope)
    (canonical : ∀ preimage, ∃ bytes, externals.canonicalPreimage preimage = .ok bytes)
    (looser : Looser strict loose) (operations : List Traced.Operation) :
    AcceptsAll externals loose ((accepted externals strict operations).map (rescope leaf root)) := by
  induction operations generalizing strict loose with
  | nil => trivial
  | cons operation rest ih =>
      unfold accepted
      dsimp only
      split
      · next allowed =>
          obtain ⟨carried, after⟩ := looser.operate within canonical allowed
          exact ⟨carried, ih after⟩
      · next refused =>
          rw [Bool.not_eq_true] at refused
          rw [operate_of_not_accepts refused]
          exact ih looser

end Replays

/-- What a mandate at the end of a chain cannot do unless the first one can. -/
structure Narrows (externals : Externals) (root leaf : MandateBody) : Prop where
  subset : leaf.scope.isSubsetOf root.scope = true
  admits : ∀ claims attestation now, leaf.scope.admits claims attestation now = .ok () →
    root.scope.admits claims attestation now = .ok ()
  replays : ∀ inner operations,
    AcceptsAll externals inner ((accepted externals inner operations).map (rescope leaf root))

/-- Delegation only narrows, along any chain and over any run: the operations a
store carries out under the last scope it carries out under the first one. -/
theorem delegation_narrows {externals : Externals} {root leaf : MandateBody}
    (canonical : ∀ preimage, ∃ bytes, externals.canonicalPreimage preimage = .ok bytes)
    (chain : Relation.ReflTransGen MandateBody.Attenuated root leaf) :
    (∀ scope : Scope, scope.isSubsetOf scope = true) ∧
      (∀ first second third : Scope, first.isSubsetOf second = true →
        second.isSubsetOf third = true → first.isSubsetOf third = true) ∧
      Narrows externals root leaf := by
  have within := MandateBody.within_of_chain chain
  refine ⟨?_, ?_, Scope.isSubsetOf_iff.mpr within, ?_, ?_⟩
  · intro scope
    exact Scope.isSubsetOf_iff.mpr (.refl scope)
  · intro first second third lower upper
    exact Scope.isSubsetOf_iff.mpr
      ((Scope.isSubsetOf_iff.mp lower).trans (Scope.isSubsetOf_iff.mp upper))
  · intro claims attestation now admitted
    exact within.admits admitted
  · intro inner operations
    exact (Looser.refl inner).replays within canonical operations

namespace Sample

def share : MandateBody :=
  let root := (Core.Sample.mandate Core.Sample.alice).body
  { root with
    id := Core.Sample.otherId
    scope := { root.scope with maxTotal := some (Core.Sample.cents 5000) }
    issuedAt := ⟨5⟩
    parent := some Core.Sample.mandateId }

theorem share_attenuated :
    Relation.ReflTransGen MandateBody.Attenuated (Core.Sample.mandate Core.Sample.alice).body share :=
  .single ⟨Core.Sample.otherId, Core.Sample.agent, share.scope, ⟨5⟩, by decide +kernel⟩

def spend (ctx : ContextId) (now : Timestamp) (cents : Nat) : Traced.Operation :=
  .append ctx now (.authorized { Core.Sample.mandate Core.Sample.alice with body := share }
    (Cart.snapshot Core.Sample.sha256
      { Core.Sample.cart with claims :=
          ⟨Core.Sample.merchant, Core.Sample.cents cents, none, none⟩ }) "k1")

end Sample

/-- 60.00 are refused under the share, and left out under the mandate. -/
theorem share_narrows :
    (accepted Core.Sample.externals .empty
      [Sample.spend Core.Sample.firstCtx ⟨10⟩ 6000, Sample.spend Core.Sample.secondCtx ⟨11⟩ 5000,
        .prune ⟨20⟩]).length = 2 ∧
    Narrows Core.Sample.externals (Core.Sample.mandate Core.Sample.alice).body Sample.share :=
  ⟨by decide +kernel, (delegation_narrows (fun _ => ⟨_, rfl⟩) Sample.share_attenuated).2.2⟩

/-- With the refused append made again as well, the wider budget is used up: an append
accepted under the share is refused under the mandate. -/
theorem share_replayed :
    Relation.ReflTransGen MandateBody.Attenuated (Core.Sample.mandate Core.Sample.alice).body
        Sample.share ∧
      (accepted Core.Sample.externals .empty
        [Sample.spend Core.Sample.firstCtx ⟨10⟩ 6000, Sample.spend Core.Sample.secondCtx ⟨11⟩ 5000]) =
          [Sample.spend Core.Sample.secondCtx ⟨11⟩ 5000] ∧
      (accepted Core.Sample.externals .empty
        ([Sample.spend Core.Sample.firstCtx ⟨10⟩ 6000,
          Sample.spend Core.Sample.secondCtx ⟨11⟩ 5000].map
            (rescope Sample.share (Core.Sample.mandate Core.Sample.alice).body))) =
          [rescope Sample.share (Core.Sample.mandate Core.Sample.alice).body
            (Sample.spend Core.Sample.firstCtx ⟨10⟩ 6000)] :=
  ⟨Sample.share_attenuated, rfl, rfl⟩

end MandateLedger.Memory
