import MandateLedger.Data.Pace
import MandateLedger.Memory.Lifecycle

namespace MandateLedger.Memory

open MandateLedger.Core MandateLedger.Data

theorem toInt_saturatingSub (left right : Int64) :
    (saturatingSub left right).toInt =
      max Int64.minValue.toInt (min Int64.maxValue.toInt (left.toInt - right.toInt)) := by
  have least := Int64.toInt_minValue
  have most := Int64.toInt_maxValue
  unfold saturatingSub
  dsimp only
  split
  · omega
  · split
    · omega
    · rw [Int64.toInt_ofInt_of_le] <;> omega

theorem toInt_max (left right : Int64) : (max left right).toInt = max left.toInt right.toInt := by
  change (if left ≤ right then right else left).toInt = _
  split
  · next shorter => rw [Int64.le_iff_toInt_le] at shorter; omega
  · next longer => rw [Int64.le_iff_toInt_le] at longer; omega

/-- A positive number of seconds taken away saturates only below, where no instant lies. -/
theorem saturatingSubSecs_le_iff {time other : Timestamp} {secs : Int64} (positive : 0 < secs) :
    time.saturatingSubSecs secs ≤ other ↔
      time.secs.toInt - secs.toInt ≤ other.secs.toInt := by
  have seconds : 0 < secs.toInt := Int64.lt_iff_toInt_lt.mp positive
  have least := Int64.minValue_le_toInt other.secs
  have most := Int64.toInt_le time.secs
  have greatest := Int64.toInt_maxValue
  change saturatingSub time.secs secs ≤ other.secs ↔ _
  rw [Int64.le_iff_toInt_le, toInt_saturatingSub]
  omega

theorem saturatedCount_lt_iff {count : Nat} {limit : UInt32} :
    saturatedCount count < limit ↔ count < limit.toNat := by
  have bounded := limit.toNat_lt
  rw [UInt32.lt_iff_toNat_lt, saturatedCount]
  split
  · next small => rw [UInt32.toNat_ofNat_of_lt' small]
  · next large =>
      simp only [UInt32.size] at large
      simp [UInt32.size]
      omega

theorem checkVelocity_eq_none {scope : Scope} {now : Timestamp} {countSince : Timestamp → Nat} :
    checkVelocity scope now countSince = none ↔
      ∀ velocity, scope.velocity = some velocity →
        countSince (now.saturatingSubSecs velocity.windowSecs) < velocity.maxCount.toNat := by
  unfold checkVelocity
  cases scope.velocity with
  | none => simp
  | some velocity => simp [← saturatedCount_lt_iff]

theorem saturatingSubSecs_anti (time : Timestamp) {short long : Int64} (longer : short ≤ long) :
    time.saturatingSubSecs long ≤ time.saturatingSubSecs short := by
  rw [Int64.le_iff_toInt_le] at longer
  change saturatingSub time.secs long ≤ saturatingSub time.secs short
  rw [Int64.le_iff_toInt_le, toInt_saturatingSub, toInt_saturatingSub]
  omega

namespace Inner

def times (inner : Inner) (mandate : MandateId) : List Timestamp :=
  (inner.authTimes.lookup mandate).getD []

theorem countSince_eq (inner : Inner) (mandate : MandateId) (since : Timestamp) :
    inner.countSince mandate since = (inner.times mandate).countP fun time => since ≤ time := by
  unfold countSince times
  cases inner.authTimes.lookup mandate <;> simp

theorem times_prune (inner : Inner) (before : Timestamp) (mandate : MandateId) :
    (inner.prune before).times mandate = (inner.times mandate).filter fun time =>
      before.saturatingSubSecs ((inner.velocityWindows.lookup mandate).getD 0) ≤ time := by
  obtain ⟨events, byCtx, pruned⟩ := inner.prune_frame before
  rw [times, pruned, pruneTimes, Table.lookup_keepRows, Table.lookup_mapRows, times]
  cases inner.authTimes.lookup mandate with
  | none => rfl
  | some row =>
      simp only [Option.map_some, Option.getD_some]
      generalize row.filter _ = kept
      cases kept <;> rfl

theorem velocityWindows_prune (inner : Inner) (before : Timestamp) :
    (inner.prune before).velocityWindows = inner.velocityWindows := by
  obtain ⟨events, byCtx, pruned⟩ := inner.prune_frame before
  rw [pruned]

section Reserve

variable (inner : Inner) (now : Timestamp) (window : Option Int64) (mandate : MandateId)
  (next : Money)

theorem times_reserve (other : MandateId) :
    (inner.reserve now window mandate next).times other =
      if other = mandate then inner.times mandate ++ [now] else inner.times other := by
  have same : (inner.widen mandate window).authTimes = inner.authTimes := by
    cases window <;> rfl
  simp only [reserve, times, Table.lookup_insert_eq, same]
  split <;> rfl

theorem velocityWindows_reserve (other : MandateId) :
    (inner.reserve now window mandate next).velocityWindows.lookup other =
      if other = mandate then
        match window with
        | none => inner.velocityWindows.lookup mandate
        | some secs => some (max ((inner.velocityWindows.lookup mandate).getD 0) secs)
      else inner.velocityWindows.lookup other := by
  cases window with
  | none =>
      change inner.velocityWindows.lookup other = _
      split
      · next same => rw [same]
      · rfl
  | some secs => exact Table.lookup_insert_eq

end Reserve

/-- What the writes of an append do to a mandate's rows: nothing, unless they
authorize under it. -/
theorem Writes.velocity {ops : DecimalOps} {inner tables : Inner} {ctx : ContextId}
    {now : Timestamp} {body : EventBody} (writes : inner.Writes ops ctx now body tables)
    (mandate : MandateId) :
    ((∀ presented, body.mandate? = some presented → presented.body.id ≠ mandate) ∧
      tables.times mandate = inner.times mandate ∧
      tables.velocityWindows.lookup mandate = inner.velocityWindows.lookup mandate) ∨
    ∃ presented cart key next, body = .authorized presented cart key ∧
      presented.body.id = mandate ∧
      checkVelocity presented.body.scope now (inner.countSince mandate) = none ∧
      tables = (inner.reserve now (presented.body.scope.velocity.map Velocity.windowSecs)
        mandate next).putRecord ctx (Record.opened ctx presented cart) := by
  cases writes with
  | @authorized presented cart key next absent active paced granted =>
      by_cases own : presented.body.id = mandate
      · subst own
        exact .inr ⟨presented, cart, key, next, rfl, rfl, paced, rfl⟩
      · refine .inl ⟨?_, ?_, ?_⟩
        · intro other same
          cases same
          exact own
        · exact (times_reserve _ _ _ _ next _).trans (if_neg (Ne.symm own))
        · exact (velocityWindows_reserve _ now _ _ next _).trans (if_neg (Ne.symm own))
  | paid => exact .inl ⟨by simp [EventBody.mandate?], rfl, rfl⟩
  | @moved _ target _ moves plain =>
      have later : target ≠ .authorized := by rcases plain with rfl | rfl | rfl <;> decide
      exact .inl ⟨by simp [EventBody.mandate?_eq_none moves later], rfl, rfl⟩
  | @released _ target _ _ moves giving =>
      have later : target ≠ .authorized := by rcases giving with rfl | rfl <;> decide
      exact .inl ⟨by simp [EventBody.mandate?_eq_none moves later], rfl, rfl⟩
  | denied => exact .inl ⟨by simp [EventBody.mandate?], rfl, rfl⟩

end Inner

def authorizes (mandate : MandateId) (event : Event) : Bool :=
  event.body.mandate?.any fun presented => presented.body.id = mandate

/-- When a mandate was authorized under, in the order of arrival. -/
def instants (mandate : MandateId) (history : List Event) : List Int :=
  (history.filter (authorizes mandate)).map fun event => event.recordedAt.secs.toInt

/-- A run that presents one velocity limit under the mandate's id, and after a
prune only instants that are not before it. -/
structure Steady (mandate : MandateId) (velocity : Velocity)
    (operations : List Traced.Operation) : Prop where
  limited : ∀ ctx now presented cart key,
    .append ctx now (.authorized presented cart key) ∈ operations →
      presented.body.id = mandate → presented.body.scope.velocity = some velocity
  later : operations.Pairwise fun first second => ∀ before ctx now presented cart key,
    first = .prune before → second = .append ctx now (.authorized presented cart key) →
      presented.body.id = mandate → before ≤ now

theorem Steady.init {mandate : MandateId} {velocity : Velocity}
    {operations : List Traced.Operation} {last : Traced.Operation}
    (steady : Steady mandate velocity (operations ++ [last])) :
    Steady mandate velocity operations where
  limited ctx now presented cart key listed :=
    steady.limited ctx now presented cart key (List.mem_append_left _ listed)
  later := (List.pairwise_append.mp steady.later).1

/-- The instants that may still come after some operations. -/
def Allowed (operations : List Traced.Operation) (now : Timestamp) : Prop :=
  ∀ before, .prune before ∈ operations → before ≤ now

theorem Steady.allowed {mandate : MandateId} {velocity : Velocity}
    {operations : List Traced.Operation} {ctx : ContextId} {now : Timestamp}
    {presented : Mandate} {cart : CartSnapshot} {key : String}
    (steady : Steady mandate velocity
      (operations ++ [.append ctx now (.authorized presented cart key)]))
    (own : presented.body.id = mandate) : Allowed operations now := by
  intro before listed
  exact (List.pairwise_append.mp steady.later).2.2 _ listed _ (List.mem_singleton_self _)
    before ctx now presented cart key rfl rfl own

/-- The store still holds what an instant that may come has to count. -/
structure Watched (mandate : MandateId) (velocity : Velocity)
    (operations : List Traced.Operation) (traced : Traced) : Prop where
  paced : Paced velocity.windowSecs.toInt velocity.maxCount.toNat
    (instants mandate traced.history)
  counted : ∀ now, Allowed operations now →
    (instants mandate traced.history).countP
        (fun instant => now.secs.toInt - velocity.windowSecs.toInt ≤ instant) ≤
      traced.inner.countSince mandate (now.saturatingSubSecs velocity.windowSecs)
  widened : instants mandate traced.history ≠ [] →
    ∃ longest, traced.inner.velocityWindows.lookup mandate = some longest ∧
      velocity.windowSecs ≤ longest

namespace Watched

variable {externals : Externals} {mandate : MandateId} {velocity : Velocity}
  {operations : List Traced.Operation} {traced : Traced}

theorem empty : Watched mandate velocity [] .empty :=
  ⟨.nil, by simp [Traced.empty, instants], by simp [Traced.empty, instants]⟩

theorem kept {after : List Traced.Operation} {next : Traced}
    (watched : Watched mandate velocity operations traced)
    (fewer : ∀ now, Allowed after now → Allowed operations now)
    (history : instants mandate next.history = instants mandate traced.history)
    (times : next.inner.times mandate = traced.inner.times mandate)
    (windows : next.inner.velocityWindows.lookup mandate =
      traced.inner.velocityWindows.lookup mandate) :
    Watched mandate velocity after next := by
  refine ⟨history ▸ watched.paced, ?_, ?_⟩
  · intro now allowed
    have counted := watched.counted now (fewer now allowed)
    rw [Inner.countSince_eq] at counted ⊢
    rwa [history, times]
  · rw [history, windows]
    exact watched.widened

/-- An authorization under the mandate was checked against all that counts, and
counts from now on. -/
theorem arrived {after : List Traced.Operation} {next : Traced} {now : Timestamp}
    (watched : Watched mandate velocity operations traced)
    (positive : 0 < velocity.windowSecs)
    (fewer : ∀ later, Allowed after later → Allowed operations later)
    (allowed : Allowed operations now)
    (below : traced.inner.countSince mandate (now.saturatingSubSecs velocity.windowSecs) <
      velocity.maxCount.toNat)
    (history : instants mandate next.history =
      instants mandate traced.history ++ [now.secs.toInt])
    (times : next.inner.times mandate = traced.inner.times mandate ++ [now])
    (windows : ∃ longest, next.inner.velocityWindows.lookup mandate = some longest ∧
      velocity.windowSecs ≤ longest) :
    Watched mandate velocity after next := by
  refine ⟨?_, ?_, fun _ => windows⟩
  · rw [history]
    exact watched.paced.append (Nat.lt_of_le_of_lt (watched.counted now allowed) below)
  · intro later comes
    have counted := watched.counted later (fewer later comes)
    rw [Inner.countSince_eq] at counted ⊢
    rw [history, times, List.countP_append, List.countP_append]
    have added : later.saturatingSubSecs velocity.windowSecs ≤ now ↔ _ :=
      saturatingSubSecs_le_iff positive
    simp only [List.countP_singleton, added]
    omega

/-- What `prune` forgets is too old for every instant that may still come. -/
theorem prune (watched : Watched mandate velocity operations traced)
    (positive : 0 < velocity.windowSecs) (before : Timestamp) :
    Watched mandate velocity (operations ++ [.prune before]) (traced.prune before) := by
  have windows := traced.inner.velocityWindows_prune before
  refine ⟨watched.paced, ?_, fun some => windows ▸ watched.widened some⟩
  intro now allowed
  have counted := watched.counted now fun instant listed =>
    allowed instant (List.mem_append_left _ listed)
  rcases List.eq_nil_or_concat (instants mandate traced.history) with none | ⟨_, _, some⟩
  · change (instants mandate traced.history).countP _ ≤ _
    rw [none]
    exact Nat.zero_le _
  · obtain ⟨longest, found, wide⟩ := watched.widened (by simp [some])
    have notBefore : before ≤ now := allowed before (by simp)
    refine counted.trans ?_
    change _ ≤ (traced.inner.prune before).countSince mandate _
    rw [Inner.countSince_eq, Inner.countSince_eq, Inner.times_prune, found,
      List.countP_filter]
    apply List.countP_mono_left
    intro time _ counts
    have recent := (saturatingSubSecs_le_iff positive).mp (of_decide_eq_true counts)
    have longer := Int64.le_iff_toInt_le.mp wide
    have ordered : before.secs.toInt ≤ now.secs.toInt := Int64.le_iff_toInt_le.mp notBefore
    rw [Bool.and_eq_true]
    refine ⟨counts, decide_eq_true ((saturatingSubSecs_le_iff ?_).mpr ?_)⟩
    · exact Int64.lt_of_lt_of_le positive wide
    · simp only [Option.getD_some]
      omega

theorem logged {ops : DecimalOps} {now : Timestamp} {event : Event} {tables : Inner}
    (watched : Watched mandate velocity operations traced)
    (positive : 0 < velocity.windowSecs)
    (steady : Steady mandate velocity (operations ++ [.append event.ctx now event.body]))
    (recorded : event.recordedAt = now)
    (writes : traced.inner.Writes ops event.ctx now event.body tables) :
    Watched mandate velocity (operations ++ [.append event.ctx now event.body])
      ⟨tables.log event, traced.history ++ [event]⟩ := by
  have fewer : ∀ later, Allowed (operations ++ [.append event.ctx now event.body]) later →
      Allowed operations later := fun later allowed before listed =>
    allowed before (List.mem_append_left _ listed)
  obtain ⟨other, times, windows⟩ | ⟨presented, cart, key, next, body, own, paced, rfl⟩ :=
    writes.velocity mandate
  · refine watched.kept fewer ?_ times windows
    have unrelated : authorizes mandate event = false := by
      rw [authorizes, Option.any_eq_false]
      intro presented same
      simpa using other presented same
    simp [instants, unrelated]
  · rw [body] at steady fewer ⊢
    have limited := steady.limited event.ctx now presented cart key (by simp) own
    refine watched.arrived positive fewer (steady.allowed own)
      (checkVelocity_eq_none.mp paced velocity limited) ?_ ?_ ?_
    · simp [instants, authorizes, body, EventBody.mandate?, recorded, own]
    · exact (Inner.times_reserve _ _ _ _ next _).trans (if_pos rfl)
    · refine ⟨max ((traced.inner.velocityWindows.lookup mandate).getD 0) velocity.windowSecs,
        (Inner.velocityWindows_reserve _ now _ _ next _).trans ?_, ?_⟩
      · rw [if_pos rfl, limited]
        rfl
      · rw [Int64.le_iff_toInt_le, toInt_max]
        exact Int.le_max_right _ _

theorem step {operation : Traced.Operation}
    (watched : Watched mandate velocity operations traced)
    (positive : 0 < velocity.windowSecs)
    (steady : Steady mandate velocity (operations ++ [operation])) :
    Watched mandate velocity (operations ++ [operation]) (traced.perform externals operation) := by
  cases operation with
  | append ctx now body =>
      change Watched mandate velocity _ (traced.append externals ctx now body).2
      obtain ⟨result, appended, -⟩ | ⟨event, tables, writes, built, appended⟩ :=
        traced.append_cases externals ctx now body
      · rw [appended]
        exact watched.kept (fun later allowed before listed =>
          allowed before (List.mem_append_left _ listed)) rfl rfl rfl
      · rw [appended]
        obtain ⟨-, rfl, recorded, -, rfl, -⟩ := Event.new_eq_ok built
        exact watched.logged positive steady recorded writes
  | revoke id =>
      exact watched.kept (fun later allowed before listed =>
        allowed before (List.mem_append_left _ listed)) rfl rfl rfl
  | prune before => exact watched.prune positive before

theorem run (positive : 0 < velocity.windowSecs) (steady : Steady mandate velocity operations) :
    Watched mandate velocity operations (Traced.empty.performs externals operations) := by
  induction operations using List.reverseRecOn with
  | nil => exact empty
  | append_singleton operations operation ih =>
      rw [Traced.performs, List.foldl_append]
      exact (ih steady.init).step positive steady

end Watched

/-- No window of the limit's width, wherever it starts, holds more authorizations
than the limit. -/
theorem authorizations_within_le (externals : Externals) {mandate : MandateId}
    {velocity : Velocity} {operations : List Traced.Operation}
    (positive : 0 < velocity.windowSecs) (steady : Steady mandate velocity operations)
    (start : Int) :
    (Traced.empty.performs externals operations).history.countP (fun event =>
        authorizes mandate event ∧ start ≤ event.recordedAt.secs.toInt ∧
          event.recordedAt.secs.toInt ≤ start + velocity.windowSecs.toInt) ≤
      velocity.maxCount.toNat := by
  have watched : Watched mandate velocity operations
    (Traced.empty.performs externals operations) := .run positive steady
  have bound := watched.paced.window_le start
  rw [instants, List.countP_map, List.countP_filter] at bound
  refine le_trans (List.countP_mono_left ?_) bound
  intro event _ within
  simpa [and_comm, and_assoc] using within

namespace Sample

def minutely : Mandate :=
  let mandate := Core.Sample.mandate Core.Sample.alice
  let scope := { mandate.body.scope with velocity := some ⟨1, 60⟩ }
  { mandate with body := { mandate.body with scope := scope } }

def coffee : CartSnapshot :=
  Cart.snapshot Core.Sample.sha256
    { Core.Sample.cart with claims := ⟨Core.Sample.merchant, Core.Sample.cents 100, none, none⟩ }

/-- The second request arrives late with an earlier instant. -/
def overtaken : List Traced.Operation :=
  [ .append Core.Sample.firstCtx ⟨100⟩ (.authorized minutely coffee "k1"),
    .append Core.Sample.secondCtx ⟨70⟩ (.authorized minutely coffee "k2"),
    .prune ⟨90⟩,
    .append Core.Sample.secondCtx ⟨161⟩ (.authorized minutely coffee "k2") ]

theorem overtaken_steady : Steady Core.Sample.mandateId ⟨1, 60⟩ overtaken where
  limited ctx now presented cart key listed _ := by
    simp only [overtaken, List.mem_cons, Traced.Operation.append.injEq, EventBody.authorized.injEq,
      reduceCtorEq, List.not_mem_nil, or_false, false_or] at listed
    obtain ⟨-, -, rfl, -⟩ | ⟨-, -, rfl, -⟩ | ⟨-, -, rfl, -⟩ := listed <;> rfl
  later := by
    simp only [overtaken, List.pairwise_cons, List.mem_cons, List.not_mem_nil, reduceCtorEq,
      false_implies, implies_true, or_false, List.Pairwise.nil, and_true, true_and, forall_eq,
      Traced.Operation.prune.injEq, Traced.Operation.append.injEq]
    intro before ctx now presented cart key pruned arrives _
    rw [← pruned, ← arrives.2.1]
    decide

end Sample

theorem overtaken_within_le :
    instants Core.Sample.mandateId
        (Traced.empty.performs Core.Sample.externals Sample.overtaken).history = [100, 161] ∧
      (Traced.empty.performs Core.Sample.externals Sample.overtaken).history.countP (fun event =>
        authorizes Core.Sample.mandateId event ∧ 70 ≤ event.recordedAt.secs.toInt ∧
          event.recordedAt.secs.toInt ≤ 70 + (60 : Int64).toInt) ≤ (1 : UInt32).toNat :=
  ⟨by decide +kernel,
    authorizations_within_le Core.Sample.externals (by decide) Sample.overtaken_steady 70⟩

end MandateLedger.Memory
