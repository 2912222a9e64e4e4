import MandateLedger.Serve.Refinement

namespace MandateLedger.Serve

open MandateLedger.Core MandateLedger.Data MandateLedger.Memory MandateLedger.Process
  MandateLedger.Engine MandateLedger.Adapters

section Runs

variable {Rid : Type} [DecidableEq Rid] {app : App} {capacity : Nat} {service : Service Rid}

/-- Every verdict of a run is one the rail has grounds for. -/
theorem App.Reachable.grounds (reached : app.Reachable capacity service) {id : String}
    {finality : Finality} {expected : SettlementExpectation} {status : FinalityStatus}
    (listed : Act.judged id finality expected (.ok status) ∈ service.tasks.shared.world.acts) :
    finality.reference = expected.paymentReference ∧
      Grounds app.rail expected.paymentReference finality.reported status := by
  revert listed
  refine reachable_spoken (fun acts _ => Act.judged id finality expected (.ok status) ∈ acts → _)
    ?_ ?_ ?_ reached.tasks
  · intro listed
    cases listed
  · intro acts memory more kept quiet listed
    obtain old | new := List.mem_append.mp listed
    · exact kept old
    · cases quiet _ new
  · intro acts memory other evidence expectation kept listed
    obtain old | new := List.mem_append.mp listed
    · exact kept old
    · obtain ⟨rfl, rfl, rfl, answered⟩ := Act.judged.inj (List.mem_singleton.mp new)
      exact SandboxRail.checkFinality_grounds answered.symm

/-- What the ledger recorded is justified by the acts before it. -/
theorem App.Reachable.justified (reached : app.Reachable capacity service) {event : Event}
    (listed : event ∈ service.tasks.shared.world.history) :
    EventSound app.externals {app.ledger} service.tasks.shared.world.acts event := by
  obtain ⟨calls, run, same⟩ := reached.calls
  have each := (reachable_kept (reachable_of_unpruned run)).inv.2
  rw [same] at each
  obtain ⟨act, appended, shown⟩ := List.mem_filterMap.mp listed
  cases act with
  | appended other =>
      cases shown
      obtain ⟨earlier, grown, sound⟩ := each.of_mem appended
      exact EventSound.later grown sound
  | verified | judged => cases shown

/-- The operator told the rail this about a payment. -/
def Told (acts : List (Act MockProof Finality)) (id payment : String) (reported : Reported) :
    Prop :=
  ∃ expected answer, Act.judged id ⟨payment, some reported⟩ expected answer ∈ acts

/-- Every settlement on record is of a recorded payment, and rests on a report of the
operator or on the payment's own reference.  So does every failed one. -/
theorem settlements_grounded (reached : app.Reachable capacity service) {event : Event}
    (listed : event ∈ service.tasks.shared.world.history) :
    (∀ id reference, event.body = .settled id reference →
      ∃ paid, paid.ctx = event.ctx ∧ Pays service.tasks.shared.world.acts paid ∧
      ∃ count : UInt32, app.rail.finality ≤ count ∧
        reference = s!"{paid.reference}@{count.toNat}" ∧
        (Told service.tasks.shared.world.acts id paid.reference (.confirmations count) ∨
          magic paid.reference = some .ok ∧ count = app.rail.finality)) ∧
    ∀ id reason, event.body = .settlementFailed id reason →
      ∃ paid, paid.ctx = event.ctx ∧ Pays service.tasks.shared.world.acts paid ∧
        (Told service.tasks.shared.world.acts id paid.reference (.failed reason) ∨
          magic paid.reference = some .fail ∧ reason = "declined by the rail" ∨
          magic paid.reference = some .reorg ∧ ∃ checks : UInt32, app.rail.finality ≤ checks ∧
            reason = s!"reorganized: dropped after {checks.toNat - 1} confirmations") := by
  have sound := reached.justified listed
  unfold EventSound at sound
  constructor
  · intro id reference body
    rw [body] at sound
    obtain ⟨token, paid, ⟨named, reported⟩, -, -, own, pays, -, judged⟩ := sound
    obtain ⟨same, grounds⟩ := reached.grounds judged
    obtain ⟨count, enough, written, source⟩ := grounds.final
    dsimp only at same source
    subst same
    refine ⟨paid, own, pays, count, enough, written, ?_⟩
    obtain told | ⟨-, promised⟩ := source
    · rw [told] at judged
      exact .inl ⟨_, _, judged⟩
    · exact .inr promised
  · intro id reason body
    rw [body] at sound
    obtain ⟨token, paid, ⟨named, reported⟩, -, -, own, pays, -, judged⟩ := sound
    obtain ⟨same, grounds⟩ := reached.grounds judged
    dsimp only at same
    subst same
    refine ⟨paid, own, pays, ?_⟩
    obtain told | ⟨-, promised⟩ := grounds.failed
    · dsimp only at told
      rw [told] at judged
      exact .inl ⟨_, _, judged⟩
    · exact .inr promised

end Runs

theorem settlements_grounded_purchase :
    ∃ event ∈ (Sample.app.served 4096 Sample.purchase).tasks.shared.world.history,
      event.body = .settled "mock" "pay-1@3" ∧
      ∃ paid, paid.ctx = event.ctx ∧
        Pays (Sample.app.served 4096 Sample.purchase).tasks.shared.world.acts paid ∧
        ∃ count : UInt32, 2 ≤ count ∧ "pay-1@3" = s!"{paid.reference}@{count.toNat}" ∧
          (Told (Sample.app.served 4096 Sample.purchase).tasks.shared.world.acts "mock"
              paid.reference (.confirmations count) ∨
            magic paid.reference = some .ok ∧ count = 2) := by
  have settled : ((Sample.app.served 4096 Sample.purchase).tasks.shared.world.history.any
      fun event => decide (event.body = .settled "mock" "pay-1@3")) = true := by
    decide +kernel
  obtain ⟨event, listed, body⟩ := List.any_eq_true.mp settled
  have body := of_decide_eq_true body
  exact ⟨event, listed, body,
    (settlements_grounded (App.served_reachable Sample.purchase) listed).1 _ _ body⟩

/-- What the rail answered when it was asked about a payment, in order. -/
def asked (reference : String) (acts : List (Act MockProof Finality)) :
    List (Except RailError FinalityStatus) :=
  acts.filterMap fun
    | .judged _ finality expected answer =>
        if finality = ⟨reference, none⟩ ∧ expected.paymentReference = reference then some answer
        else none
    | .appended _ | .verified .. => none

/-- What the rail says of a payment that reorganizes after it was asked `before` times: one
more confirmation, until the next one would make it final. -/
def reorgAnswer (rail : SandboxRail) (before : Nat) : FinalityStatus :=
  if before + 1 < rail.finality.toNat then
    .pending s!"need {rail.finality.toNat} confirmations, have {before + 1}"
  else .failed s!"reorganized: dropped after {min before (UInt32.size - 2)} confirmations"

section Reorganizations

variable {rail : SandboxRail} {reference : String} {acts : List (Act MockProof Finality)}

theorem status_reorganized {checks : UInt32} {before : Nat}
    (counted : checks.toNat = min (before + 1) (UInt32.size - 1)) :
    rail.status reference (rail.reorganized checks) = reorgAnswer rail before := by
  have bound : rail.finality.toNat < UInt32.size := rail.finality.toNat_lt
  have least : rail.finality ≤ checks ↔ ¬ before + 1 < rail.finality.toNat := by
    rw [UInt32.le_iff_toNat_le, counted]
    simp only [UInt32.size] at bound ⊢
    omega
  unfold SandboxRail.reorganized reorgAnswer
  by_cases short : before + 1 < rail.finality.toNat
  · have same : checks.toNat = before + 1 := by
      simp only [UInt32.size] at bound counted
      omega
    rw [if_neg (by rw [least]; exact not_not.mpr short), if_pos short, SandboxRail.status,
      if_neg (by rw [least]; exact not_not.mpr short), same]
  · have same : checks.toNat - 1 = min before (UInt32.size - 2) := by
      simp only [UInt32.size] at bound counted ⊢
      omega
    rw [if_pos (least.mpr short), if_neg short, SandboxRail.status, same]

theorem asked_silent {more : List (Act MockProof Finality)}
    (silent : ∀ act ∈ more, isVerdict act = false) :
    asked reference (acts ++ more) = asked reference acts := by
  have none : asked reference more = [] := by
    refine List.filterMap_eq_nil_iff.mpr ?_
    intro act listed
    cases act with
    | judged => cases silent _ listed
    | appended | verified => rfl
  rw [asked, List.filterMap_append]
  exact (congrArg _ none).trans (List.append_nil _)

theorem asked_judged (id : String) (finality : Finality) (expected : SettlementExpectation)
    (answer : Except RailError FinalityStatus) :
    asked reference (acts ++ [.judged id finality expected answer]) =
      asked reference acts ++
        if finality = ⟨reference, none⟩ ∧ expected.paymentReference = reference then [answer]
        else [] := by
  rw [asked, List.filterMap_append]
  congr 1
  by_cases same : finality = ⟨reference, none⟩ ∧ expected.paymentReference = reference <;>
    simp [same]

/-- The memory and the answers given so far.  A reference that found no room never finds
any; one that did is counted. -/
inductive Remembered (rail : SandboxRail) (reference : String)
    (acts : List (Act MockProof Finality)) (memory : MemoryChecks) : Prop where
  | unknown (times : Nat) (absent : memory.checks.lookup (rail.id, reference) = none)
      (full : 0 < times → memory.capacity ≤ memory.checks.keys.card)
      (answers : asked reference acts = List.replicate times
        (.error (.unavailable (MemoryChecks.refusal memory.capacity reference))))
  | counted (times : Nat) (count : UInt32)
      (found : memory.checks.lookup (rail.id, reference) = some count)
      (counts : count.toNat = min times (UInt32.size - 1))
      (answers : asked reference acts =
        (List.range times).map fun before => .ok (reorgAnswer rail before))

section Remembers

variable {memory after : MemoryChecks}

/-- A question about something else changes neither the answers nor the count. -/
theorem Remembered.elsewhere {more : List (Act MockProof Finality)}
    (remembered : Remembered rail reference acts memory)
    (answers : asked reference more = asked reference acts)
    (capacity : after.capacity = memory.capacity)
    (kept : after.checks.lookup (rail.id, reference) = memory.checks.lookup (rail.id, reference))
    (grown : memory.checks.keys.card ≤ after.checks.keys.card) :
    Remembered rail reference more after := by
  cases remembered with
  | unknown times absent full given =>
      refine .unknown times (kept.trans absent) ?_ ?_
      · intro some_time
        rw [capacity]
        exact (full some_time).trans grown
      · rw [answers, given, capacity]
  | counted times count found counts given =>
      exact .counted times count (kept.trans found) counts (answers.trans given)

/-- One more question about the payment. -/
theorem Remembered.again (ending : magic reference = some .reorg)
    (remembered : Remembered rail reference acts memory) {id : String}
    {expected : SettlementExpectation} (same : expected.paymentReference = reference) :
    (rail.checkFinality memory ⟨reference, none⟩ expected).2.capacity = memory.capacity ∧
      Remembered rail reference
        (acts ++ [.judged id ⟨reference, none⟩ expected
          (rail.checkFinality memory ⟨reference, none⟩ expected).1])
        (rail.checkFinality memory ⟨reference, none⟩ expected).2 := by
  have grows : ∀ answer, asked reference (acts ++ [.judged id ⟨reference, none⟩ expected answer]) =
      asked reference acts ++ [answer] := by
    intro answer
    rw [asked_judged, if_pos ⟨rfl, same⟩]
  rw [SandboxRail.checkFinality_reorg ending same]
  obtain ⟨refuses, counted⟩ | ⟨after, room, capacity, inserted, counted⟩ :=
    memory.count_cases rail.id reference
  · rw [counted]
    refine ⟨rfl, ?_⟩
    cases remembered with
    | counted times count found counts given =>
        rw [refuses.1] at found
        cases found
    | unknown times absent full given =>
        refine .unknown (times + 1) absent (fun _ => refuses.2) ?_
        rw [grows, given, List.replicate_succ']
        rfl
  · rw [counted]
    refine ⟨capacity, ?_⟩
    have found : after.checks.lookup (rail.id, reference) =
        some (saturatingSucc ((memory.checks.lookup (rail.id, reference)).getD 0)) := by
      rw [inserted]
      exact Finmap.lookup_insert _
    cases remembered with
    | unknown times absent full given =>
        obtain rfl : times = 0 := by
          by_contra asked_before
          exact room ⟨absent, full (Nat.pos_of_ne_zero asked_before)⟩
        rw [absent] at found ⊢
        have one : (saturatingSucc ((none : Option UInt32).getD 0)).toNat =
            min (0 + 1) (UInt32.size - 1) := toNat_saturatingSucc 0
        refine .counted 1 _ found one ?_
        rw [grows, given]
        exact congrArg (fun status => [Except.ok status]) (status_reorganized one)
    | counted times count before counts given =>
        rw [before] at found ⊢
        have next : (saturatingSucc ((some count).getD 0)).toNat =
            min (times + 1) (UInt32.size - 1) := by
          rw [Option.getD_some, toNat_saturatingSucc, counts]
          omega
        refine .counted (times + 1) _ found next ?_
        rw [grows, given, List.range_succ, List.map_append]
        exact congrArg (fun status => _ ++ [Except.ok status]) (status_reorganized next)

/-- Any question to the rail. -/
theorem Remembered.judged (ending : magic reference = some .reorg)
    (remembered : Remembered rail reference acts memory) (id : String) (finality : Finality)
    (expected : SettlementExpectation) :
    (rail.checkFinality memory finality expected).2.capacity = memory.capacity ∧
      Remembered rail reference
        (acts ++ [.judged id finality expected (rail.checkFinality memory finality expected).1])
        (rail.checkFinality memory finality expected).2 := by
  by_cases own : finality = ⟨reference, none⟩ ∧ expected.paymentReference = reference
  · obtain ⟨rfl, same⟩ := own
    exact remembered.again ending same
  · have answers : asked reference (acts ++ [.judged id finality expected
        (rail.checkFinality memory finality expected).1]) = asked reference acts := by
      rw [asked_judged, if_neg own, List.append_nil]
    by_cases counts : finality.reported = none ∧ magic finality.reference = some .reorg ∧
        finality.reference = expected.paymentReference
    · obtain ⟨other, reported⟩ := finality
      obtain ⟨rfl, reorganizes, same⟩ := counts
      have different : other ≠ reference := by
        rintro rfl
        exact own ⟨rfl, same.symm⟩
      rw [SandboxRail.checkFinality_reorg reorganizes same.symm] at answers ⊢
      obtain ⟨-, counted⟩ | ⟨after, -, capacity, inserted, counted⟩ :=
        memory.count_cases rail.id other
      · rw [counted] at answers ⊢
        exact ⟨rfl, remembered.elsewhere answers rfl rfl le_rfl⟩
      · rw [counted] at answers ⊢
        refine ⟨capacity, remembered.elsewhere answers capacity ?_ ?_⟩
        · rw [inserted]
          exact Finmap.lookup_insert_of_ne _ (by simp [different.symm])
        · rw [inserted, Table.keys_insert]
          exact Finset.card_le_card (Finset.subset_insert _ _)
    · rw [SandboxRail.checkFinality_memory counts]
      exact ⟨rfl, remembered.elsewhere answers rfl rfl le_rfl⟩

end Remembers

/-- Asked again and again about a payment that reorganizes, the rail counts up to the
confirmation that would make it final, drops the payment there and never takes that back,
whatever else happens in between.  Only a payment it has no room to remember, because its
memory is full of others, it never answers for. -/
theorem reorg_timeline {Rid : Type} [DecidableEq Rid] {app : App} {capacity : Nat}
    {service : Service Rid} (reached : app.Reachable capacity service)
    (ending : magic reference = some .reorg) :
    ∃ times,
      (service.tasks.shared.checks.checks.lookup (app.rail.id, reference) = none ∧
        capacity ≤ service.tasks.shared.checks.checks.keys.card ∧
        asked reference service.tasks.shared.world.acts = List.replicate times
          (.error (.unavailable (MemoryChecks.refusal capacity reference)))) ∨
      asked reference service.tasks.shared.world.acts =
        (List.range times).map fun before => .ok (reorgAnswer app.rail before) := by
  have kept := reachable_spoken (fun acts memory => memory.capacity = capacity ∧
    Remembered app.rail reference acts memory) ?_ ?_ ?_ reached.tasks
  · obtain ⟨size, remembered⟩ := kept
    cases remembered with
    | unknown times absent full given =>
        rw [size] at full given
        by_cases before : 0 < times
        · exact ⟨times, .inl ⟨absent, full before, given⟩⟩
        · -- it was never asked
          obtain rfl : times = 0 := by omega
          exact ⟨0, .inr given⟩
    | counted times count found counts given => exact ⟨times, .inr given⟩
  · exact ⟨rfl, .unknown 0 rfl (by simp) rfl⟩
  · intro acts memory more remembered silent
    exact ⟨remembered.1, remembered.2.elsewhere (asked_silent silent) rfl rfl le_rfl⟩
  · intro acts memory id finality expected remembered
    obtain ⟨size, judged⟩ := remembered.2.judged ending id finality expected
    exact ⟨size.trans remembered.1, judged⟩

end Reorganizations

theorem reorg_timeline_dropped :
    (asked "pay-reorg" (Sample.app.served 4096 Sample.dropped).tasks.shared.world.acts).length = 2 ∧
    ∃ times,
      ((Sample.app.served 4096 Sample.dropped).tasks.shared.checks.checks.lookup
          (Sample.app.rail.id, "pay-reorg") = none ∧
        4096 ≤ (Sample.app.served 4096 Sample.dropped).tasks.shared.checks.checks.keys.card ∧
        asked "pay-reorg" (Sample.app.served 4096 Sample.dropped).tasks.shared.world.acts =
          List.replicate times
            (.error (.unavailable (MemoryChecks.refusal 4096 "pay-reorg")))) ∨
      asked "pay-reorg" (Sample.app.served 4096 Sample.dropped).tasks.shared.world.acts =
        (List.range times).map fun before => .ok (reorgAnswer Sample.app.rail before) :=
  ⟨by decide +kernel, reorg_timeline (App.served_reachable Sample.dropped) (by decide +kernel)⟩

end MandateLedger.Serve
