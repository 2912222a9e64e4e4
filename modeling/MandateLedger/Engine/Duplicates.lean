import MandateLedger.Engine.Payments
import MandateLedger.Engine.Refusals
import MandateLedger.Process.Observed

namespace MandateLedger.Engine

open MandateLedger.Core MandateLedger.Data MandateLedger.Memory MandateLedger.Process

variable {Proof Evidence α β : Type}

section Race

variable (externals : Externals) (around : Bool → Surroundings Proof Evidence)
  (world : World Proof Evidence) (call : Program (Op Proof Evidence) Op.Answer β)

/-- An operation of one of two callers, each with a clock and a rail of its own. -/
def turn (caller : Bool) (world : World Proof Evidence) (op : Op Proof Evidence) :
    op.Answer × World Proof Evidence :=
  world.perform externals (around caller) op

/-- One call made twice at once, the two taking turns. -/
def raced (turns : List Bool) :
    Config Bool (World Proof Evidence) (Op Proof Evidence) Op.Answer β :=
  (Config.started world [(true, call), (false, call)]).schedule (turn externals around) turns

/-- Made one after the other, in either order, both calls return `value`. -/
def InSequence (value : β) : Prop :=
  ∀ first, (world.complete externals (around first) call).1 = value ∧
    ((world.complete externals (around first) call).2.complete externals (around !first) call).1 =
      value

/-- One call has returned before the other one reads the record, which is its
second operation. -/
def Apart (turns : List Bool) : Prop :=
  ∃ first earlier later, turns = earlier ++ later ∧
    ((raced externals around world call earlier).finished first).isSome = true ∧
    earlier.count (!first) ≤ 1

end Race

/-- The context stands where the step is taken from. -/
def AtSource (world : World Proof Evidence) : Request Proof Evidence → Prop
  | .recordPayment _ auth _ | .expire auth =>
      (world.inner.records.lookup auth.ctx).map Record.state = some .authorized
  | .recordSettlement _ paid _ =>
      (world.inner.records.lookup paid.ctx).map Record.state = some .paid
  | .compensate failed _ =>
      (world.inner.records.lookup failed.ctx).map Record.state = some .settlementFailed
  | .recordDelivery settled _ =>
      (world.inner.records.lookup settled.ctx).map Record.state = some .settled
  | _ => False

/-- There is nothing to write: the context has left the state that the step is taken from, or
the rail has not decided yet. -/
def Unchanged (world : World Proof Evidence) (request : Request Proof Evidence)
    (response : Response) : Prop :=
  ¬ AtSource world request ∨ isPending response = true

section Tables

variable {externals : Externals} {around : Surroundings Proof Evidence}
  {first second : World Proof Evidence}

theorem World.perform_inner (same : first.inner = second.inner) (op : Op Proof Evidence) :
    (first.perform externals around op).1 = (second.perform externals around op).1 ∧
      (first.perform externals around op).2.inner = (second.perform externals around op).2.inner := by
  obtain ⟨inner, acts⟩ := first
  obtain ⟨_, others⟩ := second
  cases same
  cases op <;> exact ⟨rfl, rfl⟩

/-- A call does not look at what the rails said before. -/
theorem World.complete_inner (same : first.inner = second.inner)
    (call : Program (Op Proof Evidence) Op.Answer β) :
    (first.complete externals around call).1 = (second.complete externals around call).1 ∧
      (first.complete externals around call).2.inner =
        (second.complete externals around call).2.inner := by
  induction call generalizing first second with
  | done value => exact ⟨rfl, same⟩
  | call op next ih =>
      obtain ⟨answered, left⟩ := World.perform_inner same op
      change (World.complete _ _ _ (next (first.perform externals around op).1)).1 = _ ∧
        (World.complete _ _ _ (next (first.perform externals around op).1)).2.inner = _
      rw [answered]
      exact ih _ left

end Tables

section Course

/-- The rest of a call after some turns, while the record is as it reads it. -/
inductive Course (decision : Decision Proof Evidence α) (record : Option Record)
    (around : Surroundings Proof Evidence) :
    Nat → Program (Op Proof Evidence) Op.Answer (Except LedgerError α) → Prop where
  | start : Course decision record around 0 decision.call.run
  | reads :
      Course decision record around 1
        (Ledger.record decision.ctx >>= fun record =>
          (decision.decide record).call decision.ctx around.now).run
  | consults (turns : Nat) :
      Course decision record around (turns + 2)
        ((decision.decide record).call decision.ctx around.now).run
  | concludes (turns : Nat) :
      Course decision record around (turns + 2)
        (((decision.decide record).resolve around).call decision.ctx around.now).run

variable {decision : Decision Proof Evidence α} {record : Option Record}
  {around : Surroundings Proof Evidence} {turns : Nat}
  {program : Program (Op Proof Evidence) Op.Answer (Except LedgerError α)}

/-- A call that is under way makes an operation that leaves the tables, or it is
done, or it is about to append. -/
theorem Course.cases (externals : Externals) (course : Course decision record around turns program)
    (decides : (∃ value, (decision.decide record).resolve around = .answer value) ∨
      ∃ submission, (decision.decide record).resolve around = .submit submission) :
    (∃ op next, program = .call op next ∧
      ∀ world : World Proof Evidence, world.inner.records.lookup decision.ctx = record →
        (world.perform externals around op).2.inner = world.inner ∧
          Course decision record around (turns + 1) (next (world.perform externals around op).1)) ∨
    (2 ≤ turns ∧ ∃ value, (decision.decide record).resolve around = .answer value ∧
      program = .done (.ok value)) ∨
    (2 ≤ turns ∧ ∃ submission, (decision.decide record).resolve around = .submit submission ∧
      program = ((Plan.submit submission).call decision.ctx around.now).run) := by
  have concluded : ∀ turns, 2 ≤ turns →
      program = (((decision.decide record).resolve around).call decision.ctx around.now).run →
      (2 ≤ turns ∧ ∃ value, (decision.decide record).resolve around = .answer value ∧
        program = .done (.ok value)) ∨
      (2 ≤ turns ∧ ∃ submission, (decision.decide record).resolve around = .submit submission ∧
        program = ((Plan.submit submission).call decision.ctx around.now).run) := by
    intro turns passed same
    obtain ⟨value, answers⟩ | ⟨submission, submits⟩ := decides
    · rw [answers] at same
      exact .inl ⟨passed, value, answers, same⟩
    · rw [submits] at same
      exact .inr ⟨passed, submission, submits, same⟩
  cases course with
  | start => exact .inl ⟨.now, _, rfl, fun world _ => ⟨rfl, .reads⟩⟩
  | reads =>
      refine .inl ⟨.record decision.ctx, _, rfl, fun world read => ⟨rfl, ?_⟩⟩
      have next : Course decision record around 2
          ((decision.decide (world.inner.records.lookup decision.ctx)).call decision.ctx
            around.now).run := by
        rw [read]
        exact .consults 0
      exact next
  | consults turns =>
      have passed : 2 ≤ turns + 2 := Nat.le_add_left 2 turns
      have after : Course decision record around (turns + 3)
          (((decision.decide record).resolve around).call decision.ctx around.now).run :=
        .concludes (turns + 1)
      cases consulted : decision.decide record with
      | outright plan =>
          refine .inr ?_
          rw [← consulted]
          refine concluded _ passed ?_
          rw [consulted]
          rfl
      | verify rail proof expected next =>
          rw [consulted] at after
          exact .inl ⟨.verifyProof rail proof expected, _, rfl, fun world _ => ⟨rfl, after⟩⟩
      | judge rail evidence expected next =>
          rw [consulted] at after
          exact .inl ⟨.checkFinality rail evidence expected, _, rfl, fun world _ => ⟨rfl, after⟩⟩
  | concludes turns => exact .inr (concluded _ (Nat.le_add_left 2 turns) rfl)

end Course

/-- A decision that submits one kind of event for one kind of value, from one state of the
context, and that answers only in other states or with a value that waits. -/
structure Decision.Steady (decision : Decision Proof Evidence α) (source : PaymentState)
    (Waits : α → Prop) : Prop where
  answers : ∀ {record around value}, (decision.decide record).resolve around = .answer value →
    record.map Record.state ≠ some source ∨ Waits value
  submits : ∀ {record around} {submission : Submission α},
    (decision.decide record).resolve around = .submit submission →
    record.map Record.state = some source ∧ ¬ Waits submission.value
  alike : ∀ {record first second} {one other : Submission α},
    (decision.decide record).resolve first = .submit one →
    (decision.decide record).resolve second = .submit other → one.value = other.value →
    one.body.resultingState = other.body.resultingState
  later : ∀ {record around} {submission : Submission α},
    (decision.decide record).resolve around = .submit submission →
    submission.body.resultingState ≠ some .authorized

theorem Decision.Steady.value_ne {decision : Decision Proof Evidence α} {source : PaymentState}
    {Waits : α → Prop} (steady : decision.Steady source Waits) {record : Option Record}
    {first second : Surroundings Proof Evidence} {value : α} {submission : Submission α}
    (answers : (decision.decide record).resolve first = .answer value)
    (submits : (decision.decide record).resolve second = .submit submission) :
    submission.value ≠ value := by
  rintro rfl
  obtain ⟨here, decided⟩ := steady.submits submits
  obtain left | waits := steady.answers answers
  · exact left here
  · exact decided waits

section Two

variable {externals : Externals} {around : Bool → Surroundings Proof Evidence}
  {world : World Proof Evidence} {decision : Decision Proof Evidence α} {value : α}
  {source : PaymentState} {Waits : α → Prop}

/-- What a call decides that finds the store as it is. -/
def Decision.plan (decision : Decision Proof Evidence α) (world : World Proof Evidence)
    (around : Surroundings Proof Evidence) : Plan α :=
  (decision.decide (world.inner.records.lookup decision.ctx)).resolve around

theorem plan_of_returned {around : Surroundings Proof Evidence}
    (returned : (world.complete externals around decision.call.run).1 = .ok value) :
    (decision.plan world around = .answer value ∧
      (world.complete externals around decision.call.run).2.traced = world.traced) ∨
    ∃ submission event tables, decision.plan world around = .submit submission ∧
      submission.value = value ∧
      world.inner.Writes externals.decimals decision.ctx around.now submission.body tables ∧
      Event.new externals (world.inner.prevHash decision.ctx) (world.inner.lastSeq + 1) decision.ctx
        around.now submission.body = .ok event ∧
      (world.complete externals around decision.call.run).2.traced =
        ⟨tables.log event, world.history ++ [event]⟩ := by
  have ended := world.complete_decision externals around decision
  rw [returned] at ended
  change Outcome _ _ _ _ (decision.plan world around) _ _ at ended
  generalize decision.plan world around = plan at ended ⊢
  generalize (world.complete externals around decision.call.run).2.traced = after at ended ⊢
  cases ended with
  | answered => exact .inl ⟨rfl, rfl⟩
  | submitted writes built => exact .inr ⟨_, _, _, rfl, rfl, writes, built, rfl⟩

/-- Neither call has written yet. -/
structure Quiet (decision : Decision Proof Evidence α) (around : Bool → Surroundings Proof Evidence)
    (world : World Proof Evidence) (turns : List Bool)
    (config : Config Bool (World Proof Evidence) (Op Proof Evidence) Op.Answer
      (Except LedgerError α)) : Prop where
  inner : config.shared.inner = world.inner
  course : ∀ caller, ∃ program, config.threads caller = some program ∧
    Course decision (world.inner.records.lookup decision.ctx) (around caller)
      (turns.count caller) program

/-- What the second call gets, by the number of operations it had made when the
first one appended. -/
def latecomer (ctx : ContextId) (target : PaymentState) (value : α) (made : Nat) :
    Except LedgerError α :=
  if made ≤ 1 then .ok value
  else .error (.store (.illegalTransition ctx (some target) target))

/-- One call has written. -/
structure Written (externals : Externals) (around : Bool → Surroundings Proof Evidence)
    (world : World Proof Evidence) (decision : Decision Proof Evidence α) (value : α)
    (winner : Bool) (made : Nat) (turns : List Bool) : Prop where
  read : 2 ≤ turns.count winner
  submits : ∃ submission, decision.plan world (around winner) = .submit submission
  returned : ∃ earlier later, turns = earlier ++ later ∧
    ((raced externals around world decision.call.run earlier).finished winner).isSome = true ∧
    earlier.count (!winner) = made
  decided : ∃ target, (raced externals around world decision.call.run turns).Decided
    (fun caller world op => world.perform externals (around caller) op) winner (.ok value)
    (latecomer decision.ctx target value made)

theorem raced_concat (call : Program (Op Proof Evidence) Op.Answer β) (turns : List Bool)
    (caller : Bool) :
    raced externals around world call (turns ++ [caller]) =
      (raced externals around world call turns).advance (turn externals around) caller :=
  Config.schedule_append _ _ _ _

theorem Quiet.start :
    Quiet decision around world [] (raced externals around world decision.call.run []) := by
  refine ⟨rfl, ?_⟩
  intro caller
  refine ⟨decision.call.run, ?_, .start⟩
  cases caller <;> rfl

section Turn

variable {turns : List Bool} {caller : Bool}
  {config : Config Bool (World Proof Evidence) (Op Proof Evidence) Op.Answer (Except LedgerError α)}

theorem Quiet.others {threads : Bool → Option (Program (Op Proof Evidence) Op.Answer
      (Except LedgerError α))} {after : World Proof Evidence}
    (quiet : Quiet decision around world turns config) (left : after.inner = config.shared.inner)
    (same : ∀ other, other ≠ caller → threads other = config.threads other)
    (course : ∃ program, threads caller = some program ∧
      Course decision (world.inner.records.lookup decision.ctx) (around caller)
        (turns.count caller + 1) program) :
    Quiet decision around world (turns ++ [caller]) ⟨after, threads⟩ := by
  refine ⟨left.trans quiet.inner, ?_⟩
  intro other
  rw [List.count_append]
  by_cases own : other = caller
  · subst own
    simpa using course
  · obtain ⟨program, found, along⟩ := quiet.course other
    refine ⟨program, (same other own).trans found, ?_⟩
    simpa [List.count_singleton, Ne.symm own] using along

theorem Quiet.advance {op : Op Proof Evidence}
    {next : op.Answer → Program (Op Proof Evidence) Op.Answer (Except LedgerError α)}
    (quiet : Quiet decision around world turns config)
    (running : config.threads caller = some (.call op next))
    (left : (config.shared.perform externals (around caller) op).2.inner = config.shared.inner)
    (course : Course decision (world.inner.records.lookup decision.ctx) (around caller)
      (turns.count caller + 1) (next (config.shared.perform externals (around caller) op).1)) :
    Quiet decision around world (turns ++ [caller])
      (config.advance (turn externals around) caller) := by
  rw [Config.advance_call running]
  refine quiet.others left ?_ ⟨_, Function.update_self .., course⟩
  intro other different
  exact Function.update_of_ne different _ _

theorem Quiet.done (quiet : Quiet decision around world turns config)
    (passed : 2 ≤ turns.count caller) (answers : decision.plan world (around caller) = .answer value)
    (done : config.threads caller = some (.done (.ok value))) :
    Quiet decision around world (turns ++ [caller])
      (config.advance (turn externals around) caller) := by
  rw [Config.advance_done done]
  refine quiet.others rfl (fun _ _ => rfl) ⟨_, done, ?_⟩
  obtain ⟨more, counted⟩ := Nat.exists_eq_add_of_le' passed
  rw [counted]
  have course : Course decision (world.inner.records.lookup decision.ctx) (around caller)
      (more + 1 + 2) ((decision.plan world (around caller)).call decision.ctx
        (around caller).now).run := .concludes (more + 1)
  rw [answers] at course
  exact course

theorem complete_consult (around : Surroundings Proof Evidence) (world : World Proof Evidence)
    (consult : Consult Proof Evidence α) (ctx : ContextId) :
    (world.complete externals around (consult.call ctx around.now).run).1 =
      (world.complete externals around ((consult.resolve around).call ctx around.now).run).1 := by
  cases consult with
  | outright plan => rfl
  | verify rail proof expected next =>
      have asked : (world.saw (.verified rail proof expected (around.verify rail proof expected))).inner =
        world.inner := rfl
      exact (World.complete_inner asked ((next _).call ctx around.now).run).1
  | judge rail evidence expected next =>
      have asked : (world.saw (.judged rail evidence expected (around.judge rail evidence expected))).inner =
        world.inner := rfl
      exact (World.complete_inner asked ((next _).call ctx around.now).run).1

/-- The machine has no step from a state to itself. -/
theorem complete_late {around : Surroundings Proof Evidence} {world : World Proof Evidence}
    {submission : Submission α} {ctx : ContextId} {record : Record}
    (found : world.inner.records.lookup ctx = some record)
    (moves : submission.body.resultingState = some record.state) :
    (world.complete externals around ((Plan.submit submission).call ctx around.now).run).1 =
      .error (.store (.illegalTransition ctx (some record.state) record.state)) := by
  have illegal : checkTransition (world.inner.records.lookup ctx) ctx record.state ≠ .ok () := by
    simp [checkTransition_eq_ok, found, PaymentState.not_canTransitionTo_self]
  rw [Plan.call, World.complete_bind, World.complete_append, World.append,
    Inner.append_illegal moves illegal, found]
  rfl

/-- A call overtaken before it has read the record finds the other one's event, and
one overtaken later does not. -/
theorem Course.overtaken {around : Surroundings Proof Evidence} {record : Option Record}
    {made : Nat} {program : Program (Op Proof Evidence) Op.Answer (Except LedgerError α)}
    {target : PaymentState} (course : Course decision record around made program)
    (fresh : (world.complete externals around decision.call.run).1 = .ok value)
    (stale : (world.complete externals around
      (((decision.decide record).resolve around).call decision.ctx around.now).run).1 =
        .error (.store (.illegalTransition decision.ctx (some target) target))) :
    (world.complete externals around program).1 = latecomer decision.ctx target value made := by
  cases course with
  | start => exact fresh
  | reads => exact fresh
  | consults turns => exact (complete_consult around world _ _).trans stale
  | concludes turns => exact stale

/-- One call appends its event: it returns, and what the other one will get
depends on how far it has come. -/
theorem Quiet.write {submission : Submission α} (steady : decision.Steady source Waits)
    (serial : InSequence externals around world decision.call.run (.ok value))
    (quiet : Quiet decision around world turns config)
    (submits : decision.plan world (around caller) = .submit submission)
    (running : config.threads caller =
      some ((Plan.submit submission).call decision.ctx (around caller).now).run) :
    ∃ target, (config.advance (turn externals around) caller).Decided (turn externals around) caller
      (.ok value) (latecomer decision.ctx target value (turns.count (!caller))) := by
  obtain ⟨returned, repeated⟩ := serial caller
  obtain ⟨answers, -⟩ | ⟨own, event, tables, decided, valued, writes, built, left⟩ :=
    plan_of_returned returned
  · rw [submits] at answers
    cases answers
  rw [submits] at decided
  cases decided
  have appended : config.shared.append externals decision.ctx (around caller).now submission.body =
      (.ok (.appended event), ⟨tables.log event, config.shared.acts ++ [.appended event]⟩) := by
    rw [World.append, quiet.inner, writes.appended built]
    rfl
  have tabled : tables.log event =
      (world.complete externals (around caller) decision.call.run).2.inner :=
    (congrArg Traced.inner left).symm
  -- the record has moved on
  obtain ⟨target, moves⟩ := Option.isSome_iff_exists.mp submission.changes
  have later : target ≠ .authorized := by
    intro first
    exact steady.later submits (first ▸ moves)
  obtain ⟨record, found, reached⟩ := writes.reaches moves later
  refine ⟨target, ?_⟩
  rw [Config.advance_call running]
  have step : turn externals around caller config.shared
      (.append decision.ctx (around caller).now submission.body) =
      (.ok (.appended event), ⟨tables.log event, config.shared.acts ++ [.appended event]⟩) := appended
  rw [step]
  obtain ⟨program, waiting, course⟩ := quiet.course (!caller)
  refine ⟨?_, program, ?_, ?_⟩
  · rw [← valued]
    exact Function.update_self ..
  · refine (Function.update_of_ne ?_ _ _).trans waiting
    cases caller <;> decide
  · refine course.overtaken ?_ ?_
    · rw [← repeated]
      exact (World.complete_inner tabled _).1
    · obtain ⟨answers, -⟩ | ⟨other, -, -, follows, same, -⟩ := plan_of_returned (serial !caller).1
      · exact absurd valued (steady.value_ne answers submits)
      · change (World.complete _ _ _ ((decision.plan world (around !caller)).call _ _).run).1 = _
        have also := steady.alike follows submits (same.trans valued.symm)
        rw [follows, ← reached]
        exact complete_late found (by rw [also, moves, reached])

end Turn

theorem Written.append {winner : Bool} {made : Nat} {turns : List Bool}
    (written : Written externals around world decision value winner made turns) (more : List Bool) :
    Written externals around world decision value winner made (turns ++ more) := by
  obtain ⟨earlier, later, rfl, returned, counted⟩ := written.returned
  obtain ⟨target, decided⟩ := written.decided
  refine ⟨written.read.trans (by simp), written.submits,
    ⟨earlier, later ++ more, by simp, returned, counted⟩, target, ?_⟩
  rw [raced, Config.schedule_append]
  exact decided.schedule more

/-- At every point of a race, nothing has been written or one call has won. -/
theorem raced_cases (steady : decision.Steady source Waits)
    (serial : InSequence externals around world decision.call.run (.ok value))
    (turns : List Bool) :
    Quiet decision around world turns (raced externals around world decision.call.run turns) ∨
      ∃ winner made, Written externals around world decision value winner made turns := by
  induction turns using List.reverseRecOn with
  | nil => exact .inl .start
  | append_singleton turns caller ih =>
      obtain quiet | ⟨winner, made, written⟩ := ih
      · obtain ⟨program, running, course⟩ := quiet.course caller
        have decides := plan_of_returned (serial caller).1
        have planned : (∃ value, decision.plan world (around caller) = .answer value) ∨
            ∃ submission, decision.plan world (around caller) = .submit submission := by
          obtain ⟨answers, -⟩ | ⟨submission, -, -, submits, -⟩ := decides
          · exact .inl ⟨_, answers⟩
          · exact .inr ⟨_, submits⟩
        rw [raced_concat]
        obtain ⟨op, next, rfl, keeps⟩ | ⟨passed, answer, answers, rfl⟩ |
          ⟨passed, submission, submits, rfl⟩ := course.cases externals planned
        · obtain ⟨left, along⟩ := keeps (raced externals around world decision.call.run turns).shared
            (by rw [quiet.inner])
          exact .inl (quiet.advance running left along)
        · exact .inl (quiet.done passed answers running)
        · refine .inr ⟨caller, turns.count (!caller), ?_⟩
          obtain ⟨target, decided⟩ := quiet.write steady serial submits running
          rw [← raced_concat] at decided
          refine ⟨?_, ⟨submission, submits⟩, ⟨turns ++ [caller], [], by simp, ?_, ?_⟩, target, decided⟩
          · exact passed.trans (by simp)
          · rw [Config.finished_of_threads decided.done]
            rfl
          · cases caller <;> simp
      · exact .inr ⟨winner, made, written.append [caller]⟩

variable {turns : List Bool}

theorem planned_of_serial (serial : InSequence externals around world decision.call.run (.ok value))
    (caller : Bool) :
    decision.plan world (around caller) = .answer value ∨
      ∃ submission, decision.plan world (around caller) = .submit submission ∧
        submission.value = value := by
  obtain ⟨answers, -⟩ | ⟨submission, -, -, submits, valued, -⟩ := plan_of_returned (serial caller).1
  · exact .inl answers
  · exact .inr ⟨submission, submits, valued⟩

theorem Quiet.answered {caller : Bool}
    (serial : InSequence externals around world decision.call.run (.ok value))
    (quiet : Quiet decision around world turns (raced externals around world decision.call.run turns))
    (returned : ((raced externals around world decision.call.run turns).finished caller).isSome = true) :
    decision.plan world (around caller) = .answer value ∧
      (raced externals around world decision.call.run turns).finished caller = some (.ok value) := by
  obtain ⟨result, finished⟩ := Option.isSome_iff_exists.mp returned
  obtain ⟨program, running, course⟩ := quiet.course caller
  cases running.symm.trans (Config.threads_of_finished finished)
  rw [finished]
  obtain answers | ⟨submission, submits, -⟩ := planned_of_serial serial caller
  · obtain ⟨_, _, waiting, -⟩ | ⟨-, other, again, done⟩ | ⟨-, submission, submits, -⟩ :=
      course.cases externals (.inl ⟨value, answers⟩)
    · cases waiting
    · cases answers.symm.trans again
      cases done
      exact ⟨answers, rfl⟩
    · cases answers.symm.trans submits
  · obtain ⟨_, _, waiting, -⟩ | ⟨-, other, answers, -⟩ | ⟨-, submission, -, waiting⟩ :=
      course.cases externals (.inr ⟨submission, submits⟩)
    · cases waiting
    · cases submits.symm.trans answers
    · cases waiting

theorem plan_ne_answer (steady : decision.Steady source Waits)
    (serial : InSequence externals around world decision.call.run (.ok value)) {caller : Bool}
    {submission : Submission α} (submits : decision.plan world (around caller) = .submit submission)
    (other : Bool) : decision.plan world (around other) ≠ .answer value := by
  intro answers
  obtain same | ⟨again, found, valued⟩ := planned_of_serial serial caller
  · cases submits.symm.trans same
  · exact steady.value_ne answers found valued

theorem plan_eq_answer_iff (steady : decision.Steady source Waits)
    (serial : InSequence externals around world decision.call.run (.ok value)) (caller : Bool) :
    decision.plan world (around caller) = .answer value ↔
      ¬ (world.inner.records.lookup decision.ctx).map Record.state = some source ∨ Waits value := by
  obtain answers | ⟨submission, submits, rfl⟩ := planned_of_serial serial caller
  · exact iff_of_true answers (steady.answers answers)
  · obtain ⟨here, decided⟩ := steady.submits submits
    refine iff_of_false (plan_ne_answer steady serial submits caller) ?_
    rintro (left | waits)
    · exact left here
    · exact decided waits

theorem Written.made_le {winner : Bool} {made : Nat}
    (written : Written externals around world decision value winner made turns) :
    made ≤ turns.count (!winner) := by
  obtain ⟨earlier, later, rfl, -, rfl⟩ := written.returned
  simp

/-- The two calls agree when there is nothing to write or they stay apart, and
otherwise one of them fails. -/
theorem Decision.raced_agree (steady : decision.Steady source Waits)
    (serial : InSequence externals around world decision.call.run (.ok value))
    (returned : ∀ caller,
      ((raced externals around world decision.call.run turns).finished caller).isSome = true) :
    ((decision.plan world (around true) = .answer value ∨
        Apart externals around world decision.call.run turns) ∧
      ∀ caller, (raced externals around world decision.call.run turns).finished caller =
        some (.ok value)) ∨
    (¬ (decision.plan world (around true) = .answer value ∨
        Apart externals around world decision.call.run turns) ∧
      ∃ loser source target,
        (raced externals around world decision.call.run turns).finished loser =
          some (.error (.store (.illegalTransition decision.ctx source target)))) := by
  obtain quiet | ⟨winner, made, written⟩ := raced_cases steady serial turns
  · exact .inl ⟨.inl (quiet.answered serial (returned true)).1,
      fun caller => (quiet.answered serial (returned caller)).2⟩
  · obtain ⟨target, decided⟩ := written.decided
    obtain ⟨won, lost⟩ := decided.finished (returned _)
    by_cases early : made ≤ 1
    · refine .inl ⟨.inr ?_, ?_⟩
      · obtain ⟨earlier, later, split, done, rfl⟩ := written.returned
        exact ⟨winner, earlier, later, split, done, early⟩
      · intro caller
        rw [latecomer, if_pos early] at lost
        by_cases own : caller = winner
        · rw [own, won]
        · rw [Bool.eq_not.mpr own, lost]
    · rw [latecomer, if_neg early] at lost
      refine .inr ⟨?_, !winner, _, _, lost⟩
      obtain ⟨submission, submits⟩ := written.submits
      have submitting := plan_ne_answer steady serial submits
      rintro (answers | ⟨first, earlier, later, rfl, done, few⟩)
      · exact submitting true answers
      · obtain quiet | ⟨other, before, overtook⟩ := raced_cases steady serial earlier
        · exact submitting first (quiet.answered serial done).1
        · by_cases own : other = first
          · subst own
            obtain ⟨_, decided⟩ := (overtook.append later).decided
            obtain ⟨won, agrees⟩ := decided.finished (returned _)
            rw [latecomer, if_pos (overtook.made_le.trans few)] at agrees
            by_cases same : winner = other
            · rw [same, agrees] at lost
              cases lost
            · rw [Bool.eq_not.mpr same, Bool.not_not, won] at lost
              cases lost
          · rw [← Bool.eq_not.mpr own] at few
            exact absurd overtook.read (by omega)

end Two

section Steps

variable (externals : Externals)

theorem payment_steady (ledger : Ledger) (auth : Authorized) (proof : Proof) :
    (payment externals ledger auth proof : Decision Proof Evidence Paid).Steady .authorized
      fun _ => False where
  answers answers := by
    obtain ⟨found, -, -, rfl, moved, -⟩ := payment_answers answers
    exact .inl fun opened => moved (Option.some.inj opened)
  submits submits := ⟨(payment_submits submits).1, not_false⟩
  alike first second _ := by
    obtain ⟨-, _, _, _, _, _, one, -⟩ := payment_submits first
    obtain ⟨-, _, _, _, _, _, other, -⟩ := payment_submits second
    rw [one, other]
    rfl
  later submits := by
    obtain ⟨-, _, _, _, _, _, body, -⟩ := payment_submits submits
    simp [body, EventBody.resultingState]

theorem settlement_steady (ledger : Ledger) (paid : Paid) (evidence : Evidence) :
    (settlement externals ledger paid evidence : Decision Proof Evidence Settlement).Steady .paid
      fun value => ∃ reason, value = .pending reason where
  answers answers := by
    obtain waits | ⟨found, rfl, ⟨_, earlier, -⟩ | ⟨_, earlier, -⟩⟩ := settlement_answers answers
    · exact .inr waits
    all_goals
      refine .inl fun state => ?_
      rw [Option.some.inj state] at earlier
      exact absurd earlier (by decide)
  submits submits := by
    obtain ⟨state, kind⟩ := settlement_submits submits
    refine ⟨state, ?_⟩
    rintro ⟨reason, waits⟩
    obtain ⟨_, _, -, same⟩ | ⟨_, _, -, same⟩ := kind <;> cases same.symm.trans waits
  alike first second same := by
    obtain ⟨-, ⟨_, _, one, left⟩ | ⟨_, _, one, left⟩⟩ := settlement_submits first <;>
      obtain ⟨-, ⟨_, _, other, right⟩ | ⟨_, _, other, right⟩⟩ := settlement_submits second <;>
      rw [left, right] at same <;> rw [one, other] <;> first | rfl | cases same
  later submits := by
    obtain ⟨-, ⟨_, _, body, -⟩ | ⟨_, _, body, -⟩⟩ := settlement_submits submits <;>
      simp [body, EventBody.resultingState]

theorem compensation_steady (failed : SettlementFailed) (reference : Option String) :
    (compensation failed reference : Decision Proof Evidence Compensated).Steady .settlementFailed
      fun _ => False where
  answers answers := by
    obtain ⟨found, rfl, compensated, -⟩ := compensation_answers answers
    simp [compensated]
  submits submits := ⟨(compensation_submits submits).1, not_false⟩
  alike first second _ := by
    rw [(compensation_submits first).2.1, (compensation_submits second).2.1]
  later submits := by
    simp [(compensation_submits submits).2.1, EventBody.resultingState]

theorem expiry_steady (auth : Authorized) :
    (expiry auth : Decision Proof Evidence Unit).Steady .authorized fun _ => False where
  answers answers := by
    obtain ⟨found, rfl, expired⟩ := expiry_answers answers
    simp [expired]
  submits submits := ⟨(expiry_submits submits).1, not_false⟩
  alike first second _ := by
    rw [(expiry_submits first).2, (expiry_submits second).2]
  later submits := by
    simp [(expiry_submits submits).2, EventBody.resultingState]

theorem delivery_steady (settled : Settled) (receipt : DeliveryReceipt) :
    (delivery settled receipt : Decision Proof Evidence Delivered).Steady .settled
      fun _ => False where
  answers answers := by
    obtain ⟨found, -, rfl, delivered, -⟩ := delivery_answers answers
    simp [delivered]
  submits submits := ⟨(delivery_submits submits).1, not_false⟩
  alike first second _ := by
    rw [(delivery_submits first).2.1, (delivery_submits second).2.1]
  later submits := by
    simp [(delivery_submits submits).2.1, EventBody.resultingState]

/-- The calls that carry a context on. -/
def isStep : Request Proof Evidence → Bool
  | .recordPayment .. | .recordSettlement .. | .compensate .. | .expire .. | .recordDelivery .. => true
  | _ => false

/-- How a call reports what became of its decision. -/
structure Reports (world : World Proof Evidence) (request : Request Proof Evidence)
    (decision : Decision Proof Evidence α) (report : Except LedgerError α → Response) : Prop where
  program : request.program externals = report <$> decision.call.run
  injective : Function.Injective report
  granted : ∀ value, responseError (report (.ok value)) = none
  failed : ∀ error, responseError (report (.error error)) = some error
  unchanged : ∃ source Waits, decision.Steady source Waits ∧ ∀ value,
    Unchanged world request (report (.ok value)) ↔
      ¬ (world.inner.records.lookup decision.ctx).map Record.state = some source ∨ Waits value

/-- Each of these calls is a decision, and reports what became of it. -/
theorem step_decides (world : World Proof Evidence) {request : Request Proof Evidence}
    (step : isStep request = true) :
    ∃ (α : Type) (decision : Decision Proof Evidence α) (report : Except LedgerError α → Response),
      Reports externals world request decision report := by
  cases request with
  | recordPayment ledger auth proof =>
      refine ⟨_, _, .recordPayment, ?_, fun _ _ => Response.recordPayment.inj, fun _ => rfl,
        fun _ => rfl, _, _, payment_steady externals ledger auth proof, fun _ => ?_⟩
      · rw [← recordPayment_eq]
        rfl
      · simp [Unchanged, AtSource, isPending, payment]
  | recordSettlement ledger paid evidence =>
      refine ⟨_, _, .recordSettlement, ?_, fun _ _ => Response.recordSettlement.inj, fun _ => rfl,
        fun _ => rfl, _, _, settlement_steady externals ledger paid evidence, ?_⟩
      · rw [← recordSettlement_eq]
        rfl
      · rintro (_ | _ | _) <;> simp [Unchanged, AtSource, isPending, settlement]
  | compensate failed reference =>
      refine ⟨_, _, .compensate, ?_, fun _ _ => Response.compensate.inj, fun _ => rfl,
        fun _ => rfl, _, _, compensation_steady failed reference, fun _ => ?_⟩
      · rw [← compensate_eq]
        rfl
      · simp [Unchanged, AtSource, isPending, compensation]
  | expire auth =>
      refine ⟨_, _, .expire, ?_, fun _ _ => Response.expire.inj, fun _ => rfl, fun _ => rfl,
        _, _, expiry_steady auth, fun _ => ?_⟩
      · rw [← expire_eq]
        rfl
      · simp [Unchanged, AtSource, isPending, expiry]
  | recordDelivery settled receipt =>
      refine ⟨_, _, .recordDelivery, ?_, fun _ _ => Response.recordDelivery.inj, fun _ => rfl,
        fun _ => rfl, _, _, delivery_steady settled receipt, fun _ => ?_⟩
      · rw [← recordDelivery_eq]
        rfl
      · simp [Unchanged, AtSource, isPending, delivery]
  | _ => cases step

end Steps

section Reports

variable {externals : Externals} {around : Bool → Surroundings Proof Evidence}
  {world : World Proof Evidence} {call : Program (Op Proof Evidence) Op.Answer α} {turns : List Bool}

theorem raced_map (report : α → β) :
    raced externals around world (report <$> call) turns =
      (raced externals around world call turns).map report := by
  unfold raced
  rw [← Config.schedule_map, ← Config.started_map]
  rfl

theorem World.complete_map (around : Surroundings Proof Evidence) (report : α → β) :
    world.complete externals around (report <$> call) =
      (report (world.complete externals around call).1, (world.complete externals around call).2) :=
  Program.run_bind _ call _ world

theorem apart_map (report : α → β) :
    Apart externals around world (report <$> call) turns ↔ Apart externals around world call turns := by
  simp only [Apart, raced_map, Config.finished_map, Option.isSome_map]

/-- Of two identical calls, made at once where one after the other they return the
same, both return it if and only if there was nothing to write or one has returned
before the other reads the record; and otherwise one of them is told of an illegal
transition. -/
theorem duplicates_agree_iff {request : Request Proof Evidence} {response : Response}
    (step : isStep request = true) (granted : responseError response = none)
    (serial : InSequence externals around world (request.program externals) response)
    (returned : ∀ caller,
      ((raced externals around world (request.program externals) turns).finished caller).isSome = true) :
    ((∀ caller, (raced externals around world (request.program externals) turns).finished caller =
        some response) ↔
      Unchanged world request response ∨
        Apart externals around world (request.program externals) turns) ∧
    ((∀ caller, ∀ result ∈ (raced externals around world (request.program externals) turns).finished
        caller, ∀ ctx source target,
          responseError result ≠ some (.store (.illegalTransition ctx source target))) ↔
      Unchanged world request response ∨
        Apart externals around world (request.program externals) turns) := by
  obtain ⟨α, decision, report, same, injective, ok, failed, source, Waits, steady, unchanged⟩ :=
    step_decides externals world step
  rw [same] at serial returned ⊢
  obtain ⟨value, rfl⟩ : ∃ value, response = report (.ok value) := by
    have first := (serial true).1
    rw [World.complete_map] at first
    cases result : (world.complete externals (around true) decision.call.run).1 with
    | ok value => exact ⟨value, by rw [← first, result]⟩
    | error error =>
        rw [← first, result, failed] at granted
        cases granted
  have alone : InSequence externals around world decision.call.run (.ok value) := by
    intro first
    obtain ⟨one, two⟩ := serial first
    simp only [World.complete_map] at one two
    exact ⟨injective one, injective two⟩
  simp only [raced_map, Config.finished_map, Option.isSome_map] at returned
  rw [apart_map, unchanged, ← plan_eq_answer_iff steady alone true, raced_map]
  simp only [Config.finished_map]
  obtain ⟨apart, agree⟩ | ⟨racing, loser, source, target, lost⟩ :=
    decision.raced_agree steady alone returned
  · refine ⟨iff_of_true ?_ apart, iff_of_true ?_ apart⟩
    · intro caller
      rw [agree caller]
      rfl
    · intro caller result found ctx source target
      rw [agree caller] at found
      cases found
      rw [ok]
      simp
  · refine ⟨iff_of_false ?_ racing, iff_of_false ?_ racing⟩
    · intro same
      have told := same loser
      rw [lost] at told
      cases injective (Option.some.inj told)
    · intro legal
      exact legal loser _ (by rw [lost]; rfl) decision.ctx source target (failed _)

end Reports

def sampleProof : Request Adapters.MockProof Adapters.MockFinality :=
  .recordPayment Adapters.Sample.ledger
    ⟨Sample.firstCtx, Sample.mandateId, Sample.cartHash, Sample.merchant, Sample.cents 6000⟩
    (.boundTo Sample.firstCtx "pay-1" (Sample.cents 6000))

def sampleReceipt : Response :=
  .recordPayment (.ok ⟨Sample.firstCtx, "mock", "pay-1", Sample.paymentKey⟩)

def sampleClocks (caller : Bool) : Surroundings Adapters.MockProof Adapters.MockFinality :=
  Adapters.Sample.rail.surroundings (if caller then ⟨11⟩ else ⟨12⟩)

theorem sampleProof_inSequence :
    InSequence Sample.externals sampleClocks openedPurchase
      (sampleProof.program Sample.externals) sampleReceipt := by
  intro first
  cases first <;> exact ⟨rfl, rfl⟩

/-- The first caller is done before the second one, which has only looked at its
clock, reads the record. -/
def sampleTurnsApart : List Bool := [false, true, true, true, true, false, false, false]

theorem sampleProof_agree :
    (raced Sample.externals sampleClocks openedPurchase (sampleProof.program Sample.externals)
        sampleTurnsApart).finished true = some sampleReceipt ∧
      (raced Sample.externals sampleClocks openedPurchase (sampleProof.program Sample.externals)
        sampleTurnsApart).finished false = some sampleReceipt := by
  have returned : ∀ caller, ((raced Sample.externals sampleClocks openedPurchase
      (sampleProof.program Sample.externals) sampleTurnsApart).finished caller).isSome = true := by
    intro caller
    cases caller <;> rfl
  have agree := (duplicates_agree_iff rfl rfl sampleProof_inSequence returned).1.mpr
    (.inr ⟨true, [false, true, true, true, true], [false, false, false], rfl, rfl, by decide⟩)
  exact ⟨agree true, agree false⟩

/-- Two payments with one proof are made at once: both find the context authorized,
and one of them fails. -/
theorem duplicate_payment_fails :
    Reachable Sample.externals {Adapters.Sample.ledger}
      (⟨openedPurchase, fun _ : Unit => none⟩ : Config ..) ∧
    InSequence Sample.externals sampleClocks openedPurchase
      (sampleProof.program Sample.externals) sampleReceipt ∧
    (raced Sample.externals sampleClocks openedPurchase (sampleProof.program Sample.externals)
      [true, false, true, false, true, false, true, false]).finished true = some sampleReceipt ∧
    (raced Sample.externals sampleClocks openedPurchase (sampleProof.program Sample.externals)
      [true, false, true, false, true, false, true, false]).finished false =
        some (.recordPayment (.error (.store
          (.illegalTransition Sample.firstCtx (some .paid) .paid)))) :=
  ⟨openedPurchase_reachable, sampleProof_inSequence, rfl, rfl⟩

end MandateLedger.Engine
