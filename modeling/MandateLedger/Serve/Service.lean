import MandateLedger.Serve.Handlers
import MandateLedger.Serve.Station

namespace MandateLedger.Serve

open MandateLedger.Core MandateLedger.Data MandateLedger.Memory MandateLedger.Process
  MandateLedger.Engine MandateLedger.Adapters

/-! # The running service

Requests arrive at any time and in any number.  One that is admitted needs a permit; with
none free it is turned away, otherwise its work runs on a blocking thread that holds the
permit until the work ends.  The request itself may stop waiting before that: it times
out, or its client leaves.  The work then goes on, and nobody hears of its result.
-/

/-- Work that has ended: the request it was for, what it asked the store and the rail
and was answered, and its result. -/
structure Task where
  http : Http
  exchanges : List (Exchange (Op MockProof Finality) Op.Answer)
  outcome : Outcome

/-- The work of a request, with the exchanges reported. -/
def task (http : Http) (work : Handler Body) :
    Program (Op MockProof Finality) Op.Answer Task :=
  (fun seen => ⟨http, seen.1, seen.2⟩) <$> work.run.observe

theorem task_erase (http : Http) (work : Handler Body) :
    Task.outcome <$> task http work = work.run := by
  rw [task, ← comp_map]
  exact Program.observe_erase _

def App.Tasks (app : App) (program : Program (Op MockProof Finality) Op.Answer Task) : Prop :=
  ∃ http work, app.admit http = .ok work ∧ program = task http work

/-- Where a request is: not yet here, waiting for its work, answered with an error that is
not the work's own, answered with what the work returned, or without a client. -/
inductive Phase where
  | absent
  | waiting (http : Http)
  | answered (http : Http) (error : ApiError)
  | finished (task : Task)
  | gone (http : Http)

/-- What `decide` returned to the request. -/
def Phase.outcome? : Phase → Option Outcome
  | .answered _ error => some (.error error)
  | .finished task => some task.outcome
  | .absent | .waiting _ | .gone _ => none

/-- The work the request was answered with. -/
def Phase.task? : Phase → Option Task
  | .finished task => some task
  | .absent | .waiting _ | .answered .. | .gone _ => none

theorem Phase.eq_finished {phase : Phase} {task : Task} (answered : phase.task? = some task) :
    phase = .finished task := by
  cases phase with
  | finished other =>
      cases answered
      rfl
  | absent | waiting | answered | gone => cases answered

/-- The end of the work reaches a request that still waits. -/
def Phase.hear (answer : Http → Phase) : Phase → Phase
  | .waiting http => answer http
  | other => other

theorem Phase.hear_eq_finished {phase : Phase} {answer : Http → Phase} {task : Task}
    (heard : phase.hear answer = .finished task) :
    phase = .finished task ∨ ∃ http, answer http = .finished task := by
  cases phase with
  | waiting http => exact .inr ⟨http, heard⟩
  | _ => exact .inl heard

/-- The work may outlive the request only so. -/
def Phase.leaves : Phase → Bool
  | .waiting _ | .gone _ | .answered _ .timeout => true
  | .absent | .answered .. | .finished _ => false

/-- The blocking threads over the store and the rail, the permits that are free, and the
requests. -/
structure Service (Rid : Type) where
  tasks : Config Rid Station (Op MockProof Finality) Op.Answer Task
  free : Nat
  requests : Rid → Phase

variable {Rid : Type}

/-- `App::new`, with room for `capacity` references in the rail's memory. -/
def Service.initial (app : App) (capacity : Nat) : Service Rid where
  tasks := .initial (.initial capacity)
  free := max app.permits 1
  requests := fun _ => .absent

section Steps

variable [DecidableEq Rid]

/-- One thing that happens to the service. -/
inductive Service.Step (app : App) : Service Rid → Service Rid → Prop where
  /-- A request is answered before `decide`. -/
  | reject {service : Service Rid} (rid : Rid) (http : Http) (error : ApiError)
      (fresh : service.requests rid = .absent) (rejected : app.admit http = .error error) :
      Step app service
        { service with
          requests := Function.update service.requests rid (.answered http error) }
  /-- `try_acquire_owned` finds no permit. -/
  | busy {service : Service Rid} (rid : Rid) (http : Http) (work : Handler Body)
      (fresh : service.requests rid = .absent) (admitted : app.admit http = .ok work)
      (full : service.free = 0) :
      Step app service
        { service with
          requests := Function.update service.requests rid (.answered http .busy) }
  /-- `spawn_blocking`, with the permit moved into the task. -/
  | start {service : Service Rid} (rid : Rid) (http : Http) (work : Handler Body) (left : Nat)
      (fresh : service.requests rid = .absent) (admitted : app.admit http = .ok work)
      (permit : service.free = left + 1) :
      Step app service
        { tasks := { service.tasks with
            threads := Function.update service.tasks.threads rid (some (task http work)) }
          free := left
          requests := Function.update service.requests rid (.waiting http) }
  /-- A task performs its next operation. -/
  | work {service : Service Rid} (rid : Rid) (op : Op MockProof Finality)
      (next : op.Answer → Program (Op MockProof Finality) Op.Answer Task) (answer : op.Answer)
      (after : Station) (running : service.tasks.threads rid = some (.call op next))
      (executed : service.tasks.shared.Exec app.externals app.rail op answer after) :
      Step app service
        { service with
          tasks := ⟨after, Function.update service.tasks.threads rid (some (next answer))⟩ }
  /-- A task returns, and drops its permit. -/
  | finish {service : Service Rid} (rid : Rid) (task : Task)
      (returned : service.tasks.threads rid = some (.done task)) :
      Step app service
        { tasks := { service.tasks with
            threads := Function.update service.tasks.threads rid none }
          free := service.free + 1
          requests := Function.update service.requests rid
            ((service.requests rid).hear fun _ => .finished task) }
  /-- A task panics, and drops its permit. -/
  | panic {service : Service Rid} (rid : Rid)
      (program : Program (Op MockProof Finality) Op.Answer Task) (cause : String)
      (running : service.tasks.threads rid = some program) :
      Step app service
        { tasks := { service.tasks with
            threads := Function.update service.tasks.threads rid none }
          free := service.free + 1
          requests := Function.update service.requests rid
            ((service.requests rid).hear fun http =>
              .answered http (.internal ("ledger task failed: " ++ cause))) }
  | timeout {service : Service Rid} (rid : Rid) (http : Http)
      (waits : service.requests rid = .waiting http) :
      Step app service
        { service with
          requests := Function.update service.requests rid (.answered http .timeout) }
  /-- The client closes the connection. -/
  | abandon {service : Service Rid} (rid : Rid) (http : Http)
      (waits : service.requests rid = .waiting http) :
      Step app service
        { service with requests := Function.update service.requests rid (.gone http) }

/-- The states of every run of the service from an empty store. -/
def App.Reachable (app : App) (capacity : Nat) (service : Service Rid) : Prop :=
  Relation.ReflTransGen (Service.Step app) (.initial app capacity) service

end Steps

/-- Who holds the permits.  Each one that is not free is held by a task, a request that
waits has its task, and one that has been answered has none, unless it timed out. -/
structure Service.Accounts (app : App) (service : Service Rid) (running : Finset Rid) : Prop where
  runs : ∀ rid, rid ∈ running ↔ (service.tasks.threads rid).isSome = true
  permits : running.card + service.free = max app.permits 1
  waits : ∀ rid http, service.requests rid = .waiting http → rid ∈ running
  leaves : ∀ rid ∈ running, (service.requests rid).leaves = true

section Permits

variable {app : App} {capacity : Nat} {service : Service Rid} {running : Finset Rid}

theorem Service.accounts_initial :
    (Service.initial app capacity : Service Rid).Accounts app ∅ where
  runs rid := by simp [Service.initial, Config.initial]
  permits := by simp [Service.initial]
  waits rid http waits := by cases waits
  leaves rid held := absurd held (Finset.notMem_empty rid)

theorem Service.Accounts.fresh (accounts : service.Accounts app running) {rid : Rid}
    (fresh : service.requests rid = .absent) : rid ∉ running := by
  intro held
  have leaves := accounts.leaves rid held
  rw [fresh] at leaves
  cases leaves

theorem Service.Accounts.idle (accounts : service.Accounts app running) {rid : Rid}
    (fresh : service.requests rid = .absent) : service.tasks.threads rid = none := by
  have absent := accounts.fresh fresh
  rw [accounts.runs] at absent
  simpa using absent

variable [DecidableEq Rid]

/-- One request and its task change. -/
theorem Service.Accounts.turns (accounts : service.Accounts app running) (rid : Rid)
    (phase : Phase) (shared : Station)
    (thread : Option (Program (Op MockProof Finality) Op.Answer Task)) {free : Nat}
    {after : Finset Rid} (others : ∀ other, other ≠ rid → (other ∈ after ↔ other ∈ running))
    (own : rid ∈ after ↔ thread.isSome = true)
    (permits : after.card + free = max app.permits 1)
    (waits : ∀ http, phase = .waiting http → rid ∈ after)
    (leaves : rid ∈ after → phase.leaves = true) :
    Service.Accounts app
      ⟨⟨shared, Function.update service.tasks.threads rid thread⟩, free,
        Function.update service.requests rid phase⟩ after := by
  refine ⟨?_, permits, ?_, ?_⟩
  · intro other
    by_cases same : other = rid
    · subst same
      simpa using own
    · simpa [same, others other same] using accounts.runs other
  · intro other http phased
    by_cases same : other = rid
    · subst same
      exact waits http (by simpa using phased)
    · simp only [Function.update_of_ne same] at phased
      exact (others other same).mpr (accounts.waits other http phased)
  · intro other held
    by_cases same : other = rid
    · subst same
      simpa using leaves held
    · simp only [Function.update_of_ne same]
      exact accounts.leaves other ((others other same).mp held)

/-- Only the request changes. -/
theorem Service.Accounts.phased (accounts : service.Accounts app running) {rid : Rid}
    {phase : Phase} (waits : ∀ http, phase = .waiting http → rid ∈ running)
    (leaves : rid ∈ running → phase.leaves = true) :
    Service.Accounts app
      { service with requests := Function.update service.requests rid phase } running := by
  have turned := accounts.turns rid phase service.tasks.shared _ (fun _ _ => Iff.rfl)
    (accounts.runs rid) accounts.permits waits leaves
  rw [Function.update_eq_self] at turned
  exact turned

/-- A task ends and gives its permit back. -/
theorem Service.Accounts.ends (accounts : service.Accounts app running) {rid : Rid}
    {answer : Http → Phase} (works : (service.tasks.threads rid).isSome = true)
    (answers : ∀ http other, answer http ≠ .waiting other) :
    Service.Accounts app
      { tasks := { service.tasks with
          threads := Function.update service.tasks.threads rid none }
        free := service.free + 1
        requests := Function.update service.requests rid ((service.requests rid).hear answer) }
      (running.erase rid) := by
  have held : rid ∈ running := (accounts.runs rid).mpr works
  refine accounts.turns rid _ _ none ?_ ?_ ?_ ?_ ?_
  · intro other different
    rw [Finset.mem_erase, and_iff_right different]
  · simp
  · have counted := Finset.card_erase_add_one held
    have permits := accounts.permits
    omega
  · intro http hears
    cases phase : service.requests rid with
    | waiting => exact absurd (by simpa [phase, Phase.hear] using hears) (answers _ http)
    | _ => simp [phase, Phase.hear] at hears
  · intro still
    exact absurd still (Finset.notMem_erase rid running)

/-- Every step moves at most one permit. -/
theorem Service.Step.accounts {after : Service Rid} (stepped : Service.Step app service after)
    (accounts : service.Accounts app running) : ∃ later, after.Accounts app later := by
  cases stepped with
  | reject rid http error fresh rejected =>
      refine ⟨running, accounts.phased (fun _ waits => by cases waits) ?_⟩
      exact fun held => absurd held (accounts.fresh fresh)
  | busy rid http work fresh admitted full =>
      refine ⟨running, accounts.phased (fun _ waits => by cases waits) ?_⟩
      exact fun held => absurd held (accounts.fresh fresh)
  | start rid http work left fresh admitted permit =>
      refine ⟨insert rid running, accounts.turns rid _ _ _ ?_ ?_ ?_ ?_ ?_⟩
      · intro other different
        rw [Finset.mem_insert, or_iff_right different]
      · simp
      · have permits := accounts.permits
        rw [Finset.card_insert_of_notMem (accounts.fresh fresh)]
        omega
      · exact fun _ _ => Finset.mem_insert_self rid running
      · exact fun _ => rfl
  | work rid op next answer shared works executed =>
      have held : rid ∈ running := (accounts.runs rid).mpr (by rw [works]; rfl)
      have turned := accounts.turns rid (service.requests rid) shared (some (next answer))
        (fun _ _ => Iff.rfl) (iff_of_true held rfl) accounts.permits (accounts.waits rid)
        (accounts.leaves rid)
      rw [Function.update_eq_self] at turned
      exact ⟨running, turned⟩
  | finish rid task returned =>
      exact ⟨_, accounts.ends (by rw [returned]; rfl) (fun _ _ waits => by cases waits)⟩
  | panic rid program cause works =>
      exact ⟨_, accounts.ends (by rw [works]; rfl) (fun _ _ waits => by cases waits)⟩
  | timeout rid http waits =>
      exact ⟨running, accounts.phased (fun _ waits => by cases waits) fun _ => rfl⟩
  | abandon rid http waits =>
      exact ⟨running, accounts.phased (fun _ waits => by cases waits) fun _ => rfl⟩

theorem App.Reachable.accounts (reached : app.Reachable capacity service) :
    ∃ running, service.Accounts app running := by
  induction reached with
  | refl => exact ⟨∅, Service.accounts_initial⟩
  | tail _ stepped ih =>
      obtain ⟨running, accounts⟩ := ih
      exact stepped.accounts accounts

/-- A permit is free or held by the one task that will give it back, and a request that
has its answer holds none, unless the answer is that it timed out. -/
theorem permits_conserved (reached : app.Reachable capacity service) :
    ∃ running : Finset Rid,
      (∀ rid, rid ∈ running ↔ (service.tasks.threads rid).isSome = true) ∧
      running.card + service.free = max app.permits 1 ∧
      ∀ rid outcome, (service.requests rid).outcome? = some outcome →
        outcome ≠ .error .timeout → rid ∉ running := by
  obtain ⟨running, accounts⟩ := reached.accounts
  refine ⟨running, accounts.runs, accounts.permits, ?_⟩
  intro rid outcome answered heard held
  have leaves := accounts.leaves rid held
  cases phase : service.requests rid with
  | absent | waiting | gone =>
      rw [phase] at answered
      cases answered
  | finished task =>
      rw [phase] at leaves
      cases leaves
  | answered http error =>
      rw [phase] at answered leaves
      cases error with
      | timeout =>
          cases answered
          exact heard rfl
      | _ => cases leaves

end Permits

/-- One request holds the only permit and another one is turned away. -/
theorem permits_conserved_crowded :
    ∃ service : Service Nat, Sample.app.Reachable 1 service ∧
      (service.requests 1).outcome? = some (.error .busy) ∧
      ∃ running : Finset Nat,
        (∀ rid, rid ∈ running ↔ (service.tasks.threads rid).isSome = true) ∧
        running.card + service.free = 1 ∧
        ∀ rid outcome, (service.requests rid).outcome? = some outcome →
          outcome ≠ .error .timeout → rid ∉ running := by
  have admitted : Sample.app.admit (Sample.keyed (.revocation "m-1")) =
      .ok (revocationWork Core.Sample.mandateId) := rfl
  have started : Sample.app.Reachable 1 _ := Relation.ReflTransGen.single
    (.start 0 _ _ 0 rfl admitted rfl)
  have reached : Sample.app.Reachable 1 _ := started.tail (.busy 1 _ _ rfl admitted rfl)
  exact ⟨_, reached, rfl, permits_conserved reached⟩

section Tasks

variable [DecidableEq Rid] {app : App} {capacity : Nat} {service after : Service Rid}
  {running : Finset Rid}

/-- To the store and the rail, a step of the service is a step of its tasks or none. -/
theorem Service.Step.tasks (stepped : Service.Step app service after)
    (accounts : service.Accounts app running) :
    after.tasks = service.tasks ∨
      Process.Step (semantics Rid app.externals app.rail) app.Tasks service.tasks after.tasks := by
  cases stepped with
  | reject | busy | timeout | abandon => exact .inl rfl
  | start rid http work left fresh admitted permit =>
      exact .inr (.spawn rid _ (accounts.idle fresh) ⟨http, work, admitted, rfl⟩)
  | work rid op next answer after running executed =>
      exact .inr (.call rid op next answer after running executed)
  | finish rid task returned => exact .inr (.halt rid _ rfl)
  | panic rid program cause running => exact .inr (.halt rid _ rfl)

theorem App.Reachable.tasks (reached : app.Reachable capacity service) :
    Process.Reachable (semantics Rid app.externals app.rail) app.Tasks (.initial capacity)
      service.tasks := by
  induction reached with
  | refl => exact .initial
  | tail reached stepped ih =>
      obtain ⟨running, accounts⟩ := App.Reachable.accounts reached
      obtain same | step := stepped.tasks accounts
      · rw [same]
        exact ih
      · exact ih.step step

/-- A request that has been answered was so before, or its task has just returned. -/
theorem Service.Step.finished (stepped : Service.Step app service after) {rid : Rid} {task : Task}
    (finished : after.requests rid = .finished task) :
    service.requests rid = .finished task ∨
      service.tasks.threads rid = some (.done task) ∧
        after.tasks.shared = service.tasks.shared := by
  -- whatever becomes of another request
  have others : ∀ {other : Rid} {phase : Phase},
      Function.update service.requests other phase rid = .finished task →
      phase ≠ .finished task ∨ rid ≠ other → service.requests rid = .finished task := by
    intro other phase updated different
    by_cases own : rid = other
    · subst own
      rw [Function.update_self] at updated
      exact absurd updated (different.resolve_right (not_not.mpr rfl))
    · rwa [Function.update_of_ne own] at updated
  cases stepped with
  | reject | busy | start | timeout | abandon => exact .inl (others finished (.inl (by simp)))
  | work => exact .inl finished
  | finish other value returned =>
      by_cases own : rid = other
      · subst own
        obtain before | ⟨http, same⟩ :=
          Phase.hear_eq_finished ((Function.update_self ..).symm.trans finished)
        · exact .inl before
        · cases same
          exact .inr ⟨returned, rfl⟩
      · exact .inl (others finished (.inr own))
  | panic other program cause running =>
      by_cases own : rid = other
      · subst own
        obtain before | ⟨http, same⟩ :=
          Phase.hear_eq_finished ((Function.update_self ..).symm.trans finished)
        · exact .inl before
        · cases same
      · exact .inl (others finished (.inr own))

variable {discipline : Discipline Rid Station} {Post : Rid → Task → Station → Prop}

/-- The tasks keep a discipline, and what they ensure when they return still holds of the
requests they were for. -/
structure Service.Kept (app : App) (discipline : Discipline Rid Station)
    (Post : Rid → Task → Station → Prop) (service : Service Rid) : Prop where
  tasks : service.tasks.Kept (semantics Rid app.externals app.rail) discipline Post
  finished : ∀ rid task, service.requests rid = .finished task →
    Post rid task service.tasks.shared

/-- The task has returned, whether or not its request still waits for it. -/
def Service.Returned (service : Service Rid) (rid : Rid) (task : Task) : Prop :=
  service.tasks.threads rid = some (.done task) ∨ service.requests rid = .finished task

omit [DecidableEq Rid] in
theorem Service.Kept.returned (kept : service.Kept app discipline Post) {rid : Rid}
    {task : Task} (returned : service.Returned rid task) : Post rid task service.tasks.shared := by
  obtain running | finished := returned
  · exact kept.tasks.running rid _ running
  · exact kept.finished rid task finished

/-- Every task keeps the discipline and ends in `Post`, which outlasts what the others do. -/
structure Service.Governed (app : App) (discipline : Discipline Rid Station)
    (Post : Rid → Task → Station → Prop) : Prop where
  idle : ∀ rid station, discipline.Idle rid station
  stable : ∀ rid task before after, discipline.Rely rid before after → discipline.Inv after →
    Post rid task before → Post rid task after
  started : ∀ http work, app.admit http = .ok work → ∀ rid station, discipline.Inv station →
    (task http work).Keeps (semantics Rid app.externals app.rail) discipline rid (Post rid) station

omit [DecidableEq Rid] in
theorem Service.Governed.sound (governed : Service.Governed app discipline Post) :
    discipline.Sound (semantics Rid app.externals app.rail) where
  env moved := moved.elim
  halt := by
    intro rid before after stopped kept
    cases stopped
    exact ⟨⟨kept, fun other _ => discipline.refl other _⟩, governed.idle rid _⟩

theorem Service.Step.keeps (governed : Service.Governed app discipline Post)
    (accounts : service.Accounts app running) (kept : service.Kept app discipline Post)
    (stepped : Service.Step app service after) : after.Kept app discipline Post := by
  constructor
  · obtain same | step := stepped.tasks accounts
    · rw [same]
      exact kept.tasks
    · refine step.keeps governed.sound governed.stable ?_ kept.tasks
      rintro _ ⟨http, work, admitted, rfl⟩ rid station holds -
      exact governed.started http work admitted rid station holds
  · intro rid task finished
    obtain before | ⟨returned, same⟩ := stepped.finished finished
    · have posted := kept.finished rid task before
      cases stepped with
      | reject | busy | start | timeout | abandon | finish | panic => exact posted
      | work other op next answer station works executed =>
          obtain ⟨permitted, -⟩ := kept.tasks.running other _ works _ (discipline.refl other _)
            kept.tasks.inv answer station executed
          refine governed.stable rid task _ _ (permitted.2 rid ?_) permitted.1 posted
          -- the one whose task works has not been answered
          rintro rfl
          have leaves := accounts.leaves rid ((accounts.runs rid).mpr (by rw [works]; rfl))
          rw [before] at leaves
          cases leaves
    · rw [same]
      exact kept.tasks.running rid _ returned

/-- What the tasks keep from some moment on. -/
theorem App.Reachable.keeps_on (governed : Service.Governed app discipline Post)
    (reached : app.Reachable capacity service) (kept : service.Kept app discipline Post)
    (steps : Relation.ReflTransGen (Service.Step app) service after) :
    after.Kept app discipline Post := by
  induction steps with
  | refl => exact kept
  | tail earlier stepped ih =>
      obtain ⟨running, accounts⟩ := App.Reachable.accounts (reached.trans earlier)
      exact stepped.keeps governed accounts ih

theorem App.Reachable.keeps (governed : Service.Governed app discipline Post)
    (base : discipline.Inv (.initial capacity)) (reached : app.Reachable capacity service) :
    service.Kept app discipline Post := by
  refine App.Reachable.keeps_on governed .refl ⟨⟨base, ?_, ?_⟩, ?_⟩ reached
  · intro rid idle
    exact governed.idle rid _
  · intro rid program running
    cases running
  · intro rid task finished
    cases finished

end Tasks

section Alone

variable [DecidableEq Rid] (app : App) (now : Timestamp) (service : Service Rid)

/-- A request whose work runs while no other does. -/
def Service.serve (rid : Rid) (http : Http) : Service Rid :=
  match app.admit http with
  | .error error =>
      { service with requests := Function.update service.requests rid (.answered http error) }
  | .ok work =>
      if service.free = 0 then
        { service with requests := Function.update service.requests rid (.answered http .busy) }
      else
        let (task, shared) := (task http work).run
          (fun station op => station.perform app.externals app.rail now op) service.tasks.shared
        { service with
          tasks := { service.tasks with shared := shared }
          requests := Function.update service.requests rid (.finished task) }

variable {app now service} {capacity : Nat}

/-- A task runs on alone until it returns. -/
theorem Service.works_steps (now : Timestamp) {earlier : Service Rid} {rid : Rid}
    {program : Program (Op MockProof Finality) Op.Answer Task}
    (steps : Relation.ReflTransGen (Service.Step app) earlier service)
    (running : service.tasks.threads rid = some program) :
    Relation.ReflTransGen (Service.Step app) earlier
      { service with
        tasks :=
          { shared := (program.run
              (fun station op => station.perform app.externals app.rail now op)
              service.tasks.shared).2
            threads := Function.update service.tasks.threads rid (some (.done (program.run
              (fun station op => station.perform app.externals app.rail now op)
              service.tasks.shared).1)) } } := by
  induction program generalizing service with
  | done task =>
      rw [Program.run_done, ← running, Function.update_eq_self]
      exact steps
  | call op next ih =>
      have stepped := steps.tail
        (.work rid op next _ _ running (service.tasks.shared.perform_exec _ _ now op))
      have finished := ih _ stepped (Function.update_self ..)
      rw [Function.update_idem] at finished
      exact finished

theorem App.Reachable.serve_steps (reached : app.Reachable capacity service) {rid : Rid}
    (fresh : service.requests rid = .absent) (http : Http) :
    Relation.ReflTransGen (Service.Step app) service (service.serve app now rid http) := by
  unfold Service.serve
  split
  · next error rejected => exact .single (.reject rid http error fresh rejected)
  · next work admitted =>
      split
      · next full => exact .single (.busy rid http work fresh admitted full)
      · next some_free =>
          obtain ⟨left, permit⟩ : ∃ left, service.free = left + 1 :=
            Nat.exists_eq_add_one_of_ne_zero some_free
          obtain ⟨running, accounts⟩ := reached.accounts
          have idle := accounts.idle fresh
          have started : Relation.ReflTransGen (Service.Step app) service _ :=
            .single (.start rid http work left fresh admitted permit)
          have worked := Service.works_steps now started (Function.update_self ..)
          have ended := worked.tail (.finish rid _ (Function.update_self ..))
          simp only [Function.update_idem, Function.update_self] at ended
          rw [← idle, Function.update_eq_self, ← permit] at ended
          exact ended

/-- The work that has returned is that of the request. -/
theorem Service.serve_http {rid : Rid} {http : Http} {task : Task}
    (finished : (service.serve app now rid http).requests rid = .finished task) :
    task.http = http := by
  unfold Service.serve at finished
  split at finished
  · simp at finished
  · next work admitted =>
      split at finished
      · simp at finished
      · simp only [Function.update_self, Phase.finished.injEq] at finished
        rw [← finished, Serve.task, map_eq_pure_bind, Program.run_bind]
        rfl

/-- Requests one after the other, the latest first, each numbered by those before it. -/
def App.served (app : App) (capacity : Nat) : List (Timestamp × Http) → Service Nat
  | [] => .initial app capacity
  | call :: earlier => (app.served capacity earlier).serve app call.1 earlier.length call.2

theorem Service.serve_requests {rid other : Rid} (http : Http)
    (different : other ≠ rid) :
    (service.serve app now rid http).requests other = service.requests other := by
  unfold Service.serve
  split
  · exact Function.update_of_ne different _ _
  · split <;> exact Function.update_of_ne different _ _

theorem App.served_absent (calls : List (Timestamp × Http)) {rid : Nat}
    (later : calls.length ≤ rid) : (app.served capacity calls).requests rid = .absent := by
  induction calls with
  | nil => rfl
  | cons call earlier ih =>
      rw [List.length_cons] at later
      rw [App.served, Service.serve_requests _ (by omega)]
      exact ih (by omega)

theorem App.served_reachable (calls : List (Timestamp × Http)) :
    app.Reachable capacity (app.served capacity calls) := by
  induction calls with
  | nil => exact .refl
  | cons call earlier ih =>
      exact ih.trans (App.Reachable.serve_steps ih (app.served_absent earlier le_rfl) call.2)

end Alone

namespace Sample

def cart : CartBody := ⟨"Shop ", ⟨"60.00", "USDC"⟩, none, [.number "1"], none⟩

def ctx : String := "ctx_a633697a19df9af75aaf1c10e9c81cca"

def pay (reference : String) (valid : Bool) : Http :=
  keyed (.payment ctx ⟨reference, ⟨"60.00", "USDC"⟩, none, none, none, false, valid⟩)

/-- A cart is authorized and paid, the latest request first. -/
def payment (reference : String) (valid : Bool) : List (Timestamp × Http) :=
  [(⟨11⟩, pay reference valid), (⟨10⟩, keyed (.authorize ⟨.null, cart, "k1"⟩))]

def settle (instant : Int64) (confirmations : Option UInt32) : Timestamp × Http :=
  (⟨instant⟩, keyed (.settlement ctx ⟨none, confirmations, none⟩))

/-- The operator reports three confirmations. -/
def purchase : List (Timestamp × Http) := settle 12 (some 3) :: payment "pay-1" true

/-- Nobody reports anything; the rail is asked three times. -/
def dropped : List (Timestamp × Http) :=
  settle 14 none :: settle 13 none :: settle 12 none :: payment "pay-reorg" true

end Sample

end MandateLedger.Serve
