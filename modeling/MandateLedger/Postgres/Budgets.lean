import MandateLedger.Core.Reservations
import MandateLedger.Core.RustDecimal
import MandateLedger.Postgres.Transactions

namespace MandateLedger.Postgres

open MandateLedger.Core MandateLedger.Data MandateLedger.Process

section Totals

variable {ops : DecimalOps} {Recent : Option Money → Option Money → Prop}
  {tables after : Tables} {event : Event}

/-- What a commit does to reservations and records. -/
inductive TotalsStep (ops : DecimalOps) (Recent : Option Money → Option Money → Prop)
    (tables : Tables) (event : Event) (after : Tables) : Prop where
  | opened {mandate : Mandate} {cart : CartSnapshot} {requestKey : String} {next : Money}
      (body : event.body = .authorized mandate cart requestKey)
      (opens : Opens ops Recent tables event.ctx event.recordedAt mandate cart next)
      (reserved : after.reservations = tables.reservations.insert mandate.body.id next)
      (recorded : after.contexts = tables.contexts.insert event.ctx
        (Record.opened event.ctx mandate cart))
  | moved {record : Record} (unopened : event.body.resultingState ≠ some .authorized)
      (found : tables.contexts.lookup event.ctx = some record)
      (kept : ∀ mandate, liveAmount mandate (record.advance event.body) = liveAmount mandate record)
      (reserved : after.reservations = tables.reservations)
      (recorded : after.contexts = tables.contexts.insert event.ctx (record.advance event.body))
  | released {record : Record} {next : Money}
      (unopened : event.body.resultingState ≠ some .authorized)
      (found : tables.contexts.lookup event.ctx = some record)
      (live : record.state.isLive = true)
      (ended : ∀ mandate, liveAmount mandate (record.advance event.body) = 0)
      (given : releaseFrom ops (tables.reservations.lookup record.mandateId) record.mandateId
        record.amount = .ok next)
      (reserved : after.reservations = tables.reservations.insert record.mandateId next)
      (recorded : after.contexts = tables.contexts.insert event.ctx (record.advance event.body))
  | unchanged (unopened : event.body.resultingState ≠ some .authorized)
      (reserved : after.reservations = tables.reservations)
      (recorded : after.contexts = tables.contexts)

theorem Moves.unopened {ctx : ContextId} {body : EventBody} {target : PaymentState}
    {record : Record} (moves : Moves tables ctx body target record) :
    body.resultingState ≠ some .authorized := by
  rw [moves.moves]
  simpa using moves.later

theorem Moves.keeps {ctx : ContextId} {body : EventBody} {target : PaymentState}
    {record : Record} (moves : Moves tables ctx body target record)
    (plain : target = .paid ∨ target = .settled ∨ target = .compensated ∨ target = .delivered)
    (mandate : MandateId) :
    liveAmount mandate (record.advance body) = liveAmount mandate record :=
  liveAmount_advance_kept moves.moves moves.later (PaymentState.isLive_of_plain moves.legal plain)

theorem Commits.totals (commits : Commits ops Recent tables event after) :
    TotalsStep ops Recent tables event after := by
  cases commits with
  | authorized body opens => exact .opened body opens rfl rfl
  | claimed body moves free =>
      exact .moved moves.unopened moves.found (moves.keeps (by simp)) rfl rfl
  | replayed body moves own =>
      exact .moved moves.unopened moves.found (moves.keeps (by simp)) rfl rfl
  | moved moves plain =>
      exact .moved moves.unopened moves.found (moves.keeps (.inr plain)) rfl rfl
  | released moves giving given =>
      obtain ⟨live, ended⟩ := PaymentState.isLive_of_giving moves.legal giving
      refine .released moves.unopened moves.found live ?_ given rfl rfl
      intro mandate
      exact liveAmount_advance_released moves.moves moves.later ended
  | denied refused uncapped =>
      have unopened : event.body.resultingState ≠ some .authorized := by
        rw [EventBody.resultingState_eq_none.mpr refused]
        simp
      exact .unchanged unopened rfl rfl

theorem TotalsStep.backed {rel : ℚ → ℚ → Prop} (step : TotalsStep ops Recent tables event after)
    (exact : ops.Exact) (backed : Backed rel tables.reservations tables.contexts)
    (shift : ∀ {a b} c, rel a b → rel (c + a) (c + b))
    (trans : ∀ {a b c}, rel a b → rel b c → rel a c)
    (recent : ∀ held current, Recent held current →
      rel (reservedValue current) (reservedValue held)) :
    Backed rel after.reservations after.contexts := by
  cases step with
  | opened body opens reserved recorded =>
      obtain ⟨held, granted, earlier⟩ := opens.budget
      obtain ⟨sum, -, -, -⟩ := checkBudget_granted exact granted
      rw [reserved, recorded]
      exact backed.opened shift trans opens.absent (recent _ _ earlier) sum
  | moved unopened found kept reserved recorded =>
      rw [reserved, recorded]
      exact backed.moved found kept
  | released unopened found live ended given reserved recorded =>
      obtain ⟨current, held, -, -, rest, -⟩ := releaseFrom_eq_ok exact given
      rw [reserved, recorded]
      exact backed.released shift found live ended held rest
  | unchanged unopened reserved recorded =>
      rw [reserved, recorded]
      exact backed

end Totals

/-- Committing `t` leaves every reservation another open transaction has read. -/
def KeepsRead {Tid : Type} (db : Db Tid) (t : Tid) : Prop :=
  ∀ u, u ≠ t → ∀ mandate ∈ db.read u,
    (db.view t).reservations.lookup mandate = db.tables.reservations.lookup mandate

/-- The total that an append writes loses no digit. -/
def Tables.Precise (rounding : Rounding) (tables : Tables) (ctx : ContextId) : EventBody → Prop
  | .authorized mandate cart _ =>
      TotalFits rounding (tables.reservations.lookup mandate.body.id) cart.claims.total
  | .settlementFailed .. | .expired =>
      ∀ record ∈ tables.contexts.lookup ctx,
        RestFits (tables.reservations.lookup record.mandateId) record.amount
  | _ => True

/-- The commits of `t` after which the totals are exact. -/
structure Accounted {Tid : Type} (rounding : Rounding) (db : Db Tid) (t : Tid) : Prop where
  kept : KeepsRead db t
  precise : ∀ event ∈ (db.pending t).filterMap Write.event?,
    db.tables.Precise rounding event.ctx event.body

section Exact

variable {rounding : Rounding} {tables after : Tables} {event : Event}

theorem Tables.Precise.fits {record : Record} {target : PaymentState}
    (precise : tables.Precise rounding event.ctx event.body)
    (moves : Moves tables event.ctx event.body target record)
    (giving : target = .settlementFailed ∨ target = .expired) :
    RestFits (tables.reservations.lookup record.mandateId) record.amount := by
  have moved := moves.moves
  generalize event.body = body at precise moved
  cases body with
  | settlementFailed rail reason => exact precise record moves.found
  | expired => exact precise record moves.found
  | _ => cases moved <;> simp at giving

/-- A precise commit writes what it would write with exact arithmetic. -/
theorem Commits.corrected (commits : Commits (.rustDecimal rounding) Eq tables event after)
    (precise : tables.Precise rounding event.ctx event.body) :
    Commits (DecimalOps.rustDecimal rounding).corrected Eq tables event after := by
  cases commits with
  | @authorized mandate cart requestKey next body opens =>
      obtain ⟨held, granted, rfl⟩ := opens.budget
      rw [body] at precise
      refine .authorized body { opens with budget := ?_ }
      exact ⟨_, checkBudget_corrected precise granted, rfl⟩
  | released moves giving given =>
      exact .released moves giving (releaseFrom_corrected (precise.fits moves giving) given)
  | claimed body moves free => exact .claimed body moves free
  | replayed body moves own => exact .replayed body moves own
  | moved moves plain => exact .moved moves plain
  | denied refused uncapped => exact .denied refused uncapped

theorem Commits.pending {Tid : Type} {ops : DecimalOps}
    {Recent : Option Money → Option Money → Prop} {db : Db Tid} {t : Tid}
    (commits : Commits ops Recent db.tables event (db.view t)) :
    (db.pending t).filterMap Write.event? = [event] := by
  have logged := commits.logged
  rw [Db.view, Tables.foldl_apply_events] at logged
  exact List.append_cancel_left logged

end Exact

def exactTotals (Tid : Type) (rounding : Rounding) : Policy Tid where
  Body _ := True
  Inv tables := Backed (· = ·) tables.reservations tables.contexts
  Recent := Eq
  Allowed := Accounted rounding
  Result _ := True

theorem exactTotals_sound (Tid : Type) (externals : Externals) (rounding : Rounding) :
    (exactTotals Tid rounding).Sound (rustExternals externals rounding) where
  recent_refl _ := rfl
  recent_trans _ _ _ := Eq.trans
  empty _ := rfl
  append backed allowed _ appends := by
    have precise := allowed.precise _ (by rw [appends.commits.pending]; exact List.mem_singleton_self _)
    refine (appends.commits.corrected precise).totals.backed (DecimalOps.corrected_exact _) backed
      (fun c => congrArg (c + ·)) Eq.trans ?_
    rintro held _ rfl
    rfl
  revoke _ backed := backed
  release _ allowed _ _ written different looked := by
    rw [← allowed.kept _ different _ looked]
    exact written
  result _ := trivial
  released _ _ _ _ := trivial

/-- In every run in which no transaction commits a change of a reservation that
another open transaction has read, and no total that is committed loses a digit,
each mandate's reservation is the sum of the amounts of its live contexts. -/
theorem reachable_exactTotals {Tid : Type} [DecidableEq Tid] {hashtext : String → Int}
    {externals : Externals} {rounding : Rounding}
    {config : Config Tid (Db Tid) Statement Statement.Answer Reply}
    (reached : Reachable (semantics Tid (Accounted rounding))
      (Requests hashtext (rustExternals externals rounding) fun _ => True) .initial config) :
    Backed (· = ·) config.shared.tables.reservations config.shared.tables.contexts :=
  (Reachable.sound (exactTotals_sound Tid externals rounding) reached).1

namespace Sample

open Core.Sample

/-- 60.00 are authorized under a mandate over 100.00, then 30.00 while the first
purchase expires. -/
def purchases : List (Fin 4 × ContextId × EventBody) :=
  [ (0, firstCtx, .authorized (mandate alice) (cart.snapshot Core.Sample.sha256) "k1"),
    (1, secondCtx, .authorized (mandate alice) smallCart "k2"),
    (2, firstCtx, .expired) ]

instance (rounding : Rounding) (tables : Tables) (ctx : ContextId) (body : EventBody) :
    Decidable (tables.Precise rounding ctx body) :=
  match body with
  | .authorized mandate cart _ => inferInstanceAs (Decidable
      (TotalFits rounding (tables.reservations.lookup mandate.body.id) cart.claims.total))
  | .settlementFailed .. | .expired => inferInstanceAs (Decidable
      (∀ record ∈ tables.contexts.lookup ctx,
        RestFits (tables.reservations.lookup record.mandateId) record.amount))
  | .paid .. | .settled .. | .compensated .. | .delivered .. | .denied .. => .isTrue trivial

instance (rounding : Rounding) (db : Db (Fin 4)) (t : Fin 4) :
    Decidable (Accounted rounding db t) :=
  decidable_of_iff ((∀ u, u ≠ t → ∀ mandate ∈ db.read u,
      (db.view t).reservations.lookup mandate = db.tables.reservations.lookup mandate) ∧
      ∀ event ∈ (db.pending t).filterMap Write.event?,
        db.tables.Precise rounding event.ctx event.body)
    ⟨fun both => ⟨both.1, both.2⟩, fun accounted => ⟨accounted.kept, accounted.precise⟩⟩

/-- The libraries of the sample clients, with the arithmetic of the store. -/
def rust : Externals := rustExternals externals .halfEven

/-- The clients' purchases, under the commits that keep the totals exact and under all. -/
def accounted (turns : List (Fin 4)) : Config (Fin 4) (Db (Fin 4)) Statement Statement.Answer Reply :=
  run rust (Accounted .halfEven) purchases turns

def raced (libraries : Externals) (turns : List (Fin 4)) :
    Config (Fin 4) (Db (Fin 4)) Statement Statement.Answer Reply :=
  run libraries (fun _ _ => True) purchases turns

/-- The first purchase expires before the second authorization reads. -/
def orderly : List (Fin 4) :=
  List.replicate 13 0 ++ List.replicate 2 1 ++ List.replicate 10 2 ++ List.replicate 11 1

/-- The second authorization reads the reservation, the first purchase expires
and gives 60.00 back, the authorization commits. -/
def overtaken : List (Fin 4) :=
  List.replicate 13 0 ++ List.replicate 5 1 ++ List.replicate 10 2 ++ List.replicate 8 1

end Sample

theorem orderly_exactTotals :
    ((Sample.accounted Sample.orderly).shared.tables.contexts.lookup
        Core.Sample.firstCtx).map Record.state = some .expired ∧
      (Sample.accounted Sample.orderly).shared.tables.reservations.lookup
        Core.Sample.mandateId = some (Core.Sample.cents 3000) ∧
      Backed (· = ·) (Sample.accounted Sample.orderly).shared.tables.reservations
        (Sample.accounted Sample.orderly).shared.tables.contexts := by
  refine ⟨by decide +kernel, by decide +kernel, ?_⟩
  exact reachable_exactTotals (Sample.run_reachable Sample.rust (Accounted .halfEven) (by decide)
    (fun _ _ => trivial) Sample.orderly)

/-- The 60.00 that were given back stay reserved: the mandate's reservation is
90.00 and its only live context holds 30.00. -/
theorem overtaken_not_exactTotals :
    Reachable (semantics (Fin 4) fun _ _ => True)
        (Requests Sample.hashtext Sample.rust fun _ => True) .initial
        (Sample.raced Sample.rust Sample.overtaken) ∧
      ((Sample.raced Sample.rust Sample.overtaken).shared.tables.contexts.lookup
        Core.Sample.firstCtx).map Record.state = some .expired ∧
      (Sample.raced Sample.rust Sample.overtaken).shared.tables.reservations.lookup
        Core.Sample.mandateId = some (Core.Sample.cents 9000) ∧
      liveTotal Core.Sample.mandateId
        (Sample.raced Sample.rust Sample.overtaken).shared.tables.contexts = 30 ∧
      ¬ Backed (· = ·) (Sample.raced Sample.rust Sample.overtaken).shared.tables.reservations
        (Sample.raced Sample.rust Sample.overtaken).shared.tables.contexts := by
  refine ⟨Sample.run_reachable _ _ (by decide) (fun _ _ => trivial) _, by decide +kernel,
    by decide +kernel, by decide +kernel, ?_⟩
  intro backed
  exact absurd (backed Core.Sample.mandateId) (by decide +kernel)

/-- The reservation an authorization has read only goes down while it is open. -/
def Descends : Option Money → Option Money → Prop
  | none, none => True
  | some held, some current => current.currency = held.currency ∧ current.value ≤ held.value
  | _, _ => False

theorem Descends.refl (held : Option Money) : Descends held held := by
  cases held with
  | none => trivial
  | some money => exact ⟨rfl, le_rfl⟩

theorem Descends.trans {first second third : Option Money} (former : Descends first second)
    (latter : Descends second third) : Descends first third := by
  cases first <;> cases second <;> cases third <;>
    first
      | exact former
      | exact latter
      | exact former.elim
      | exact latter.elim
      | exact ⟨latter.1.trans former.1, latter.2.trans former.2⟩

theorem Descends.value {held current : Option Money} (descends : Descends held current) :
    reservedValue current ≤ reservedValue held := by
  cases held <;> cases current <;>
    first
      | exact le_rfl
      | exact descends.elim
      | exact descends.2

theorem Descends.some {held : Option Money} {current : Money}
    (descends : Descends held (some current)) :
    ∃ money, held = some money ∧ current.currency = money.currency := by
  cases held with
  | none => exact descends.elim
  | some money => exact ⟨money, rfl, descends.1⟩

/-- Every `Authorized` event of the mandate carries the cap. -/
def CappedAt (mandate : MandateId) (cap : Money) (events : List Event) : Prop :=
  ∀ event ∈ events, ∀ signed cart requestKey,
    event.body = .authorized signed cart requestKey → signed.body.id = mandate →
      signed.body.scope.maxTotal = some cap

theorem CappedAt.earlier {mandate : MandateId} {cap : Money} {events : List Event} {event : Event}
    (capped : CappedAt mandate cap (events ++ [event])) : CappedAt mandate cap events :=
  fun other listed => capped other (List.mem_append_left _ listed)

/-- What holds of the committed tables in every interleaving. -/
structure SafeTotals (tables : Tables) : Prop where
  covers : Backed (· ≤ ·) tables.reservations tables.contexts
  currency : Denominated tables.reservations tables.contexts
  records : ∀ ctx record, tables.contexts.lookup ctx = some record →
    0 ≤ record.amount.value ∧ EverAuthorized record.mandateId tables.events
  capped : ∀ mandate cap, CappedAt mandate cap tables.events →
    EverAuthorized mandate tables.events →
    ∃ total, tables.reservations.lookup mandate = some total ∧ total.currency = cap.currency ∧
      total.value ≤ cap.value

namespace SafeTotals

variable {ops : DecimalOps} {tables after : Tables} {event : Event}

theorem empty : SafeTotals .empty where
  covers _ := le_rfl
  currency _ _ found := by cases found
  records _ _ found := by cases found
  capped _ _ _ authorized := by simp [Tables.empty, EverAuthorized] at authorized

theorem records_later (safe : SafeTotals tables) (event : Event) {ctx : ContextId}
    {record : Record} (found : tables.contexts.lookup ctx = some record) :
    0 ≤ record.amount.value ∧ EverAuthorized record.mandateId (tables.events ++ [event]) := by
  obtain ⟨amount, authorized⟩ := safe.records ctx record found
  exact ⟨amount, everAuthorized_append.mpr (.inl authorized)⟩

theorem records_advanced (safe : SafeTotals tables) {record : Record}
    (found : tables.contexts.lookup event.ctx = some record)
    (recorded : after.contexts = tables.contexts.insert event.ctx (record.advance event.body)) :
    ∀ ctx stored, after.contexts.lookup ctx = some stored →
      0 ≤ stored.amount.value ∧
        EverAuthorized stored.mandateId (tables.events ++ [event]) := by
  intro ctx stored present
  rw [recorded, Table.lookup_insert_eq] at present
  split at present
  · cases present
    rw [Record.advance_amount, Record.advance_mandateId]
    exact safe.records_later event found
  · exact safe.records_later event present

theorem capped_lowered (safe : SafeTotals tables)
    (unopened : event.body.resultingState ≠ some .authorized)
    (lowered : ∀ mandate total, tables.reservations.lookup mandate = some total →
      ∃ next, after.reservations.lookup mandate = some next ∧ next.currency = total.currency ∧
        next.value ≤ total.value)
    (mandate : MandateId) (cap : Money) (capped : CappedAt mandate cap (tables.events ++ [event]))
    (authorized : EverAuthorized mandate (tables.events ++ [event])) :
    ∃ total, after.reservations.lookup mandate = some total ∧ total.currency = cap.currency ∧
      total.value ≤ cap.value := by
  obtain ⟨total, held, currency, below⟩ :=
    safe.capped mandate cap capped.earlier ((everAuthorized_moved unopened).mp authorized)
  obtain ⟨next, present, same, less⟩ := lowered mandate total held
  exact ⟨next, present, same.trans currency, less.trans below⟩

/-- An authorization writes a total within its mandate's cap. -/
theorem capped_opened (safe : SafeTotals tables) {signed : Mandate} {cart : CartSnapshot}
    {requestKey : String} {next : Money}
    (body : event.body = .authorized signed cart requestKey)
    (limited : ∀ cap, signed.body.scope.maxTotal = some cap →
      next.currency = cap.currency ∧ next.value ≤ cap.value)
    (reserved : after.reservations = tables.reservations.insert signed.body.id next)
    (mandate : MandateId) (cap : Money) (capped : CappedAt mandate cap (tables.events ++ [event]))
    (authorized : EverAuthorized mandate (tables.events ++ [event])) :
    ∃ total, after.reservations.lookup mandate = some total ∧ total.currency = cap.currency ∧
      total.value ≤ cap.value := by
  rw [reserved, Table.lookup_insert_eq]
  by_cases own : mandate = signed.body.id
  · have limit := capped event (by simp) signed cart requestKey body own.symm
    exact ⟨next, if_pos own, limited cap limit⟩
  · have before : EverAuthorized mandate tables.events := by
      rcases everAuthorized_append.mp authorized with before | ⟨other, _, _, same, under⟩
      · exact before
      · rw [body] at same
        cases same
        exact absurd under.symm own
    rw [if_neg own]
    exact safe.capped mandate cap capped.earlier before

theorem commit (safe : SafeTotals tables) (exact : ops.Exact)
    (nonnegative : ∀ signed cart requestKey,
      event.body = .authorized signed cart requestKey → 0 ≤ cart.claims.total.value)
    (commits : Commits ops Descends tables event after) : SafeTotals after := by
  have covers := commits.totals.backed exact safe.covers (fun c less => by linarith) le_trans
    (fun _ _ => Descends.value)
  have logged := commits.logged
  cases commits.totals with
  | @opened signed cart requestKey next body opens reserved recorded =>
      obtain ⟨held, granted, recent⟩ := opens.budget
      obtain ⟨-, currency, compatible, limited⟩ := checkBudget_granted exact granted
      refine ⟨covers, ?_, ?_, logged ▸ safe.capped_opened body limited reserved⟩
      · rw [reserved, recorded]
        refine safe.currency.opened currency ?_
        intro current present
        rw [present] at recent
        obtain ⟨money, rfl, same⟩ := recent.some
        rw [same, compatible money rfl, currency]
      · intro ctx record found
        rw [recorded, Table.lookup_insert_eq] at found
        rw [logged]
        split at found
        · cases found
          refine ⟨nonnegative signed cart requestKey body, everAuthorized_append.mpr (.inr ?_)⟩
          exact ⟨signed, cart, requestKey, body, rfl⟩
        · exact safe.records_later event found
  | @moved record unopened found kept reserved recorded =>
      refine ⟨covers, ?_, logged ▸ safe.records_advanced found recorded,
        logged ▸ safe.capped_lowered unopened ?_⟩
      · rw [reserved, recorded]
        exact safe.currency.moved found
      · intro mandate total held
        exact ⟨total, reserved ▸ held, rfl, le_rfl⟩
  | @released record next unopened found live ended given reserved recorded =>
      obtain ⟨current, held, -, currency, rest, -⟩ := releaseFrom_eq_ok exact given
      have amount := (safe.records _ _ found).1
      refine ⟨covers, ?_, logged ▸ safe.records_advanced found recorded,
        logged ▸ safe.capped_lowered unopened ?_⟩
      · rw [reserved, recorded]
        exact (safe.currency.insert held currency).moved found
      · intro mandate total before
        rw [reserved, Table.lookup_insert_eq]
        by_cases own : mandate = record.mandateId
        · rw [own, held] at before
          cases before
          exact ⟨next, if_pos own, currency, by linarith⟩
        · exact ⟨total, (if_neg own).trans before, rfl, le_rfl⟩
  | unchanged unopened reserved recorded =>
      refine ⟨covers, ?_, ?_, logged ▸ safe.capped_lowered unopened ?_⟩
      · rw [reserved, recorded]
        exact safe.currency
      · rw [recorded, logged]
        exact fun ctx record => safe.records_later event
      · intro mandate total held
        exact ⟨total, reserved ▸ held, rfl, le_rfl⟩

end SafeTotals

/-- Appends as `Scope::admits` lets them through: no negative amount. -/
def NonnegativeBody (body : EventBody) : Prop :=
  ∀ signed cart requestKey, body = .authorized signed cart requestKey →
    0 ≤ cart.claims.total.value

def safeTotals (Tid : Type) : Policy Tid where
  Body := NonnegativeBody
  Inv := SafeTotals
  Recent := Descends
  Allowed _ _ := True
  Result result := ∀ message, result ≠ .error (.corrupt message)

theorem safeTotals_sound (Tid : Type) {externals : Externals}
    (exact : externals.decimals.Exact) : (safeTotals Tid).Sound externals where
  recent_refl := Descends.refl
  recent_trans _ _ _ := Descends.trans
  empty := .empty
  append safe _ body appends := safe.commit exact body appends.commits
  revoke _ safe := ⟨safe.covers, safe.currency, safe.records, safe.capped⟩
  release safe _ moves given _ _ _ := by
    obtain ⟨current, held, -, currency, rest, -⟩ := releaseFrom_eq_ok exact given
    have amount := (safe.records _ _ moves.found).1
    rw [held]
    exact ⟨currency, by linarith⟩
  result fine := fine
  released safe moves giving failed := by
    obtain ⟨live, -⟩ := PaymentState.isLive_of_giving moves.legal giving
    obtain ⟨next, given⟩ := releaseFrom_backed exact safe.covers safe.currency id
      (fun ctx record found => (safe.records ctx record found).1) moves.found live
    rw [given] at failed
    cases failed

/-- The budgets of the committed tables, and the releases clients asked for. -/
structure BudgetsHold {Tid : Type}
    (config : Config Tid (Db Tid) Statement Statement.Answer Reply) : Prop where
  capped : ∀ mandate cap, CappedAt mandate cap config.shared.tables.events →
    EverAuthorized mandate config.shared.tables.events ∨ 0 ≤ cap.value →
      liveTotal mandate config.shared.tables.contexts ≤ cap.value
  currency : ∀ mandate cap, CappedAt mandate cap config.shared.tables.events →
    ∀ ctx record, config.shared.tables.contexts.lookup ctx = some record →
      record.mandateId = mandate → record.amount.currency = cap.currency
  released : ∀ t message, config.finished t ≠ some (.append (.error (.corrupt message)))

/-- In every interleaving of appends and revocations each mandate's live
contexts stay within the cap, and no release fails. -/
theorem reachable_budgetsHold {Tid : Type} [DecidableEq Tid] {hashtext : String → Int}
    {externals : Externals} {config : Config Tid (Db Tid) Statement Statement.Answer Reply}
    (exact : externals.decimals.Exact)
    (reached : Reachable (semantics Tid fun _ _ => True)
      (Requests hashtext externals NonnegativeBody) .initial config) : BudgetsHold config := by
  obtain ⟨safe, -, replies⟩ := Reachable.sound (safeTotals_sound Tid exact) reached
  constructor
  · intro mandate cap capped given
    by_cases authorized : EverAuthorized mandate config.shared.tables.events
    · obtain ⟨total, held, -, below⟩ := safe.capped mandate cap capped authorized
      have covered := safe.covers mandate
      rw [held] at covered
      exact le_trans covered below
    · -- without an authorization there is no context to count
      have empty : liveTotal mandate config.shared.tables.contexts = 0 := by
        refine Table.total_eq_zero ?_
        intro ctx record found
        have other : record.mandateId ≠ mandate := by
          rintro rfl
          exact authorized (safe.records ctx record found).2
        simp [liveAmount, other]
      rw [empty]
      exact given.resolve_left authorized
  · rintro mandate cap capped ctx record found rfl
    obtain ⟨total, held, same, -⟩ :=
      safe.capped record.mandateId cap capped (safe.records ctx record found).2
    obtain ⟨money, present, currency⟩ := safe.currency ctx record found
    rw [held] at present
    cases present
    exact currency.trans same
  · intro t message returned
    exact (replies t _ returned).2 message rfl

/-- The cap of 100.00 holds in the race that loses 60.00. -/
theorem overtaken_budgetsHold :
    ((Sample.raced Sample.externals Sample.overtaken).shared.tables.contexts.lookup
        Core.Sample.firstCtx).map Record.state = some .expired ∧
      ((Sample.raced Sample.externals Sample.overtaken).shared.tables.contexts.lookup
        Core.Sample.secondCtx).map Record.state = some .authorized ∧
      BudgetsHold (Sample.raced Sample.externals Sample.overtaken) := by
  refine ⟨by decide +kernel, by decide +kernel, ?_⟩
  refine reachable_budgetsHold DecimalOps.aligned_exact
    (Sample.run_reachable _ _ (by decide) ?_ Sample.overtaken)
  intro request listed signed cart requestKey body
  simp only [Sample.purchases, List.mem_cons, List.not_mem_nil, or_false] at listed
  rcases listed with rfl | rfl | rfl
  · cases body
    decide +kernel
  · cases body
    decide +kernel
  · cases body

end MandateLedger.Postgres
