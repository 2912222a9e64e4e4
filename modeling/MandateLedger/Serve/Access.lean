import MandateLedger.Serve.Outcomes
import MandateLedger.Serve.Service

namespace MandateLedger.Serve

open MandateLedger.Core MandateLedger.Data MandateLedger.Memory MandateLedger.Process
  MandateLedger.Engine MandateLedger.Adapters

/-- The header is the scheme in any case, any blanks, and the key. -/
def Presents (header : Option Bytes) (key : String) : Prop :=
  ∃ scheme padding : Bytes, header = some (scheme ++ (padding ++ utf8 key)) ∧
    scheme.map toAsciiLowercase = bearerScheme ∧ ∀ byte ∈ padding, isAsciiWhitespace byte = true

/-- A key as the configuration has it, without a blank in front. -/
def Unpadded (key : String) : Prop :=
  ∀ byte ∈ (utf8 key).head?, isAsciiWhitespace byte = false

theorem bearerScheme_length : bearerScheme.length = 7 := by decide

theorem bearer_of_scheme {scheme rest : Bytes}
    (named : scheme.map toAsciiLowercase = bearerScheme) :
    bearer (scheme ++ rest) = some (rest.dropWhile isAsciiWhitespace) := by
  have seven : scheme.length = 7 := by
    rw [← List.length_map toAsciiLowercase, named, bearerScheme_length]
  unfold bearer
  rw [if_neg (by simp only [List.length_append]; omega), List.take_left' seven,
    List.drop_left' seven, if_pos named]

/-- The token that follows the scheme and the blanks. -/
theorem bearer_eq_some {header token : Bytes} (read : bearer header = some token) :
    ∃ scheme padding : Bytes, header = scheme ++ (padding ++ token) ∧
      scheme.map toAsciiLowercase = bearerScheme ∧
      ∀ byte ∈ padding, isAsciiWhitespace byte = true := by
  unfold bearer at read
  split at read
  · cases read
  · split at read
    · next named =>
        cases read
        refine ⟨header.take 7, (header.drop 7).takeWhile isAsciiWhitespace, ?_, named, ?_⟩
        · rw [List.takeWhile_append_dropWhile, List.take_append_drop]
        · intro byte listed
          exact List.mem_takeWhile_imp listed
    · cases read

theorem dropWhile_padding {padding rest : Bytes}
    (blanks : ∀ byte ∈ padding, isAsciiWhitespace byte = true)
    (starts : ∀ byte ∈ rest.head?, isAsciiWhitespace byte = false) :
    (padding ++ rest).dropWhile isAsciiWhitespace = rest := by
  rw [List.dropWhile_append_of_pos blanks]
  cases rest with
  | nil => rfl
  | cons byte rest => simp [starts byte (by simp)]

namespace ApiKeys

variable {sha256 : Bytes → Hash32} {keys : ApiKeys}

theorem digestAll_eq_ok {index : Nat} {configured : List String} {digests : List Hash32}
    (made : digestAll sha256 index configured = .ok digests) :
    digests = configured.map fun key => sha256 (utf8 key) := by
  induction configured generalizing index digests with
  | nil =>
      cases made
      rfl
  | cons key rest ih =>
      unfold digestAll at made
      split at made
      · cases made
      · obtain ⟨others, digested, returned⟩ := bind_eq_ok.mp made
        cases pure_eq_ok.mp returned
        rw [ih digested, List.map_cons]

theorem new_eq_ok {configured : List String} (made : new sha256 configured = .ok keys) :
    keys.digests = configured.map fun key => sha256 (utf8 key) := by
  obtain ⟨digests, digested, returned⟩ := bind_eq_ok.mp made
  split at returned
  · cases returned
  · cases pure_eq_ok.mp returned
    exact digestAll_eq_ok digested

theorem foldl_matched (digests : List Hash32) (digest : Hash32) (found : Bool) :
    digests.foldl (fun matched known => matched || known == digest) found =
      (found || digests.contains digest) := by
  induction digests generalizing found with
  | nil => simp
  | cons known rest ih =>
      rw [List.foldl_cons, ih, List.contains_cons, Bool.or_assoc, Bool.beq_comm]

/-- A key is accepted if its digest is one of those kept. -/
theorem check_isSome {presented : Bytes} :
    (keys.check sha256 presented).isSome = true ↔ sha256 presented ∈ keys.digests := by
  unfold check
  simp only [foldl_matched, Bool.false_or, List.contains_iff_mem]
  split <;> simp_all

end ApiKeys

theorem Presents.bearer_eq {header : Option Bytes} {key : String} (presents : Presents header key)
    (unpadded : Unpadded key) : header.bind bearer = some (utf8 key) := by
  obtain ⟨scheme, padding, rfl, named, blanks⟩ := presents
  rw [Option.bind_some, bearer_of_scheme named, dropWhile_padding blanks unpadded]

theorem requireKey_eq {sha256 : Bytes → Hash32} {keys : ApiKeys} {header : Option Bytes} :
    requireKey sha256 keys header = (header.bind bearer).bind (keys.check sha256) := by
  cases header with
  | none => rfl
  | some header => rfl

/-- The check accepts the configured keys, as far as SHA-256 tells them from the token that is
presented. -/
theorem requireKey_isSome {sha256 : Bytes → Hash32} {keys : ApiKeys} {configured : List String}
    {header : Option Bytes} (made : ApiKeys.new sha256 configured = .ok keys)
    (unpadded : ∀ key ∈ configured, Unpadded key)
    (unforged : ∀ key ∈ configured, ∀ token, header.bind bearer = some token →
      sha256 token = sha256 (utf8 key) → token = utf8 key) :
    (requireKey sha256 keys header).isSome = true ↔ ∃ key ∈ configured, Presents header key := by
  have digests := ApiKeys.new_eq_ok made
  rw [requireKey_eq]
  constructor
  · intro accepted
    obtain ⟨fingerprint, read⟩ := Option.isSome_iff_exists.mp accepted
    obtain ⟨token, presented, checked⟩ := Option.bind_eq_some_iff.mp read
    have known := ApiKeys.check_isSome.mp (Option.isSome_of_eq_some checked)
    rw [digests, List.mem_map] at known
    obtain ⟨key, listed, same⟩ := known
    have forged := unforged key listed token presented same.symm
    obtain ⟨header, rfl, bears⟩ := Option.bind_eq_some_iff.mp presented
    obtain ⟨scheme, padding, split, named, blanks⟩ := bearer_eq_some bears
    exact ⟨key, listed, scheme, padding, by rw [split, forged], named, blanks⟩
  · rintro ⟨key, listed, presents⟩
    rw [presents.bearer_eq (unpadded key listed), Option.bind_some, ApiKeys.check_isSome, digests]
    exact List.mem_map_of_mem listed

/-- Whatever is wrong with the input is a `400`. -/
def Rejects {α : Type} (check : Except ApiError α) : Prop :=
  ∀ error, check = .error error → ∃ message, error = .badRequest message

section Rejects

variable {α β ε : Type}

theorem rejects_ok {value : α} : Rejects (.ok value) := nofun

theorem rejects_error {message : String} : Rejects (.error (.badRequest message) : Except _ α) := by
  rintro _ ⟨rfl⟩
  exact ⟨message, rfl⟩

theorem rejects_bind {check : Except ApiError α} {rest : α → Except ApiError β}
    (first : Rejects check) (second : ∀ value, Rejects (rest value)) : Rejects (check >>= rest) := by
  intro error failed
  cases result : check with
  | error other =>
      rw [result] at failed
      cases failed
      exact first error result
  | ok value =>
      rw [result] at failed
      exact second value error failed

theorem rejects_ensure {condition : Prop} [Decidable condition] {message : String} :
    Rejects (ensure condition (.badRequest message)) := by
  unfold ensure
  split
  · exact rejects_ok
  · exact rejects_error

theorem rejects_mapError {check : Except ε α} {message : ε → String} :
    Rejects (check.mapError fun error => .badRequest (message error)) := by
  cases check with
  | ok value => exact rejects_ok
  | error error => exact rejects_error

theorem rejects_bounded {field value : String} {max : Nat} : Rejects (bounded field value max) :=
  rejects_bind rejects_ensure fun _ => rejects_ensure

theorem rejects_boundedOption {field : String} {value : Option String} {max : Nat} :
    Rejects (boundedOption field value max) := by
  cases value with
  | none => exact rejects_ok
  | some value => exact rejects_bounded

end Rejects

theorem MoneyBody.parse_rejects (libraries : WireLibraries) (body : MoneyBody) (field : String) :
    Rejects (body.parse libraries field) := by
  unfold MoneyBody.parse
  split
  · exact rejects_error
  · exact rejects_bind rejects_mapError fun _ => rejects_ok

theorem CartBody.intoNative_rejects (libraries : WireLibraries) (body : CartBody) :
    Rejects (body.intoNative libraries) :=
  rejects_bind rejects_mapError fun _ => rejects_bind rejects_mapError fun _ => rejects_ok

theorem ProofBody.intoProof_rejects (libraries : WireLibraries) (body : ProofBody)
    (ctx : ContextId) : Rejects (body.intoProof libraries ctx) :=
  rejects_bind rejects_bounded fun _ => rejects_bind rejects_boundedOption fun _ =>
    rejects_bind (body.amount.parse_rejects libraries _) fun _ =>
    rejects_bind rejects_mapError fun _ => rejects_bind rejects_mapError fun _ => rejects_ok

theorem FinalityBody.validate_rejects (body : FinalityBody) : Rejects body.validate := by
  refine rejects_bind rejects_boundedOption fun _ => ?_
  split
  · exact rejects_error
  · exact rejects_ok
  · exact rejects_bind rejects_bounded fun _ => rejects_ok
  · exact rejects_ok

theorem ReceiptBody.intoReceipt_rejects (body : ReceiptBody) : Rejects body.intoReceipt := by
  refine rejects_bind rejects_bounded fun _ => ?_
  split
  · exact rejects_bind rejects_bounded fun _ => rejects_ok
  · exact rejects_ok

/-- Before `decide`, a handler only ever answers `400`. -/
theorem Route.handle_rejects (app : App) (route : Route) : Rejects (route.handle app) := by
  have named : ∀ name, Rejects (context name) := fun _ => rejects_mapError
  cases route with
  | authorize request =>
      refine rejects_bind (rejects_bind rejects_bounded fun _ => rejects_boundedOption) fun _ => ?_
      refine rejects_bind rejects_mapError fun _ => ?_
      refine rejects_bind (request.cart.intoNative_rejects _) fun _ => ?_
      exact rejects_bind rejects_mapError fun _ => rejects_ok
  | payment name proof =>
      refine rejects_bind (named name) fun ctx => ?_
      exact rejects_bind (proof.intoProof_rejects _ ctx) fun _ => rejects_ok
  | settlement name finality =>
      exact rejects_bind (named name) fun _ =>
        rejects_bind finality.validate_rejects fun _ => rejects_ok
  | compensation name request =>
      exact rejects_bind (named name) fun _ => rejects_bind rejects_boundedOption fun _ => rejects_ok
  | delivery name receipt =>
      exact rejects_bind (named name) fun _ =>
        rejects_bind receipt.intoReceipt_rejects fun _ => rejects_ok
  | revocation mandate => exact rejects_bind rejects_mapError fun _ => rejects_ok
  | expiry name | contextStatus name | evidence name =>
      exact rejects_bind (named name) fun _ => rejects_ok

/-- The header carries a key that `require_key` accepts. -/
def App.Accepts (app : App) (http : Http) : Prop :=
  (requireKey app.externals.sha256 app.keys http.header).isSome = true

theorem App.accepts_of_admit {app : App} {http : Http} {work : Handler Body}
    (admitted : app.admit http = .ok work) : app.Accepts http := by
  obtain ⟨checked, -⟩ := check_bind_eq_ok.mp admitted
  have accepted := ensure_eq_ok.mp checked
  exact accepted

theorem App.admit_unauthorized {app : App} {http : Http} :
    app.admit http = .error .unauthorized ↔ ¬app.Accepts http := by
  unfold App.admit App.Accepts ensure
  cases requireKey app.externals.sha256 app.keys http.header with
  | none => simp
  | some fingerprint =>
      refine iff_of_false ?_ (by simp)
      cases asked : http.route with
      | error rejection => exact nofun
      | ok route =>
          intro failed
          obtain ⟨message, same⟩ := route.handle_rejects app .unauthorized failed
          cases same

/-- The request, once it is here. -/
def Phase.http? : Phase → Option Http
  | .absent => none
  | .waiting http | .answered http _ | .gone http => some http
  | .finished task => some task.http

section Guards

variable {Rid : Type} {app : App} {capacity : Nat} {service : Service Rid}

/-- Only those who are accepted get further than `401`, and they do. -/
def Phase.Guarded (app : App) : Phase → Prop
  | .absent => True
  | .waiting http | .gone http => app.Accepts http
  | .answered http error => error = .unauthorized ↔ ¬app.Accepts http
  | .finished task => app.Accepts task.http ∧ task.outcome ≠ .error .unauthorized

structure Service.Guarded (app : App) (service : Service Rid) : Prop where
  running : ∀ rid program, service.tasks.threads rid = some program →
    program.Yields fun task => app.Accepts task.http ∧ task.outcome ≠ .error .unauthorized
  requests : ∀ rid, (service.requests rid).Guarded app

theorem task_yields {http : Http} {work : Handler Body} (admitted : app.admit http = .ok work) :
    (task http work).Yields fun task =>
      app.Accepts task.http ∧ task.outcome ≠ .error .unauthorized := by
  rw [task, Program.yields_map]
  refine (Program.yields_observe
    (fun outcome => app.Accepts http ∧ outcome ≠ .error .unauthorized) work.run).mpr ?_
  exact (App.admit_works admitted).yields.mono fun _ fits => ⟨App.accepts_of_admit admitted, fits.1⟩

theorem Phase.Guarded.hear {phase : Phase} {answer : Http → Phase} (guarded : phase.Guarded app)
    (answers : ∀ http, app.Accepts http → (answer http).Guarded app) :
    (phase.hear answer).Guarded app := by
  cases phase with
  | waiting http => exact answers http guarded
  | _ => exact guarded

variable [DecidableEq Rid]

/-- One request and its task change. -/
theorem Service.Guarded.turns (guarded : service.Guarded app) (rid : Rid) {phase : Phase}
    {thread : Option (Program (Op MockProof Finality) Op.Answer Task)} (shared : Station)
    (free : Nat) (phased : phase.Guarded app)
    (runs : ∀ program, thread = some program → program.Yields fun task =>
      app.Accepts task.http ∧ task.outcome ≠ .error .unauthorized) :
    Service.Guarded app
      ⟨⟨shared, Function.update service.tasks.threads rid thread⟩, free,
        Function.update service.requests rid phase⟩ := by
  refine ⟨?_, ?_⟩
  · intro other program running
    by_cases same : other = rid
    · subst same
      exact runs program (by simpa using running)
    · exact guarded.running other program (by simpa [same] using running)
  · intro other
    by_cases same : other = rid
    · subst same
      simpa using phased
    · simpa [same] using guarded.requests other

theorem Service.Step.guarded {after : Service Rid} (stepped : Service.Step app service after)
    (guarded : service.Guarded app) : after.Guarded app := by
  have phased : ∀ rid {phase : Phase}, phase.Guarded app →
      Service.Guarded app { service with requests := Function.update service.requests rid phase } := by
    intro rid phase fits
    have turned := guarded.turns rid service.tasks.shared service.free fits (guarded.running rid)
    rw [Function.update_eq_self] at turned
    exact turned
  cases stepped with
  | reject rid http error fresh rejected =>
      refine phased rid ?_
      rw [Phase.Guarded, ← App.admit_unauthorized, rejected, Except.error.injEq]
  | busy rid http work fresh admitted full =>
      exact phased rid (iff_of_false nofun (not_not_intro (App.accepts_of_admit admitted)))
  | start rid http work left fresh admitted permit =>
      refine guarded.turns rid _ _ (App.accepts_of_admit admitted) ?_
      rintro _ ⟨rfl⟩
      exact task_yields admitted
  | work rid op next answer shared runs executed =>
      have continues : ∀ program, some (next answer) = some program → program.Yields fun task =>
          app.Accepts task.http ∧ task.outcome ≠ .error .unauthorized := by
        rintro _ ⟨rfl⟩
        exact guarded.running rid _ runs answer
      have turned := guarded.turns rid shared service.free (guarded.requests rid) continues
      rw [Function.update_eq_self] at turned
      exact turned
  | finish rid task returned =>
      refine guarded.turns rid _ _ ((guarded.requests rid).hear fun _ _ => ?_) nofun
      exact guarded.running rid _ returned
  | panic rid program cause runs =>
      refine guarded.turns rid _ _ ((guarded.requests rid).hear fun http accepted => ?_) nofun
      exact iff_of_false nofun (not_not_intro accepted)
  | timeout rid http waits =>
      refine phased rid (iff_of_false nofun (not_not_intro ?_))
      have waiting := guarded.requests rid
      rw [waits] at waiting
      exact waiting
  | abandon rid http waits =>
      refine phased rid ?_
      have waiting := guarded.requests rid
      rw [waits] at waiting
      exact waiting

theorem App.Reachable.guarded (reached : app.Reachable capacity service) : service.Guarded app := by
  induction reached with
  | refl => exact ⟨nofun, fun _ => trivial⟩
  | tail _ stepped ih => exact stepped.guarded ih

/-- Only a missing key is answered with `401` and `WWW-Authenticate`. -/
theorem respond_unauthorized {outcome : Outcome} :
    respond outcome = ⟨401, false, true, .problem "missing or invalid API key"⟩ ↔
      outcome = .error .unauthorized := by
  refine ⟨?_, by rintro rfl; rfl⟩
  intro replied
  have challenged := congrArg Reply.authenticate replied
  cases outcome with
  | ok body => cases challenged
  | error error =>
      cases error with
      | unauthorized => rfl
      | _ => cases challenged

/-- A request that presents none of the configured keys is answered `401` when it arrives and
never has a task; one that presents a key is not answered `401`, neither before its work nor
by it.  No configured key starts with a blank, and SHA-256 does not take the token that is
presented for a key that it is not. -/
theorem keys_guard_requests {configured : List String} (reached : app.Reachable capacity service)
    (made : ApiKeys.new app.externals.sha256 configured = .ok app.keys)
    (unpadded : ∀ key ∈ configured, Unpadded key)
    {rid : Rid} {http : Http} (arrived : (service.requests rid).http? = some http)
    (unforged : ∀ key ∈ configured, ∀ token, http.header.bind bearer = some token →
      app.externals.sha256 token = app.externals.sha256 (utf8 key) → token = utf8 key) :
    ((service.requests rid).outcome?.map respond =
        some ⟨401, false, true, .problem "missing or invalid API key"⟩ ↔
      ¬∃ key ∈ configured, Presents http.header key) ∧
    ((¬∃ key ∈ configured, Presents http.header key) → service.tasks.threads rid = none) := by
  have replies : (service.requests rid).outcome?.map respond =
      some ⟨401, false, true, .problem "missing or invalid API key"⟩ ↔
        (service.requests rid).outcome? = some (.error .unauthorized) := by
    simp [Option.map_eq_some_iff, respond_unauthorized]
  rw [replies]
  have accepts : app.Accepts http ↔ ∃ key ∈ configured, Presents http.header key :=
    requireKey_isSome made unpadded unforged
  rw [← accepts]
  have guarded := reached.guarded.requests rid
  obtain ⟨running, accounts⟩ := reached.accounts
  have idle : (service.requests rid).leaves = false → service.tasks.threads rid = none := by
    intro ended
    by_contra runs
    have held := (accounts.runs rid).mpr (Option.isSome_iff_ne_none.mpr runs)
    rw [accounts.leaves rid held] at ended
    cases ended
  cases phase : service.requests rid with
  | absent => simp [phase, Phase.http?] at arrived
  | waiting other | gone other =>
      rw [phase] at arrived guarded
      cases arrived
      exact ⟨iff_of_false nofun (not_not_intro guarded), fun refused => absurd guarded refused⟩
  | finished task =>
      rw [phase] at arrived guarded
      cases arrived
      refine ⟨iff_of_false ?_ (not_not_intro guarded.1), fun refused => absurd guarded.1 refused⟩
      simpa [Phase.outcome?] using guarded.2
  | answered other error =>
      rw [phase] at arrived guarded
      cases arrived
      refine ⟨?_, ?_⟩
      · simpa [Phase.outcome?, Phase.Guarded] using guarded
      · intro refused
        obtain rfl := guarded.mpr refused
        exact idle (by rw [phase]; rfl)

end Guards

theorem Service.serve_arrived {Rid : Type} [DecidableEq Rid] {app : App} {now : Timestamp}
    {service : Service Rid} {rid : Rid} {http : Http} :
    ((service.serve app now rid http).requests rid).http? = some http := by
  unfold Service.serve
  split
  · simp [Phase.http?]
  · next work admitted =>
      split
      · simp [Phase.http?]
      · simp only [Function.update_self, Phase.http?]
        rw [Serve.task, map_eq_pure_bind, Program.run_bind]
        rfl

namespace Sample

def otherKey : String := "fedcba9876543210fedcba9876543210"

/-- SHA-256 of the key. -/
def keyDigest : Hash32 :=
  ⟨[0x3e, 0xb1, 0xbd, 0x43, 0x99, 0x47, 0xeb, 0x76, 0x29, 0x98, 0xe5, 0x66, 0xcc, 0xc2, 0xe0, 0x99,
    0xc7, 0x91, 0x11, 0x8b, 0x2f, 0x40, 0x57, 0x9c, 0xc4, 0xf7, 0xda, 0x2b, 0x50, 0x61, 0xb7, 0xf9],
    by decide⟩

/-- SHA-256 of the other key. -/
def otherDigest : Hash32 :=
  ⟨[0x4b, 0xa6, 0x8a, 0xa8, 0x76, 0x7b, 0xde, 0x72, 0xe8, 0xc7, 0x98, 0xee, 0x82, 0xd1, 0x27, 0x52,
    0x91, 0xce, 0xa7, 0x3e, 0x72, 0xad, 0x74, 0xd3, 0x5e, 0xcf, 0x48, 0xe4, 0x13, 0x86, 0xeb, 0x82],
    by decide⟩

def keyHash (token : Bytes) : Hash32 :=
  if token = utf8 key then keyDigest
  else if token = utf8 otherKey then otherDigest
  else Core.Sample.sha256 token

/-- The sample service, with the digest of its key. -/
def locked : App :=
  { app with
    externals := { Core.Sample.externals with sha256 := keyHash }
    keys := ⟨[keyDigest], by simp⟩ }

/-- A request with a key that is not configured. -/
def stranger : Http := ⟨some (utf8 ("Bearer " ++ otherKey)), .ok (.expiry ctx)⟩

/-- The stranger asks, and then somebody with the key. -/
def asked : Service Nat :=
  locked.served 4096 [(⟨11⟩, keyed (.expiry ctx)), (⟨10⟩, stranger)]

theorem stranger_bearer : stranger.header.bind bearer = some (utf8 otherKey) := by decide +kernel

theorem keyed_bearer (route : Route) : (keyed route).header.bind bearer = some (utf8 key) := by
  have read : bearer (utf8 ("Bearer " ++ key)) = some (utf8 key) := by decide +kernel
  exact read

theorem stranger_arrived : (asked.requests 0).http? = some stranger := by
  rw [asked, App.served, Service.serve_requests _ (by decide)]
  exact Service.serve_arrived

theorem keyed_arrived : (asked.requests 1).http? = some (keyed (.expiry ctx)) := by
  rw [asked, App.served]
  exact Service.serve_arrived

theorem otherDigest_ne :
    locked.externals.sha256 (utf8 otherKey) ≠ locked.externals.sha256 (utf8 key) := by
  decide +kernel

theorem key_unpadded : ∀ configured ∈ [key], Unpadded configured := by
  simp only [List.forall_mem_singleton, Unpadded]
  decide +kernel

end Sample

theorem keys_guard_requests_stranger :
    (Sample.asked.requests 0).outcome?.map respond =
        some ⟨401, false, true, .problem "missing or invalid API key"⟩ ∧
      Sample.asked.tasks.threads 0 = none ∧ (Sample.asked.requests 1).outcome?.isSome = true ∧
      (Sample.asked.requests 1).outcome?.map respond ≠
        some ⟨401, false, true, .problem "missing or invalid API key"⟩ := by
  have made : ApiKeys.new Sample.locked.externals.sha256 [Sample.key] = .ok Sample.locked.keys := by
    rfl
  have refused := keys_guard_requests (App.served_reachable _) made Sample.key_unpadded
    Sample.stranger_arrived (by
      intro key listed token presented same
      rw [Sample.stranger_bearer, Option.some.injEq] at presented
      rw [List.mem_singleton.mp listed, ← presented] at same
      exact absurd same Sample.otherDigest_ne)
  have accepted := keys_guard_requests (App.served_reachable _) made Sample.key_unpadded
    Sample.keyed_arrived (by
      intro key listed token presented _
      rw [Sample.keyed_bearer, Option.some.injEq] at presented
      rw [List.mem_singleton.mp listed, presented])
  have stranger : ¬∃ key ∈ [Sample.key], Presents Sample.stranger.header key := by
    rintro ⟨key, listed, presents⟩
    have same := presents.bearer_eq (Sample.key_unpadded key listed)
    rw [Sample.stranger_bearer, List.mem_singleton.mp listed, Option.some.injEq] at same
    exact absurd (congrArg Sample.locked.externals.sha256 same) Sample.otherDigest_ne
  have presents : ∃ key ∈ [Sample.key], Presents (Sample.keyed (.expiry Sample.ctx)).header key :=
    ⟨Sample.key, List.mem_singleton_self _, utf8 "Bearer ", [], by decide +kernel,
      by decide +kernel, nofun⟩
  exact ⟨refused.1.mpr stranger, refused.2 stranger, by decide +kernel,
    fun replied => accepted.1.mp replied presents⟩

end MandateLedger.Serve
