import MandateLedger.Adapters.Mock
import MandateLedger.Engine.Calls
import MandateLedger.Engine.Invocations

namespace MandateLedger.Engine

open MandateLedger.Core MandateLedger.Data MandateLedger.Memory MandateLedger.Process

variable {Proof Evidence Tid : Type} {externals : Externals}

def Met (ctx : ContextId) (exchanges : List (Exchange (Op Proof Evidence) Op.Answer)) : Prop :=
  ∃ record, ⟨.record ctx, .ok (some record)⟩ ∈ exchanges

instance (ctx : ContextId) (exchanges : List (Exchange (Op Proof Evidence) Op.Answer)) :
    Decidable (Met ctx exchanges) :=
  decidable_of_iff
    (exchanges.any fun
      | ⟨.record found, .ok (some _)⟩ => found = ctx
      | _ => false) <| by
    simp only [List.any_eq_true, Met]
    constructor
    · intro seen
      obtain ⟨exchange, listed, matching⟩ := seen
      split at matching
      · next found record =>
          cases of_decide_eq_true matching
          exact ⟨record, listed⟩
      · cases matching
    · intro seen
      obtain ⟨record, listed⟩ := seen
      exact ⟨_, listed, decide_eq_true rfl⟩

/-- The call opened its context: it saw no record, and its event is the context's
first. -/
structure Opened (externals : Externals) (mandate : Mandate) (cart : Cart) (requestKey : String)
    (ctx : ContextId) (exchanges : List (Exchange (Op Proof Evidence) Op.Answer))
    (token : Authorized) (world : World Proof Evidence) : Prop where
  unmet : ¬ Met ctx exchanges
  verified : mandate.verify externals.signatures = .ok ()
  wrote : ∃ event, (changes ctx world.history).head? = some event ∧
    authorizedToken event = some token ∧
    event.body = .authorized mandate (cart.snapshot externals.sha256) requestKey

/-- The event that opened a context was for this mandate, by this key. -/
def SameMandate (mandate : Mandate) (ctx : ContextId) (token : Authorized) (event : Event) : Prop :=
  event.ctx = ctx ∧ authorizedToken event = some token ∧
    ∃ stored cart requestKey, event.body = .authorized stored cart requestKey ∧
      (stored.body == mandate.body) = true ∧ stored.signer = mandate.signer

/-- The call answered from the context's past and wrote nothing. -/
structure Replayed (externals : Externals) (mandate : Mandate) (ctx : ContextId)
    (exchanges : List (Exchange (Op Proof Evidence) Op.Answer)) (token : Authorized)
    (world : World Proof Evidence) : Prop where
  silent : ∀ exchange ∈ exchanges, Silent externals exchange
  verified : mandate.verify externals.signatures = .ok ()
  rests : ∃ event ∈ world.history, SameMandate mandate ctx token event

/-- How `authorize` can end. -/
def AuthorizeEnds (externals : Externals) (mandate : Mandate) (cart : Cart) (requestKey : String)
    (exchanges : List (Exchange (Op Proof Evidence) Op.Answer)) :
    Except LedgerError Authorized → World Proof Evidence → Prop :=
  Ends
    (fun token world =>
      Opened externals mandate cart requestKey (attempt externals mandate cart requestKey)
          exchanges token world ∨
        Met (attempt externals mandate cart requestKey) exchanges ∧
          Replayed externals mandate (attempt externals mandate cart requestKey) exchanges token
            world)
    (fun _ _ => ∀ exchange ∈ exchanges, Leaves externals Untouched exchange)

theorem changes_later {world later : World Proof Evidence} {ctx : ContextId} {event : Event}
    (grown : world.acts <+: later.acts) (listed : event ∈ changes ctx world.history) :
    event ∈ changes ctx later.history :=
  ((World.history_grows grown).filter _).subset listed

/-- The stored mandate is that of the event whose token the record still carries. -/
theorem sameMandate {read before : World Proof Evidence} {ctx : ContextId} {record : Record}
    {mandate stored : Mandate} (reached : Traced.Reachable externals read.traced)
    (later : Later externals read before) (found : read.inner.records.lookup ctx = some record)
    (read : before.inner.authorizedMandate ctx = some stored)
    (same : (stored.body == mandate.body) = true) (signed : stored.signer = mandate.signer) :
    ∃ event ∈ before.history, SameMandate mandate ctx (Ledger.authorizedFrom record) event := by
  obtain ⟨opening, opened, token⟩ := ((Lifecycle.run reached).provenance found).opened
  have lifecycle := Lifecycle.run later.reached
  have still := changes_later later.grown opened
  obtain ⟨current, holds⟩ := lifecycle.found still
  obtain ⟨event, listed, signer, cart, requestKey, body, held⟩ | ⟨missing, -⟩ :=
    lifecycle.authorizedMandate holds
  · have matching : stored = signer := Option.some.inj (read.symm.trans held)
    subst matching
    have carried := lifecycle.carries holds listed
    have first := lifecycle.carries holds still
    obtain ⟨_, _, _, began, -⟩ := authorizedToken_eq_some.mp token
    rw [Carries, began] at first
    rw [Carries, body] at carried
    have tokens : Ledger.authorizedFrom current = Ledger.authorizedFrom record :=
      Option.some.inj (first.symm.trans token)
    obtain ⟨past, own, -⟩ := mem_changes.mp listed
    exact ⟨event, past, own, tokens ▸ carried, stored, cart, requestKey, body, same, signed⟩
  · cases read.symm.trans missing

section Calls

variable {t : Tid} {world : World Proof Evidence} {mandate : Mandate} {cart : Cart}
  {requestKey : String} {ctx : ContextId} {now : Timestamp}
  {Post : List (Exchange (Op Proof Evidence) Op.Answer) → Except LedgerError Authorized →
    World Proof Evidence → Prop}

/-- The postcondition holds of a call that wrote refusals at most and failed, and of
one that replayed, if it has met the context: before, as `met` says, or since. -/
structure Admits (externals : Externals) (mandate : Mandate) (ctx : ContextId) (met : Prop)
    (Post : List (Exchange (Op Proof Evidence) Op.Answer) → Except LedgerError Authorized →
      World Proof Evidence → Prop) : Prop where
  fails : ∀ exchanges error after, (∀ exchange ∈ exchanges, Leaves externals Untouched exchange) →
    Post exchanges (.error error) after
  replays : ∀ exchanges token after, met ∨ Met ctx exchanges →
    Replayed externals mandate ctx exchanges token after → Post exchanges (.ok token) after

variable {met : Prop}

theorem Admits.cons {exchange : Exchange (Op Proof Evidence) Op.Answer}
    (admits : Admits externals mandate ctx met Post) (silent : Silent externals exchange) :
    Admits externals mandate ctx (met ∨ Met ctx [exchange]) fun seen => Post (exchange :: seen) where
  fails _ error after left :=
    admits.fails _ error after (List.forall_mem_cons.mpr ⟨silent.untouched, left⟩)
  replays exchanges token after known replayed := by
    refine admits.replays _ token after ?_ ⟨List.forall_mem_cons.mpr ⟨silent, replayed.silent⟩,
      replayed.verified, replayed.rests⟩
    obtain (known | ⟨record, now⟩) | ⟨record, since⟩ := known
    · exact .inl known
    · exact .inr ⟨record, List.mem_cons.mpr (.inl (List.mem_singleton.mp now))⟩
    · exact .inr ⟨record, List.mem_cons_of_mem _ since⟩

theorem Admits.throw (admits : Admits externals mandate ctx met Post) (error : LedgerError) :
    Ensures externals t (throw error : Call Proof Evidence Authorized) Post world :=
  ensures_throw (admits.fails _ _ _ (List.forall_mem_nil _))

theorem Admits.deny (admits : Admits externals mandate ctx met Post) {stage : Stage}
    {reason : DenyReason} {detail : String} :
    Ensures externals t (Ledger.deny ctx now stage reason detail : Call Proof Evidence Authorized)
      Post world :=
  ensures_deny fun _ _ _ left => admits.fails _ _ _ (List.forall_mem_singleton.mpr left)

theorem replay_ensures {read : World Proof Evidence} {record : Record} (known : met)
    (admits : Admits externals mandate ctx met Post)
    (reached : Traced.Reachable externals read.traced) (looked : Later externals read world)
    (found : read.inner.records.lookup ctx = some record) :
    Ensures externals t (Ledger.replay externals ctx now record mandate) Post world := by
  unfold Ledger.replay
  cases verified : mandate.verify externals.signatures with
  | error error => exact admits.deny
  | ok accepted =>
      refine ensures_authorizedMandate ?_
      intro before later
      have silent : Silent externals (⟨.authorizedMandate ctx,
          .ok (before.inner.authorizedMandate ctx)⟩ : Exchange (Op Proof Evidence) Op.Answer) :=
        silent_authorizedMandate ctx _
      have denied := admits.cons silent
      cases read : before.inner.authorizedMandate ctx with
      | none =>
          rw [read] at denied
          dsimp only
          split
          · exact denied.deny
          · exact denied.throw _
      | some stored =>
          rw [read] at denied
          dsimp only
          split
          · exact denied.deny
          · next same =>
              split
              · exact denied.deny
              · next signed =>
                  refine ensures_pure (denied.replays [] _ _ (.inl (.inl known)) ⟨by simp, verified, ?_⟩)
                  exact sameMandate reached ⟨looked.grown.trans later.grown, later.reached⟩ found
                    read (by simpa using same) (Decidable.not_not.mp signed)

theorem changes_of_writes {before after : World Proof Evidence} {event : Event} {tables : Inner}
    {snapshot : CartSnapshot} (reached : Traced.Reachable externals before.traced)
    (writes : before.inner.Writes externals.decimals ctx now
      (.authorized mandate snapshot requestKey) tables)
    (own : event.ctx = ctx) (body : event.body = .authorized mandate snapshot requestKey)
    (kept : after = ⟨tables.log event, before.acts ++ [.appended event]⟩) :
    changes ctx after.history = [event] := by
  have history : after.history = before.history ++ [event] := by
    rw [kept]
    simp [World.history, Act.event?]
  have context := (Lifecycle.run reached).contexts ctx
  cases writes with
  | authorized absent =>
      rw [show before.traced.inner.records.lookup ctx = none from absent] at context
      rw [history, changes_append_of_change own (by rw [body]; rfl)]
      rw [show changes ctx before.history = [] from context.absent]
      rfl
  | moved moves plain =>
      cases moves
      simp at plain
  | released moves giving =>
      cases moves
      simp at giving

theorem submitAuthorized_ensures (admits : Admits externals mandate ctx met Post)
    (verified : mandate.verify externals.signatures = .ok ())
    (opens : ∀ exchanges token after,
      Opened externals mandate cart requestKey ctx exchanges token after →
      Post exchanges (.ok token) after) :
    Ensures externals t
      (Ledger.submitAuthorized externals ctx now mandate cart requestKey) Post world := by
  refine ensures_tryAppend ?_ ?_ ?_
  · intro before later error failed
    have failing := admits.cons (silent_append ctx now
      (.authorized mandate (cart.snapshot externals.sha256) requestKey) (.error error) (by simp))
    split
    · next same => cases same
    · -- another call has opened the context
      refine ensures_record ?_
      intro read looked
      have looking := failing.cons (silent_record ctx (.ok (read.inner.records.lookup ctx)))
      cases found : read.inner.records.lookup ctx with
      | none =>
          rw [found] at looking
          exact looking.throw _
      | some record =>
          rw [found] at looking
          exact replay_ensures (.inr ⟨record, List.mem_singleton_self _⟩) looking looked.reached ⟨List.prefix_refl _, looked.reached⟩ found
    · exact failing.throw _
  · intro before later outcome refused
    have unwritten : ∀ event, (.ok outcome : Except StoreError AppendOutcome) ≠
        .ok (.appended event) := by
      intro event same
      cases same
      simp at refused
    have refusing := admits.cons (silent_append ctx now
      (.authorized mandate (cart.snapshot externals.sha256) requestKey) (.ok outcome) unwritten)
    cases outcome with
    | appended event => simp at refused
    | budgetExceeded | velocityExceeded | mandateRevoked => exact refusing.deny
    | nonceAlreadyUsed | denialsCapped => exact refusing.throw _
  · intro before after later further event tables writes own body kept
    refine ensures_pure (opens _ _ _ ⟨?_, verified, event, ?_, ?_, body⟩)
    · intro met
      obtain ⟨record, listed⟩ := met
      cases List.mem_singleton.mp listed
    · rw [changes_of_writes later.reached writes own body kept]
      rfl
    · rw [authorizedToken, body, own]
      rfl

theorem authorizeFresh_ensures {ledger : Ledger} (admits : Admits externals mandate ctx met Post)
    (opens : ∀ exchanges token after,
      Opened externals mandate cart requestKey ctx exchanges token after →
      Post exchanges (.ok token) after) :
    Ensures externals t
      (ledger.authorizeFresh externals ctx now mandate cart requestKey) Post world := by
  unfold Ledger.authorizeFresh
  cases verified : mandate.verify externals.signatures with
  | error error => exact admits.deny
  | ok accepted =>
      dsimp only
      split
      · exact admits.deny
      · refine ensures_isRevoked ?_
        intro before later revoked
        have asked := admits.cons (silent_isRevoked mandate.id (.ok revoked))
        split
        · exact asked.deny
        · cases mandate.body.scope.admits cart.claims cart.attestation now with
          | error refusal => exact asked.deny
          | ok admitted =>
              refine submitAuthorized_ensures asked verified ?_
              intro exchanges token after opened
              refine opens _ token after ⟨?_, verified, opened.wrote⟩
              intro met
              obtain ⟨record, listed⟩ := met
              obtain same | rest := List.mem_cons.mp listed
              · cases same
              · exact opened.unmet ⟨record, rest⟩

theorem authorize_ensures (ledger : Ledger) :
    Ensures externals t (ledger.authorize externals mandate cart requestKey)
      (AuthorizeEnds externals mandate cart requestKey) world := by
  have admits : Admits externals mandate (attempt externals mandate cart requestKey) False
      (AuthorizeEnds externals mandate cart requestKey :
        List (Exchange (Op Proof Evidence) Op.Answer) → _) :=
    ⟨fun _ _ _ left => left, fun _ _ _ known replayed => .inr ⟨known.resolve_left id, replayed⟩⟩
  refine ensures_now fun now first _ => ensures_record ?_
  intro read looked
  have asked := (admits.cons (silent_now now)).cons
    (silent_record (attempt externals mandate cart requestKey)
      (.ok (read.inner.records.lookup (attempt externals mandate cart requestKey))))
  rw [show ContextId.derive externals.sha256 mandate.id (cart.hash externals.sha256) requestKey =
    attempt externals mandate cart requestKey from rfl]
  cases found : read.inner.records.lookup (attempt externals mandate cart requestKey) with
  | some record =>
      rw [found] at asked
      exact replay_ensures (.inr ⟨record, List.mem_singleton_self _⟩) asked looked.reached ⟨List.prefix_refl _, looked.reached⟩ found
  | none =>
      rw [found] at asked
      refine authorizeFresh_ensures asked ?_
      intro exchanges token after opened
      refine .inl ⟨?_, opened.verified, opened.wrote⟩
      intro met
      obtain ⟨record, listed⟩ := met
      obtain same | rest := List.mem_cons.mp listed
      · cases same
      · obtain same | rest := List.mem_cons.mp rest
        · cases same
        · exact opened.unmet ⟨record, rest⟩

end Calls

theorem AuthorizeEnds.later {mandate : Mandate} {cart : Cart} {requestKey : String}
    {exchanges : List (Exchange (Op Proof Evidence) Op.Answer)}
    {result : Except LedgerError Authorized} {before after : World Proof Evidence}
    (grown : before.acts <+: after.acts)
    (ends : AuthorizeEnds externals mandate cart requestKey exchanges result before) :
    AuthorizeEnds externals mandate cart requestKey exchanges result after := by
  cases result with
  | error error => exact ends
  | ok token =>
      obtain ⟨unmet, verified, event, first, stands⟩ |
        ⟨met, silent, verified, event, past, same⟩ := ends
      · refine .inl ⟨unmet, verified, event, ?_, stands⟩
        have longer : changes (attempt externals mandate cart requestKey) before.history <+:
            changes (attempt externals mandate cart requestKey) after.history :=
          (World.history_grows grown).filter _
        obtain ⟨rest, longer⟩ := longer
        rw [← longer, List.head?_append, first]
        rfl
      · exact .inr ⟨met, silent, verified, event, (World.history_grows grown).subset past, same⟩

/-- The byte strings whose digests named the contexts of a history. -/
def contextInputs (history : List Event) : Set Bytes :=
  {bytes | ∃ event ∈ history, ∃ mandate cart requestKey,
    event.body = .authorized mandate cart requestKey ∧
      bytes = ContextId.preimage mandate.body.id cart.hash requestKey}

def truncated (sha256 : Bytes → Hash32) (bytes : Bytes) : Bytes := (sha256 bytes).bytes.take 16

/-- The call returned the token of the context's `Authorized` event, which is for
the same mandate, key, cart and request, and left the store as it was. -/
structure ReplaySound (externals : Externals) (mandate : Mandate) (cart : Cart)
    (requestKey : String) (exchanges : List (Exchange (Op Proof Evidence) Op.Answer))
    (token : Authorized) (world : World Proof Evidence) : Prop where
  silent : ∀ exchange ∈ exchanges, Silent externals exchange
  verified : mandate.verify externals.signatures = .ok ()
  rests : ∃ event ∈ world.history, event.ctx = attempt externals mandate cart requestKey ∧
    authorizedToken event = some token ∧
    ∃ stored snapshot, event.body = .authorized stored snapshot requestKey ∧
      (stored.body == mandate.body) = true ∧ stored.signer = mandate.signer ∧
      snapshot.hash = cart.hash externals.sha256

/-- How an `authorize` call may have ended, by whether it met a record. -/
structure AuthorizeSound (externals : Externals) (mandate : Mandate) (cart : Cart)
    (requestKey : String) (exchanges : List (Exchange (Op Proof Evidence) Op.Answer))
    (result : Except LedgerError Authorized) (world : World Proof Evidence) : Prop where
  replayed : ∀ token, Met (attempt externals mandate cart requestKey) exchanges →
    result = .ok token → ReplaySound externals mandate cart requestKey exchanges token world
  opened : ∀ token, ¬ Met (attempt externals mandate cart requestKey) exchanges →
    result = .ok token →
    Opened externals mandate cart requestKey (attempt externals mandate cart requestKey)
      exchanges token world
  failed : ∀ error, result = .error error →
    ∀ exchange ∈ exchanges, Leaves externals Untouched exchange

theorem reachable_authorizeEnds [DecidableEq Tid] {ledgers : Set Ledger}
    {config : Config Tid (World Proof Evidence) (Op Proof Evidence) Op.Answer
      (Invocation Proof Evidence)}
    (reached : Process.Reachable (semantics Tid externals) (Invocations externals ledgers)
      World.empty config) {t : Tid} {ledger : Ledger} {mandate : Mandate} {cart : Cart}
    {requestKey : String} {exchanges : List (Exchange (Op Proof Evidence) Op.Answer)}
    {result : Except LedgerError Authorized}
    (returned : config.threads t = some (.done
      ⟨.authorize ledger mandate cart requestKey, exchanges, .authorize result⟩)) :
    AuthorizeEnds externals mandate cart requestKey exchanges result config.shared := by
  let Post : Invocation Proof Evidence → World Proof Evidence → Prop := fun invocation world =>
    ∀ ledger mandate cart requestKey result,
      invocation.request = .authorize ledger mandate cart requestKey →
      invocation.response = .authorize result →
      AuthorizeEnds externals mandate cart requestKey invocation.exchanges result world
  have ensured : Post ⟨.authorize ledger mandate cart requestKey, exchanges, .authorize result⟩
      config.shared := by
    refine reachable_ensured ?_ ?_ reached returned
    · intro invocation before after later ends ledger mandate cart requestKey result asked told
      exact (ends ledger mandate cart requestKey result asked told).later later.grown
    · intro request t world
      cases request with
      | authorize ledger mandate cart requestKey =>
          refine observes_respond ((authorize_ensures ledger).mono ?_)
          intro seen result after ends _ _ _ _ _ asked told
          cases asked
          cases told
          exact ends
      | _ =>
          refine (observes_any _).mono ?_
          intro seen response after _ _ _ _ _ _ asked
          cases asked
  exact ensured ledger mandate cart requestKey result rfl rfl

/-- An attempt under the id a context was opened with is for the cart and the request
it was opened with. -/
theorem attempt_inj [DecidableEq Tid] {ledgers : Set Ledger}
    {config : Config Tid (World Proof Evidence) (Op Proof Evidence) Op.Answer Response}
    (reached : Reachable externals ledgers config) {mandate stored : Mandate} {cart : Cart}
    {snapshot : CartSnapshot} {requestKey key : String} {event : Event}
    (past : event ∈ config.shared.history)
    (own : event.ctx = attempt externals mandate cart requestKey)
    (body : event.body = .authorized stored snapshot key) (ids : stored.id = mandate.id)
    (collisionFree : Set.InjOn (truncated externals.sha256)
      (insert (ContextId.preimage mandate.id (cart.hash externals.sha256) requestKey)
        (contextInputs config.shared.history))) :
    snapshot.hash = cart.hash externals.sha256 ∧ key = requestKey := by
  obtain ⟨earlier, -, justified⟩ := (reachable_kept reached).inv.2.of_mem (mem_history.mp past)
  simp only [Justifies, EventSound, body] at justified
  have digests := ContextId.digest_eq (justified.derived.symm.trans own)
  have inputs := collisionFree
    (Set.mem_insert_of_mem _ ⟨event, past, stored, snapshot, key, body, rfl⟩)
    (Set.mem_insert _ _) digests
  rw [← ids] at inputs
  exact ContextId.preimage_inj inputs

/-- Whatever else runs, `authorize` on a context that exists answers only for the
mandate, the key, the cart and the request the context was opened with. -/
theorem reachable_authorizeSound [DecidableEq Tid] {ledgers : Set Ledger}
    {config : Config Tid (World Proof Evidence) (Op Proof Evidence) Op.Answer
      (Invocation Proof Evidence)}
    (reached : Process.Reachable (semantics Tid externals) (Invocations externals ledgers)
      World.empty config) {t : Tid} {ledger : Ledger} {mandate : Mandate} {cart : Cart}
    {requestKey : String} {exchanges : List (Exchange (Op Proof Evidence) Op.Answer)}
    {result : Except LedgerError Authorized}
    (returned : config.threads t = some (.done
      ⟨.authorize ledger mandate cart requestKey, exchanges, .authorize result⟩))
    (collisionFree : Set.InjOn (truncated externals.sha256)
      (insert (ContextId.preimage mandate.id (cart.hash externals.sha256) requestKey)
        (contextInputs config.shared.history))) :
    AuthorizeSound externals mandate cart requestKey exchanges result config.shared := by
  have ends := reachable_authorizeEnds reached returned
  refine ⟨?_, ?_, ?_⟩
  · rintro token met rfl
    obtain opened | ⟨-, silent, verified, event, past, own, stands, stored, snapshot, key, body,
      same, signed⟩ := ends
    · exact absurd met opened.unmet
    · have ids : stored.id = mandate.id := MandateBody.id_eq same
      obtain ⟨hashes, rfl⟩ :=
        attempt_inj (reachable_erase reached) past own body ids collisionFree
      exact ⟨silent, verified, event, past, own, stands, stored, snapshot, body, same, signed,
        hashes⟩
  · rintro token unmet rfl
    obtain opened | ⟨met, -⟩ := ends
    · exact opened
    · exact absurd met unmet
  · rintro error rfl
    exact ends

def sampleAttempt : Request Adapters.MockProof Adapters.MockFinality :=
  .authorize Adapters.Sample.ledger (Sample.mandate Sample.alice) Sample.cart "k1"

/-- Both calls find no record, the first one opens the context, and the second one
loses the race. -/
def lostRace : Config Bool (World Adapters.MockProof Adapters.MockFinality)
    (Op Adapters.MockProof Adapters.MockFinality) Op.Answer
    (Invocation Adapters.MockProof Adapters.MockFinality) :=
  Config.schedule
    (fun _ world op =>
      world.perform Sample.externals (Adapters.Sample.rail.surroundings ⟨10⟩) op)
    (Config.started World.empty
      [(true, invoke Sample.externals sampleAttempt), (false, invoke Sample.externals sampleAttempt)])
    [true, false, true, false, true, false, true, false, false, false]

theorem lostRace_reachable :
    Process.Reachable (semantics Bool Sample.externals)
      (Invocations Sample.externals {Adapters.Sample.ledger}) World.empty lostRace := by
  refine Process.Reachable.schedule (fun _ world op => World.perform_exec _ world _ op) ?_ _
  refine Process.Reachable.started _ (by decide) ?_
  intro entry listed
  have same : entry.2 = invoke Sample.externals sampleAttempt := by
    simp only [List.mem_cons, List.not_mem_nil, or_false] at listed
    obtain rfl | rfl := listed <;> rfl
  exact ⟨sampleAttempt, by simp [sampleAttempt, Request.ledger?], same⟩

theorem lostRace_authorizeSound :
    ∃ exchanges token, lostRace.threads false = some (.done ⟨.authorize Adapters.Sample.ledger
        (Sample.mandate Sample.alice) Sample.cart "k1", exchanges, .authorize (.ok token)⟩) ∧
      Met (attempt Sample.externals (Sample.mandate Sample.alice) Sample.cart "k1") exchanges ∧
      AuthorizeSound Sample.externals (Sample.mandate Sample.alice) Sample.cart "k1" exchanges
        (.ok token) lostRace.shared := by
  have asked : (lostRace.finished false).map Invocation.request = some sampleAttempt := by rfl
  have told : (lostRace.finished false).map Invocation.response =
      some (.authorize (.ok ⟨Sample.firstCtx, Sample.mandateId, Sample.cartHash, Sample.merchant,
        Sample.cents 6000⟩)) := by rfl
  have met : ∀ invocation ∈ lostRace.finished false,
      Met (attempt Sample.externals (Sample.mandate Sample.alice) Sample.cart "k1")
        invocation.exchanges := by decide +kernel
  have bodies : lostRace.shared.history.map Event.body = [.authorized (Sample.mandate Sample.alice)
      (Sample.cart.snapshot Sample.externals.sha256) "k1"] := by decide +kernel
  obtain ⟨⟨request, exchanges, response⟩, finished, same⟩ := Option.map_eq_some_iff.mp asked
  rw [finished] at told
  cases same
  cases told
  have returned := Config.threads_of_finished finished
  refine ⟨exchanges, _, returned, met _ finished, reachable_authorizeSound lostRace_reachable
    returned ?_⟩
  have inputs : contextInputs lostRace.shared.history ⊆
      {ContextId.preimage (Sample.mandate Sample.alice).id
        (Sample.cart.hash Sample.externals.sha256) "k1"} := by
    intro bytes input
    obtain ⟨event, past, mandate, cart, requestKey, body, rfl⟩ := input
    have listed := List.mem_map_of_mem (f := Event.body) past
    rw [bodies, List.mem_singleton, body] at listed
    cases listed
    rfl
  exact (Set.injOn_singleton _ _).mono (Set.insert_subset (Set.mem_singleton _) inputs)

end MandateLedger.Engine
