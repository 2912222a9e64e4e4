import MandateLedger.Memory.Nonces
import MandateLedger.Postgres.Transactions

namespace MandateLedger.Postgres

open MandateLedger.Core MandateLedger.Data MandateLedger.Memory MandateLedger.Process

/-- Nothing is asked of clients, and a stale reservation does not matter. -/
def spentNonces (Tid : Type) : Policy Tid where
  Body _ := True
  Inv tables := Spent tables.nonces tables.contexts tables.events
  Recent _ _ := True
  Allowed _ _ := True
  Result _ := True

theorem Commits.spent {ops : DecimalOps} {Recent : Option Money → Option Money → Prop}
    {tables after : Tables} {event : Event} (commits : Commits ops Recent tables event after)
    (spent : Spent tables.nonces tables.contexts tables.events) :
    Spent after.nonces after.contexts after.events := by
  cases commits with
  | authorized body opens => exact spent.other (by rw [body]; rfl) (.opened opens.absent)
  | claimed body moves free => exact spent.claim (by rw [body]; rfl) moves.moves free _
  | replayed body moves own =>
      have free := spent.unclaimed moves.found moves.legal fun owner claimed =>
        Option.some.inj (claimed.symm.trans own)
      rw [own] at free
      cases free
  | @moved target record moves plain =>
      have other : target ≠ .paid := by rcases plain with rfl | rfl | rfl <;> decide
      exact spent.other (EventBody.nonce?_eq_none moves.moves other)
        (.advanced moves.moves moves.later)
  | @released target record next moves giving given =>
      have other : target ≠ .paid := by rcases giving with rfl | rfl <;> decide
      exact spent.other (EventBody.nonce?_eq_none moves.moves other)
        (.advanced moves.moves moves.later)
  | denied refused uncapped =>
      have unpaid : event.body.nonce? = none := by
        cases body : event.body with
        | paid => simp [body, EventBody.isDenied] at refused
        | _ => rfl
      exact spent.other unpaid .refl

theorem spentNonces_sound (Tid : Type) (externals : Externals) :
    (spentNonces Tid).Sound externals where
  recent_refl _ := trivial
  recent_trans _ _ _ _ _ := trivial
  empty := .empty
  append spent _ _ appends := appends.commits.spent spent
  revoke _ spent := spent
  release _ _ _ _ _ _ _ := trivial
  result _ := trivial
  released _ _ _ _ := trivial

/-- The nonces of the in-memory store, and what an append that adds no event
does to them. -/
structure MemoryNonces (externals : Externals) (traced : Traced) : Prop where
  spent : NoncesOnce traced.inner.nonces traced.history
  unclaimed : ∀ ctx now body,
    appendedEvent (traced.append externals ctx now body).1 = none →
      (traced.append externals ctx now body).2.inner.nonces = traced.inner.nonces

/-- The committed nonces of the database, and what a transaction that has ended
holds. -/
structure PostgresNonces {Tid : Type}
    (config : Config Tid (Db Tid) Statement Statement.Answer Reply) : Prop where
  spent : NoncesOnce config.shared.tables.nonces config.shared.tables.events
  unclaimed : ∀ t, config.threads t = none ∨ (config.finished t).isSome = true →
    ∀ key ctx, Write.claim key ctx ∉ config.shared.pending t

/-- In every run of the in-memory store, prunes included, and in every
interleaving of the transactions of the other, a nonce pays one context, once,
and is claimed by a payment that was recorded. -/
theorem reachable_noncesOnce (externals : Externals) :
    (∀ traced, Traced.Reachable externals traced → MemoryNonces externals traced) ∧
      ∀ (Tid : Type) [DecidableEq Tid] (hashtext : String → Int)
        (config : Config Tid (Db Tid) Statement Statement.Answer Reply),
        Reachable (semantics Tid fun _ _ => True) (Requests hashtext externals fun _ => True)
          .initial config → PostgresNonces config := by
  constructor
  · intro traced reached
    refine ⟨(reachable_spent reached).noncesOnce, ?_⟩
    intro ctx now body refused
    exact congrArg Inner.nonces (append_unchanged traced.inner ctx now body refused)
  · intro Tid _ hashtext config reached
    obtain ⟨spent, stopped, replies⟩ := Reachable.sound (spentNonces_sound Tid externals) reached
    refine ⟨Spent.noncesOnce spent, ?_⟩
    intro t ended key ctx claimed
    have empty : config.shared.pending t = [] := by
      rcases ended with gone | returned
      · exact stopped t gone
      · obtain ⟨reply, returned⟩ := Option.isSome_iff_exists.mp returned
        exact (replies t reply returned).1
    rw [empty] at claimed
    cases claimed

namespace Sample

open Core.Sample

def payment : EventBody := .paid "mock" "pay-1" "nonce-1" (cents 6000) .zero

/-- The first purchase is paid, delivered and pruned; the second presents its nonce. -/
def prunedPurchase : Traced :=
  ((Traced.empty.appends externals
    [ (firstCtx, ⟨10⟩, .authorized (mandate alice) (cart.snapshot Core.Sample.sha256) "k1"),
      (firstCtx, ⟨11⟩, payment),
      (firstCtx, ⟨12⟩, .settled "mock" "pay-1@2"),
      (firstCtx, ⟨13⟩, .delivered ⟨"receipt-1", .agentReported⟩) ]).prune ⟨100⟩).appends externals
    [ (secondCtx, ⟨110⟩, .authorized (mandate alice) smallCart "k2") ]

theorem prunedPurchase_reachable : Traced.Reachable externals prunedPurchase := by
  refine Traced.Reachable.appends (.tail ?_ (.prune _ _)) _
  exact Traced.Reachable.appends .refl _

/-- Two purchases, each paid with the same nonce. -/
def doublePayment : List (Fin 4 × ContextId × EventBody) :=
  [ (0, firstCtx, .authorized (mandate alice) (cart.snapshot Core.Sample.sha256) "k1"),
    (1, secondCtx, .authorized (mandate alice) smallCart "k2"),
    (2, firstCtx, payment),
    (3, secondCtx, payment) ]

/-- Both payments have found their records when the first claims the nonce; the
second waits for its commit. -/
def paymentRace : List (Fin 4) :=
  List.replicate 13 0 ++ List.replicate 13 1 ++ List.replicate 2 3 ++ List.replicate 9 2 ++
    List.replicate 3 3

end Sample

theorem sample_noncesOnce :
    (Sample.prunedPurchase.inner.chain Core.Sample.firstCtx = [] ∧
      (Sample.prunedPurchase.append Sample.externals Core.Sample.secondCtx ⟨111⟩
        Sample.payment).1 = .ok .nonceAlreadyUsed ∧
      MemoryNonces Sample.externals Sample.prunedPurchase) ∧
    (Sample.run Sample.externals (fun _ _ => True) Sample.doublePayment Sample.paymentRace).finished 3 =
        some (.append (.ok .nonceAlreadyUsed)) ∧
      (payments ("mock", "nonce-1") (Sample.run Sample.externals (fun _ _ => True) Sample.doublePayment
        Sample.paymentRace).shared.tables.events).length = 1 ∧
      PostgresNonces (Sample.run Sample.externals (fun _ _ => True) Sample.doublePayment Sample.paymentRace) := by
  have once := reachable_noncesOnce Sample.externals
  refine ⟨⟨by decide +kernel, by decide +kernel, ?_⟩, by decide +kernel, by decide +kernel, ?_⟩
  · exact once.1 _ Sample.prunedPurchase_reachable
  · exact once.2 _ _ _ (Sample.run_reachable Sample.externals _ (by decide) (fun _ _ => trivial) _)

end MandateLedger.Postgres
