import MandateLedger.X402.Cart

namespace MandateLedger.X402

open MandateLedger.Core MandateLedger.Data

/-- What the adapter relies on: documents are read as derived, and two documents have the
same canonical form only if they differ in the order of keys and in numbers that round to
the same double. -/
structure JsonLibraries.Faithful {Double : Type} (libraries : JsonLibraries)
    (double : String → Double) : Prop where
  derived : ∀ value document, libraries.deserialize value = .ok document ↔
    X402Cart.ofValue value = some document
  canonical : ∀ first second bytes, libraries.canonicalJson first = .ok bytes →
    libraries.canonicalJson second = .ok bytes → JsonValue.Alike double first second

section Canonical

variable {keccak256 : Bytes → Hash32} {registry : AssetRegistry} {libraries : JsonLibraries}
  {Double : Type} {double : String → Double}

/-- The texts that decide what a cart claims. -/
structure PricedAlike (first second : PaymentRequirements) : Prop where
  network : first.network = second.network
  amount : first.amount = second.amount
  asset : first.asset = second.asset
  payTo : first.payTo = second.payTo

theorem PaymentRequirements.ofValue_eq_some {value : JsonValue} {accepted : PaymentRequirements}
    (read : PaymentRequirements.ofValue value = some accepted) :
    ∃ field, value.asStruct false
        ["scheme", "network", "amount", "asset", "payTo", "maxTimeoutSeconds", "extra"] =
          some field ∧
      (field "network").bind JsonValue.asStr = some accepted.network ∧
      (field "amount").bind JsonValue.asStr = some accepted.amount ∧
      (field "asset").bind JsonValue.asStr = some accepted.asset ∧
      (field "payTo").bind JsonValue.asStr = some accepted.payTo := by
  obtain ⟨field, fields, read⟩ := Option.bind_eq_some_iff.mp read
  obtain ⟨scheme, -, read⟩ := Option.bind_eq_some_iff.mp read
  obtain ⟨network, network_eq, read⟩ := Option.bind_eq_some_iff.mp read
  obtain ⟨amount, amount_eq, read⟩ := Option.bind_eq_some_iff.mp read
  obtain ⟨asset, asset_eq, read⟩ := Option.bind_eq_some_iff.mp read
  obtain ⟨payTo, payTo_eq, read⟩ := Option.bind_eq_some_iff.mp read
  obtain ⟨seconds, -, read⟩ := Option.bind_eq_some_iff.mp read
  obtain ⟨extra, -, read⟩ := Option.bind_eq_some_iff.mp read
  cases read
  exact ⟨field, fields, network_eq, amount_eq, asset_eq, payTo_eq⟩

theorem X402Cart.ofValue_eq_some {value : JsonValue} {document : X402Cart}
    (read : X402Cart.ofValue value = some document) :
    ∃ field accepted, value.asStruct true ["x402Version", "resource", "accepted", "extensions"] =
        some field ∧
      field "accepted" = some accepted ∧
      PaymentRequirements.ofValue accepted = some document.accepted := by
  obtain ⟨field, fields, read⟩ := Option.bind_eq_some_iff.mp read
  obtain ⟨version, -, read⟩ := Option.bind_eq_some_iff.mp read
  obtain ⟨resource, -, read⟩ := Option.bind_eq_some_iff.mp read
  obtain ⟨requirements, held, read⟩ := Option.bind_eq_some_iff.mp read
  obtain ⟨accepted, found, parsed⟩ := Option.bind_eq_some_iff.mp held
  cases read
  exact ⟨field, accepted, fields, found, parsed⟩

theorem PricedAlike.of_requirements {first second : JsonValue}
    {accepted presented : PaymentRequirements} (alike : JsonValue.Alike double first second)
    (read : PaymentRequirements.ofValue first = some accepted)
    (reread : PaymentRequirements.ofValue second = some presented) :
    PricedAlike accepted presented := by
  obtain ⟨field, fields, network, amount, asset, payTo⟩ :=
    PaymentRequirements.ofValue_eq_some read
  obtain ⟨other, others, network', amount', asset', payTo'⟩ :=
    PaymentRequirements.ofValue_eq_some reread
  have texts : ∀ name, (field name).bind JsonValue.asStr = (other name).bind JsonValue.asStr :=
    fun name => JsonValue.text_eq_of_rel (alike.asStruct_rel fields others name)
  rw [texts] at network amount asset payTo
  exact ⟨Option.some.inj (network.symm.trans network'), Option.some.inj (amount.symm.trans amount'),
    Option.some.inj (asset.symm.trans asset'), Option.some.inj (payTo.symm.trans payTo')⟩

theorem PricedAlike.of_documents {first second : JsonValue} {document other : X402Cart}
    (alike : JsonValue.Alike double first second) (read : X402Cart.ofValue first = some document)
    (reread : X402Cart.ofValue second = some other) :
    PricedAlike document.accepted other.accepted := by
  obtain ⟨field, accepted, fields, found, parsed⟩ := X402Cart.ofValue_eq_some read
  obtain ⟨others, presented, fields', found', parsed'⟩ := X402Cart.ofValue_eq_some reread
  have related := alike.asStruct_rel fields fields' "accepted"
  rw [found, found', Option.rel_some_some] at related
  exact of_requirements related parsed parsed'

theorem PricedAlike.terms_eq {accepted presented : PaymentRequirements} {read reread : ExactTerms}
    (alike : PricedAlike accepted presented)
    (checked : terms keccak256 registry accepted = .ok read)
    (rechecked : terms keccak256 registry presented = .ok reread) :
    read.chain = reread.chain ∧ read.payTo = reread.payTo ∧ read.total = reread.total := by
  have first := terms_eq_ok checked
  have second := terms_eq_ok rechecked
  have chain : read.chain = reread.chain :=
    Except.ok.inj (first.chain.symm.trans (alike.network ▸ second.chain))
  have asset : read.asset = reread.asset :=
    Except.ok.inj (first.asset.symm.trans (alike.asset ▸ second.asset))
  have payTo : read.payTo = reread.payTo :=
    Except.ok.inj (first.payTo.symm.trans (alike.payTo ▸ second.payTo))
  have atomic : read.atomicAmount = reread.atomicAmount :=
    Except.ok.inj (first.atomicAmount.symm.trans (alike.amount ▸ second.atomicAmount))
  have token : read.token = reread.token := by
    have known := first.known
    rw [chain, asset, second.known] at known
    exact (Option.some.inj known).symm
  have priced := first.priced
  rw [atomic, token, second.priced] at priced
  exact ⟨chain, payTo, (Except.ok.inj priced).symm⟩

/-- Documents with one canonical form make the same claims. -/
theorem normalize_claims_eq (faithful : libraries.Faithful double) {wire again : Bytes}
    {cart basket : Cart} (normalized : normalize keccak256 libraries registry wire = .ok cart)
    (renormalized : normalize keccak256 libraries registry again = .ok basket)
    (same : cart.raw = basket.raw) :
    cart.claims = basket.claims ∧ cart.attestation = basket.attestation := by
  obtain ⟨value, document, -, parsed, made⟩ := normalize_eq_ok.mp normalized
  obtain ⟨other, presented, -, reparsed, remade⟩ := normalize_eq_ok.mp renormalized
  obtain ⟨read, raw, checked, canonical, rfl⟩ := normalizeDocument_eq_ok made
  obtain ⟨reread, bytes, rechecked, recanonical, rfl⟩ := normalizeDocument_eq_ok remade
  cases same
  have priced := PricedAlike.of_documents (faithful.canonical _ _ _ canonical recanonical)
    ((faithful.derived _ _).mp parsed) ((faithful.derived _ _).mp reparsed)
  obtain ⟨chain, payTo, total⟩ := priced.terms_eq checked rechecked
  rw [chain, payTo, total]
  exact ⟨rfl, rfl⟩

end Canonical

end MandateLedger.X402
