import MandateLedger.X402.Payment
import MandateLedger.X402.Settlement

namespace MandateLedger.X402

open MandateLedger.Core MandateLedger.Data

inductive RegistryError where
  | duplicateContract (chain : ChainId) (contract : Address)
  /-- the source reports one of the contracts that have the symbol -/
  | duplicateSymbol (chain : ChainId) (symbol : String) (existing : Finset Address)
deriving DecidableEq

namespace AssetRegistry

/-- The contracts on a chain that have a symbol. -/
def contractsOf (registry : AssetRegistry) (chain : ChainId) (symbol : Currency) :
    Finset Address :=
  (Table.keepRows (fun key known => decide (key.1 = chain ∧ known.symbol = symbol))
    registry).keys.image Prod.snd

/-- `AssetRegistry::with_asset`. -/
def withAsset (registry : AssetRegistry) (chain : ChainId) (contract : Address) (asset : Asset) :
    Except RegistryError AssetRegistry :=
  if (registry.lookup (chain, contract)).isSome then
    .error (.duplicateContract chain contract)
  else if registry.contractsOf chain asset.symbol ≠ ∅ then
    .error (.duplicateSymbol chain asset.symbol.code (registry.contractsOf chain asset.symbol))
  else
    .ok (registry.insert (chain, contract) asset)

/-- The registries that calls of `with_asset` build. -/
inductive Built : AssetRegistry → Prop where
  | new : Built ∅
  | withAsset {registry after : AssetRegistry} {chain : ChainId} {contract : Address}
      {asset : Asset} (built : Built registry)
      (added : registry.withAsset chain contract asset = .ok after) : Built after

/-- On one chain a symbol names one token. -/
def OneTokenPerSymbol (registry : AssetRegistry) : Prop :=
  ∀ chain first second token other, registry.lookup (chain, first) = some token →
    registry.lookup (chain, second) = some other → token.symbol = other.symbol → first = second

theorem mem_contractsOf {registry : AssetRegistry} {chain : ChainId} {symbol : Currency}
    {contract : Address} :
    contract ∈ registry.contractsOf chain symbol ↔
      ∃ known, registry.lookup (chain, contract) = some known ∧ known.symbol = symbol := by
  unfold contractsOf
  simp only [Finset.mem_image, Finmap.mem_keys, Finmap.mem_iff, Table.lookup_keepRows,
    Option.filter_eq_some_iff, decide_eq_true_eq, Prod.exists]
  constructor
  · intro found
    obtain ⟨_, _, ⟨known, held, rfl, same⟩, rfl⟩ := found
    exact ⟨known, held, same⟩
  · intro found
    obtain ⟨known, held, same⟩ := found
    exact ⟨chain, contract, ⟨known, held, rfl, same⟩, rfl⟩

theorem withAsset_eq_ok {registry after : AssetRegistry} {chain : ChainId} {contract : Address}
    {asset : Asset} :
    registry.withAsset chain contract asset = .ok after ↔
      registry.lookup (chain, contract) = none ∧
        (∀ other known, registry.lookup (chain, other) = some known →
          known.symbol ≠ asset.symbol) ∧
        registry.insert (chain, contract) asset = after := by
  have free : registry.contractsOf chain asset.symbol = ∅ ↔
      ∀ other known, registry.lookup (chain, other) = some known →
        known.symbol ≠ asset.symbol := by
    rw [Finset.eq_empty_iff_forall_notMem]
    simp only [mem_contractsOf, not_exists, not_and, ne_eq]
  unfold withAsset
  rw [← free]
  cases registry.lookup (chain, contract) with
  | some known => simp
  | none => by_cases none : registry.contractsOf chain asset.symbol = ∅ <;> simp [none]

theorem Built.oneTokenPerSymbol {registry : AssetRegistry} (built : Built registry) :
    registry.OneTokenPerSymbol := by
  induction built with
  | new =>
      intro chain first second token other held
      cases held
  | withAsset built added ih =>
      obtain ⟨-, free, rfl⟩ := withAsset_eq_ok.mp added
      intro chain first second token other held held' same
      rw [Table.lookup_insert_eq] at held held'
      split at held
      · next key =>
          cases key
          cases held
          split at held'
          · next key =>
              cases key
              rfl
          · exact absurd same.symm (free second other held')
      · split at held'
        · next key =>
            cases key
            cases held'
            exact absurd same (free first token held)
        · exact ih chain first second token other held held' same

end AssetRegistry

/-- x402's `ResourceInfo`, as far as it is checked. -/
structure ResourceInfo where
  url : String
  serviceName : Option String
  tags : Option (List String)
  iconUrl : Option String
deriving DecidableEq

structure X402Cart where
  x402Version : UInt8
  resource : ResourceInfo
  accepted : PaymentRequirements

def PaymentRequirements.ofValue (value : JsonValue) : Option PaymentRequirements := do
  let field ← value.asStruct false
    ["scheme", "network", "amount", "asset", "payTo", "maxTimeoutSeconds", "extra"]
  let text := fun name => (field name).bind JsonValue.asStr
  return {
    scheme := ← text "scheme"
    network := ← text "network"
    amount := ← text "amount"
    asset := ← text "asset"
    payTo := ← text "payTo"
    maxTimeoutSeconds :=
      UInt32.ofNat (← (field "maxTimeoutSeconds").bind (JsonValue.asUnsigned UInt32.size))
    extra := ← JsonValue.optional some (field "extra") }

def ResourceInfo.ofValue (value : JsonValue) : Option ResourceInfo := do
  let field ← value.asStruct false
    ["url", "description", "mimeType", "serviceName", "tags", "iconUrl"]
  let url ← (field "url").bind JsonValue.asStr
  -- two fields that are read and not checked
  let _ ← JsonValue.optional JsonValue.asStr (field "description")
  let _ ← JsonValue.optional JsonValue.asStr (field "mimeType")
  return {
    url := url
    serviceName := ← JsonValue.optional JsonValue.asStr (field "serviceName")
    tags := ← JsonValue.optional (fun tags => tags.asArray.bind (·.mapM JsonValue.asStr))
      (field "tags")
    iconUrl := ← JsonValue.optional JsonValue.asStr (field "iconUrl") }

/-- The document refuses fields it does not know; `extensions` may hold anything. -/
def X402Cart.ofValue (value : JsonValue) : Option X402Cart := do
  let field ← value.asStruct true ["x402Version", "resource", "accepted", "extensions"]
  return {
    x402Version := UInt8.ofNat (← (field "x402Version").bind (JsonValue.asUnsigned UInt8.size))
    resource := ← (field "resource").bind ResourceInfo.ofValue
    accepted := ← (field "accepted").bind PaymentRequirements.ofValue }

structure JsonLibraries where
  fromSlice : Bytes → Except String JsonValue
  deserialize : JsonValue → Except String X402Cart
  canonicalJson : JsonValue → Except CanonicalizeError Bytes

/-- `AdapterError`, with the two kinds that come from `ml-core`. -/
inductive CartError where
  | field (error : AdapterError)
  | id (error : IdError)
  | canonicalize (error : CanonicalizeError)
deriving DecidableEq

/-- A service name or a tag: 1 to 32 printable ASCII characters. -/
def label (field value : String) : Except AdapterError Unit :=
  let printable := (utf8 value).all fun byte => 0x20 ≤ byte && byte ≤ 0x7e
  ensure (value ≠ "" ∧ value.utf8ByteSize ≤ 32 ∧ printable = true)
    (.malformed s!"{field}: 1 to 32 printable ASCII characters")

def utf16Length (text : String) : Nat :=
  (text.toList.map fun char => if char.toNat < 0x10000 then 1 else 2).sum

/-- `cart::resource`. -/
def ResourceInfo.check (info : ResourceInfo) : Except AdapterError Unit := do
  ensure (info.url ≠ "") (.malformed "resource.url: required")
  info.serviceName.forM (label "resource.serviceName")
  info.tags.forM fun tags => do
    ensure (tags.length ≤ 5) (.malformed "resource.tags: at most 5")
    tags.forM (label "resource.tags")
  info.iconUrl.forM fun icon =>
    ensure (utf16Length icon ≤ 2048) (.malformed "resource.iconUrl: at most 2048 characters")

section Normalize

variable (keccak256 : Bytes → Hash32) (libraries : JsonLibraries) (registry : AssetRegistry)

/-- `normalize`, once the document is read. -/
def normalizeDocument (value : JsonValue) (document : X402Cart) : Except CartError Cart := do
  (ensure (document.x402Version = 2) (.unsupported "x402Version: only 2")).mapError .field
  document.resource.check.mapError .field
  let terms ← (terms keccak256 registry document.accepted).mapError .field
  let merchant ← (StringId.new .merchant (accountId terms.chain terms.payTo)).mapError .id
  let raw ← (libraries.canonicalJson value).mapError .canonicalize
  return ⟨⟨merchant, terms.total, none, none⟩, .agentReported, raw⟩

/-- `X402CartAdapter::normalize`. -/
def normalize (raw : Bytes) : Except CartError Cart := do
  let value ← (libraries.fromSlice raw).mapError fun why =>
    .field (.malformed s!"not JSON: {why}")
  let document ← (libraries.deserialize value).mapError fun why =>
    .field (.malformed s!"not an x402 cart: {why}")
  normalizeDocument keccak256 libraries registry value document

end Normalize

section Pricing

variable {keccak256 : Bytes → Hash32} {curve : Secp256k1} {libraries : JsonLibraries}
  {registry : AssetRegistry} {rail : X402Rail}

theorem normalizeDocument_eq_ok {value : JsonValue} {document : X402Cart} {cart : Cart}
    (normalized : normalizeDocument keccak256 libraries registry value document = .ok cart) :
    ∃ read raw, terms keccak256 registry document.accepted = .ok read ∧
      libraries.canonicalJson value = .ok raw ∧
      cart = ⟨⟨accountMerchant read.chain read.payTo, read.total, none, none⟩, .agentReported,
        raw⟩ := by
  obtain ⟨-, rest⟩ := check_bind_eq_ok.mp normalized
  obtain ⟨-, rest⟩ := check_bind_eq_ok.mp rest
  obtain ⟨read, checked, rest⟩ := bind_eq_ok.mp rest
  obtain ⟨merchant, named, rest⟩ := bind_eq_ok.mp rest
  obtain ⟨raw, canonical, rest⟩ := bind_eq_ok.mp rest
  cases rest
  rw [mapError_eq_ok, new_accountId] at named
  cases named
  exact ⟨read, raw, mapError_eq_ok.mp checked, mapError_eq_ok.mp canonical, rfl⟩

/-- What a payment that is accepted reports. -/
theorem verifyProof_eq_ok {now : Timestamp} {proof : PaymentPayload}
    {expected : PaymentExpectation} {verified : VerifiedProof}
    (accepted : rail.verifyProof keccak256 curve now proof expected = .ok verified) :
    ∃ read auth, rail.authenticate keccak256 curve proof = .ok (read, auth) ∧
      terms keccak256 rail.registry proof.accepted = .ok read ∧
      auth.payee = read.payTo ∧ auth.value = read.atomicAmount ∧
      verified.amount = read.total ∧
      verified.boundMerchant = some (accountMerchant read.chain read.payTo) := by
  obtain ⟨⟨read, auth⟩, authentic, reported⟩ := X402Rail.verifyProof_reports accepted
  obtain ⟨checked, signature, -, payee, value, -⟩ := X402Rail.authenticate_eq_ok authentic
  refine ⟨read, auth, authentic, checked, payee, value, ?_⟩
  obtain ⟨amount, priced, rest⟩ := bind_eq_ok.mp reported
  obtain ⟨merchant, named, rest⟩ := bind_eq_ok.mp rest
  cases rest
  rw [orInvalid, mapError_eq_ok, value, (terms_eq_ok checked).priced] at priced
  rw [mapError_eq_ok, payee, new_accountId] at named
  cases priced
  cases named
  exact ⟨rfl, rfl⟩

theorem accountMerchant_injective {chain other : ChainId} {address account : Address}
    (same : accountMerchant chain address = accountMerchant other account) :
    chain = other ∧ address = account := by
  have text : accountId chain address = accountId other account := congrArg StringId.val same
  have characters := congrArg String.toList text
  simp only [accountId, String.toList_append] at characters
  have width : ∀ address : Address, address.toString.toList.length = 42 := by
    intro address
    simp only [Address.toString, String.toList_append, List.length_append, hexEncode_length,
      address.length_eq]
    rfl
  obtain ⟨front, back⟩ := List.append_inj' characters (by rw [width, width])
  refine ⟨ChainId.toString_injective (String.toList_injective ?_),
    Address.toString_injective (String.toList_injective back)⟩
  exact List.append_cancel_right front

theorem atomic_eq_of_money {token : Asset} {atomic units : Nat} {price paid : Money}
    (priced : money atomic token = .ok price) (settled : money units token = .ok paid)
    (same : price.value = paid.value) : atomic = units := by
  unfold money decimalOf at priced settled
  split at priced
  · cases priced
  · split at settled
    · cases settled
    · next amount written _ sum written' =>
        simp only [Option.ite_none_right_eq_some, Option.some.injEq] at written written'
        obtain ⟨-, rfl⟩ := written
        obtain ⟨-, rfl⟩ := written'
        cases priced
        cases settled
        simp only [Money.value, Decimal.toRat, Decimal.signed, Bool.false_eq_true, if_false] at same
        rw [div_left_inj' (Decimal.ten_pow_pos _).ne'] at same
        exact_mod_cast same

theorem money_currency {token : Asset} {atomic : Nat} {price : Money}
    (priced : money atomic token = .ok price) : price.currency = token.symbol := by
  unfold money at priced
  split at priced
  · cases priced
  · cases priced
    rfl

theorem normalize_eq_ok {raw : Bytes} {cart : Cart} :
    normalize keccak256 libraries registry raw = .ok cart ↔
      ∃ value document, libraries.fromSlice raw = .ok value ∧
        libraries.deserialize value = .ok document ∧
        normalizeDocument keccak256 libraries registry value document = .ok cart := by
  unfold normalize
  simp only [bind_eq_ok, mapError_eq_ok, exists_and_left]

/-- What a cart and a payment agree on: the chain, the token, the payee and the
atomic amount. -/
structure SamePurchase (cart payment : ExactTerms) (auth : Authorization) : Prop where
  chain : payment.chain = cart.chain
  asset : payment.asset = cart.asset
  payee : auth.payee = cart.payTo
  value : auth.value = cart.atomicAmount

/-- Terms of one merchant and of equal money, under a registry with one token to a
symbol, are terms of one purchase. -/
theorem AssetRegistry.OneTokenPerSymbol.samePurchase (unique : registry.OneTokenPerSymbol)
    {accepted presented : PaymentRequirements} {cart payment : ExactTerms} {auth : Authorization}
    (priced : terms keccak256 registry accepted = .ok cart)
    (checked : terms keccak256 registry presented = .ok payment)
    (payee : auth.payee = payment.payTo) (value : auth.value = payment.atomicAmount)
    (amount : (payment.total == cart.total) = true)
    (merchant : accountMerchant payment.chain payment.payTo =
      accountMerchant cart.chain cart.payTo) :
    SamePurchase cart payment auth := by
  have known := (terms_eq_ok priced).known
  have price := (terms_eq_ok priced).priced
  have held := (terms_eq_ok checked).known
  have paid := (terms_eq_ok checked).priced
  obtain ⟨worth, currency⟩ := (Money.beq_iff _ _).mp amount
  obtain ⟨chain, recipient⟩ := accountMerchant_injective merchant
  have symbol : payment.token.symbol = cart.token.symbol := by
    rw [← money_currency paid, ← money_currency price, currency]
  rw [chain] at held
  have asset : payment.asset = cart.asset :=
    unique cart.chain payment.asset cart.asset payment.token cart.token held known symbol
  have token : payment.token = cart.token := by
    rw [asset, known] at held
    exact (Option.some.inj held).symm
  rw [token] at paid
  exact ⟨chain, asset, payee.trans recipient, value.trans (atomic_eq_of_money paid price worth)⟩

/-- **The x402 cart and the x402 payment price the same thing.** -/
theorem cart_prices_payment (built : rail.registry.Built) :
    -- within one chain no two contracts share a symbol
    rail.registry.OneTokenPerSymbol ∧
    ∀ raw cart, normalize keccak256 libraries rail.registry raw = .ok cart →
      ∃ value document, libraries.fromSlice raw = .ok value ∧
        libraries.deserialize value = .ok document ∧
        ∀ now proof expected verified,
          rail.verifyProof keccak256 curve now proof expected = .ok verified →
          -- a payment of the cart's own requirement reports what the cart claims
          (proof.accepted = document.accepted →
            verified.amount = cart.claims.total ∧
              verified.boundMerchant = some cart.claims.merchant) ∧
          -- a payment that reports what the cart claims pays the cart's requirement
          ((verified.amount == cart.claims.total) = true →
            verified.boundMerchant = some cart.claims.merchant →
            ∃ priced paid auth, terms keccak256 rail.registry document.accepted = .ok priced ∧
              rail.authenticate keccak256 curve proof = .ok (paid, auth) ∧
              SamePurchase priced paid auth) := by
  refine ⟨built.oneTokenPerSymbol, ?_⟩
  intro raw cart normalized
  obtain ⟨value, document, json, parsed, normalized⟩ := normalize_eq_ok.mp normalized
  refine ⟨value, document, json, parsed, ?_⟩
  intro now proof expected verified accepted
  obtain ⟨priced, bytes, read, -, rfl⟩ := normalizeDocument_eq_ok normalized
  obtain ⟨paid, auth, authentic, checked, payee, amount, reported, bound⟩ :=
    verifyProof_eq_ok accepted
  rw [reported, bound]
  constructor
  · intro same
    rw [same, read] at checked
    cases checked
    exact ⟨rfl, rfl⟩
  · intro equal named
    exact ⟨priced, paid, auth, read, authentic,
      built.oneTokenPerSymbol.samePurchase read checked payee amount equal (Option.some.inj named)⟩

end Pricing

namespace Sample

def requirements : PaymentRequirements where
  scheme := "exact"
  network := baseSepolia.toString
  amount := "10000"
  asset := usdcContract.toString
  payTo := payTo.toString
  maxTimeoutSeconds := 60
  extra := some (.object [("name", .string "USDC"), ("version", .string "2")])

def document : X402Cart where
  x402Version := 2
  resource := ⟨"https://api.example.com/premium-data", none, none, none⟩
  accepted := requirements

def value : JsonValue :=
  .object [("x402Version", .number "2"),
    ("resource", .object [("url", .string "https://api.example.com/premium-data")]),
    ("accepted", .object [("scheme", .string "exact"), ("network", .string baseSepolia.toString),
      ("amount", .string "10000"), ("asset", .string usdcContract.toString),
      ("payTo", .string payTo.toString), ("maxTimeoutSeconds", .number "60"),
      ("extra", .object [("name", .string "USDC"), ("version", .string "2")])])]

/-- The document as it is sent. -/
def wire : Bytes :=
  utf8 ("\x7b\"x402Version\":2,\"resource\":\x7b\"url\":" ++
    "\"https://api.example.com/premium-data\"\x7d,\"accepted\":\x7b\"scheme\":\"exact\"," ++
    "\"network\":\"" ++ baseSepolia.toString ++ "\",\"amount\":\"10000\",\"asset\":\"" ++
    usdcContract.toString ++ "\",\"payTo\":\"" ++ payTo.toString ++
    "\",\"maxTimeoutSeconds\":60,\"extra\":\x7b\"name\":\"USDC\",\"version\":\"2\"\x7d\x7d\x7d")

/-- The document with its keys in order. -/
def canonical : Bytes :=
  utf8 ("\x7b\"accepted\":\x7b\"amount\":\"10000\",\"asset\":\"" ++ usdcContract.toString ++
    "\",\"extra\":\x7b\"name\":\"USDC\",\"version\":\"2\"\x7d,\"maxTimeoutSeconds\":60," ++
    "\"network\":\"" ++ baseSepolia.toString ++ "\",\"payTo\":\"" ++ payTo.toString ++
    "\",\"scheme\":\"exact\"\x7d,\"resource\":\x7b\"url\":" ++
    "\"https://api.example.com/premium-data\"\x7d,\"x402Version\":2\x7d")

def libraries : JsonLibraries where
  fromSlice raw := if raw = wire then .ok value else .error "expected value"
  deserialize given := (X402Cart.ofValue given).elim (.error "missing field") .ok
  canonicalJson given :=
    (X402Cart.ofValue given).elim (.error ⟨"unknown document"⟩) fun _ => .ok canonical

def nobody : Address := ⟨List.replicate 20 0, length_zeros⟩

/-- Signatures that all recover to one key, whose address is `nobody`. -/
def curve : Secp256k1 := ⟨Unit, fun _ => some (), fun _ => false, fun _ _ _ => some []⟩

def authorizationBody : AuthorizationBody where
  payer := nobody.toString
  payee := payTo.toString
  value := "10000"
  validAfter := "0"
  validBefore := "1800000060"
  nonce := "0x" ++ hexEncode (List.replicate 32 0)

def signedPayment : PaymentPayload where
  x402Version := 2
  accepted := requirements
  payload := ⟨"0x" ++ hexEncode (List.replicate 64 0 ++ [27]), authorizationBody⟩

def pricedCart : Cart where
  claims := ⟨accountMerchant baseSepolia payTo, ⟨⟨false, 10000, 6⟩, Core.Sample.usdc⟩, none, none⟩
  attestation := .agentReported
  raw := canonical

def reported : VerifiedProof where
  nonce := (AuthorizationRef.mk baseSepolia usdcContract nobody Hash32.zero 1800000060).identity
  reference := (AuthorizationRef.mk baseSepolia usdcContract nobody Hash32.zero 1800000060).toString
  amount := ⟨⟨false, 10000, 6⟩, Core.Sample.usdc⟩
  boundCtx := some Core.Sample.firstCtx
  boundCart := none
  boundMerchant := some (accountMerchant baseSepolia payTo)

theorem registry_built : rail.registry.Built :=
  .withAsset .new (AssetRegistry.withAsset_eq_ok.mpr ⟨rfl, by simp, rfl⟩)

def expectation : PaymentExpectation :=
  ⟨Core.Sample.firstCtx, Hash32.zero, ⟨⟨false, 10000, 6⟩, Core.Sample.usdc⟩,
    accountMerchant baseSepolia payTo, none⟩

theorem address_toString (keccak256 : Bytes → Hash32) (field : String) (printed : Address) :
    X402.address keccak256 field printed.toString = .ok printed := by
  unfold X402.address
  rw [Address.parse_toString]
  simp [Address.toString, strip0x_append]

theorem requirements_read (keccak256 : Bytes → Hash32) :
    terms keccak256 rail.registry requirements = .ok ⟨baseSepolia, usdcContract,
      ⟨Core.Sample.usdc, 6, "USDC", "2"⟩, payTo, 10000, ⟨⟨false, 10000, 6⟩, Core.Sample.usdc⟩, 60⟩ := by
  have chain : ChainId.parse baseSepolia.toString = .ok baseSepolia := by
    have printed : baseSepolia.toString.toList =
        "eip155:".toList ++ (Nat.repr baseSepolia.id.toNat).toList := by
      simp [ChainId.toString]
    unfold ChainId.parse
    rw [printed, if_pos (by simp)]
    exact ChainId.parseId_repr (by decide)
  have known : rail.registry.lookup (baseSepolia, usdcContract) =
      some ⟨Core.Sample.usdc, 6, "USDC", "2"⟩ := by simp [rail]
  have amount : uint "amount" "10000" = .ok 10000 := rfl
  have proper : payTo.bytes ≠ List.replicate 20 0 ∧ payTo ≠ usdcContract := by decide +kernel
  simp only [terms, requirements, chain, address_toString, known, amount, ensure, proper,
    ok_bind, ne_eq, not_false_eq_true, if_true]
  rfl

theorem value_read : X402Cart.ofValue value = some document := rfl

theorem wire_read : libraries.fromSlice wire = .ok value := by
  simp only [libraries, if_true]

theorem value_deserialized : libraries.deserialize value = .ok document := by
  simp only [libraries, value_read, Option.elim_some]

theorem document_normalized :
    normalize keccak256 libraries rail.registry wire = .ok pricedCart := by
  have parsed := wire_read
  have typed := value_deserialized
  have checked : document.resource.check = .ok () := rfl
  have read : terms keccak256 rail.registry document.accepted = _ := requirements_read keccak256
  have canonical : libraries.canonicalJson value = .ok canonical := by
    simp only [libraries, value_read, Option.elim_some]
  have current : document.x402Version = 2 := rfl
  simp only [normalize, normalizeDocument, parsed, typed, checked, read, canonical, current,
    new_accountId, ensure, mapError_ok, ok_bind, if_true]
  rfl

/-- A payload as a client prints it is read back. -/
theorem authorizationBody_parsed (keccak256 : Bytes → Hash32) (nonce : FixedBytes 32)
    (signature : FixedBytes 65) :
    (ExactEvmPayload.mk ("0x" ++ hexEncode signature.bytes)
      { authorizationBody with nonce := "0x" ++ hexEncode nonce.bytes }).parse keccak256 =
      .ok (⟨nobody, payTo, 10000, 0, 1800000060, nonce⟩, signature) := by
  have value : uint "authorization.value" "10000" = .ok 10000 := rfl
  have after : unixTime "authorization.validAfter" "0" = .ok 0 := rfl
  have before : unixTime "authorization.validBefore" "1800000060" = .ok 1800000060 := rfl
  simp only [ExactEvmPayload.parse, authorizationBody, address_toString, value, after, before,
    bytes_hexEncode, ok_bind, mapError_ok]
  rfl

/-- A signature with this last byte. -/
def signature (v : UInt8) : FixedBytes 65 := ⟨List.replicate 64 0 ++ [v], by simp⟩

theorem recover_signature {keccak256 : Bytes → Hash32} (recovers : addressOf keccak256 [] = nobody)
    {v : UInt8} (legacy : v = 27 ∨ v = 28) (digest : Hash32) :
    recover keccak256 curve digest (signature v) = .ok nobody := by
  rw [← recovers]
  obtain rfl | rfl := legacy <;> rfl

/-- The payment with a nonce and a signature of its own, under a hash that takes the recovered
key to `nobody`. -/
theorem payment_verified {keccak256 : Bytes → Hash32} (recovers : addressOf keccak256 [] = nobody)
    {v : UInt8} (legacy : v = 27 ∨ v = 28) (nonce : FixedBytes 32) {expected : PaymentExpectation}
    (unrecorded : expected.recordedReference = none) :
    rail.verifyProof keccak256 curve ⟨1800000000⟩
      { signedPayment with
        payload := ⟨"0x" ++ hexEncode (signature v).bytes,
          { authorizationBody with nonce := "0x" ++ hexEncode nonce.bytes }⟩ } expected =
      .ok { reported with
        nonce := (AuthorizationRef.mk baseSepolia usdcContract nobody nonce 1800000060).identity
        reference := (AuthorizationRef.mk baseSepolia usdcContract nobody nonce 1800000060).toString
        boundCtx := if nonce = bindingNonce keccak256 expected.ctx then some expected.ctx else none } := by
  have parsed := authorizationBody_parsed keccak256 nonce (signature v)
  have recovered := recover_signature recovers legacy
  have authentic : rail.authenticate keccak256 curve { signedPayment with
        payload := ⟨"0x" ++ hexEncode (signature v).bytes,
          { authorizationBody with nonce := "0x" ++ hexEncode nonce.bytes }⟩ } =
      .ok (⟨baseSepolia, usdcContract, ⟨Core.Sample.usdc, 6, "USDC", "2"⟩, payTo, 10000,
        ⟨⟨false, 10000, 6⟩, Core.Sample.usdc⟩, 60⟩, ⟨nobody, payTo, 10000, 0, 1800000060, nonce⟩) := by
    simp only [X402Rail.authenticate, signedPayment, requirements_read, parsed, recovered, orInvalid,
      ensure, ok_bind, mapError_ok, if_true]
    rfl
  have fresh : X402Rail.checkFresh ⟨1800000000⟩ ⟨nobody, payTo, 10000, 0, 1800000060, nonce⟩ =
      .ok () := by
    refine check_bind_eq_ok.mpr ⟨ensure_eq_ok.mpr ?_, ensure_eq_ok.mpr ?_⟩
    · change ¬((1800000060 : UInt64).toNat : Int) < (1800000000 : Int64).toInt + 6
      decide
    · change ¬(1800000000 : Int64).toInt < (0 : UInt64).toNat
      decide
  have priced : money 10000 ⟨Core.Sample.usdc, 6, "USDC", "2"⟩ =
      .ok ⟨⟨false, 10000, 6⟩, Core.Sample.usdc⟩ := by decide
  unfold X402Rail.verifyProof
  rw [authentic, ok_bind, unrecorded]
  dsimp only
  rw [if_pos (Option.some_ne_none _).symm, fresh, ok_bind]
  simp only [X402Rail.report, X402Rail.authorizationRef, new_accountId, orInvalid, priced,
    mapError_ok, ok_bind]
  rfl

theorem signedPayment_verified :
    rail.verifyProof keccak256 curve ⟨1800000000⟩ signedPayment expectation = .ok reported :=
  payment_verified rfl (.inl rfl) Hash32.zero rfl

end Sample

theorem signedPayment_pays_cart :
    Sample.rail.registry.Built ∧
    normalize Sample.keccak256 Sample.libraries Sample.rail.registry Sample.wire =
      .ok Sample.pricedCart ∧
    Sample.rail.verifyProof Sample.keccak256 Sample.curve ⟨1800000000⟩ Sample.signedPayment
      Sample.expectation = .ok Sample.reported ∧
    Sample.reported.amount = Sample.pricedCart.claims.total ∧
    ∃ priced paid auth,
      Sample.rail.authenticate Sample.keccak256 Sample.curve Sample.signedPayment =
        .ok (paid, auth) ∧
      SamePurchase priced paid auth := by
  have normalized := Sample.document_normalized
  have accepted := Sample.signedPayment_verified
  refine ⟨Sample.registry_built, normalized, accepted, ?_⟩
  obtain ⟨value, document, sent, parsed, agree⟩ :=
    (cart_prices_payment Sample.registry_built).2 Sample.wire Sample.pricedCart normalized
  cases Sample.wire_read.symm.trans sent
  cases Sample.value_deserialized.symm.trans parsed
  obtain ⟨claims, purchase⟩ := agree _ _ _ _ accepted
  have claims := claims rfl
  obtain ⟨priced, paid, auth, -, authentic, same⟩ := purchase (by decide +kernel) claims.2
  exact ⟨claims.1, priced, paid, auth, authentic, same⟩

end MandateLedger.X402
