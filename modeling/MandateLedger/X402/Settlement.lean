import MandateLedger.Core.Event
import MandateLedger.Data.Matching
import MandateLedger.X402.Codec

namespace MandateLedger.X402

open MandateLedger.Core MandateLedger.Data Finset

section Judging

variable {keccak256 : Bytes → Hash32} {rail : X402Rail} {payment : AuthorizationRef}
  {expected : SettlementExpectation} {receipt : TransactionReceipt} {log : Log}

/-- `log` is a transfer, on the payment's token and from its payer, that pays
the expected merchant the expected amount. -/
def X402Rail.paidBy (keccak256 : Bytes → Hash32) (rail : X402Rail) (payment : AuthorizationRef)
    (expected : SettlementExpectation) (log : Log) : Bool :=
  match rail.token payment, log.transfer keccak256 payment.token with
  | .ok token, some transfer => meets payment expected token transfer
  | _, _ => false

structure Executes (keccak256 : Bytes → Hash32) (rail : X402Rail) (payment : AuthorizationRef)
    (expected : SettlementExpectation) (receipt : TransactionReceipt) : Prop where
  used : ∃ log ∈ receipt.logs,
    log.authorizationUsed keccak256 payment.token = some (payment.payer, payment.nonce)
  paid : ∃ log ∈ receipt.logs, rail.paidBy keccak256 payment expected log = true

structure Confirmed (rail : X402Rail) (head : UInt64) (receipt : TransactionReceipt) : Prop where
  hash : ∃ hash, bytes 32 "transactionHash" receipt.transactionHash = .ok hash
  depth : ∃ block, quantity receipt.blockNumber = some block ∧ block ≤ head ∧
    rail.policy.confirmations.toUInt64 ≤ head - block + 1
  succeeded : receipt.status = "0x1"

theorem paidBy_of_token {token : Asset} (known : rail.token payment = .ok token) :
    rail.paidBy keccak256 payment expected log = true ↔
      ∃ transfer, log.transfer keccak256 payment.token = some transfer ∧
        meets payment expected token transfer = true := by
  unfold X402Rail.paidBy
  rw [known]
  cases log.transfer keccak256 payment.token <;> simp

theorem judgeLogs_eq_ok_iff {confirmations : UInt64} {status : FinalityStatus} :
    rail.judgeLogs keccak256 payment expected confirmations receipt = .ok status ↔
      Executes keccak256 rail payment expected receipt ∧
        rail.finalOrPending receipt.transactionHash confirmations = status := by
  unfold X402Rail.judgeLogs
  cases known : rail.token payment with
  | error why =>
      simp only [error_bind, reduceCtorEq, false_iff]
      rintro ⟨⟨-, log, -, paid⟩, -⟩
      simp [X402Rail.paidBy, known] at paid
  | ok token =>
      have used : (receipt.logs.filterMap (·.authorizationUsed keccak256 payment.token)).any
            (fun used => used = (payment.payer, payment.nonce)) = true ↔
          ∃ log ∈ receipt.logs, log.authorizationUsed keccak256 payment.token =
            some (payment.payer, payment.nonce) := by
        simp only [List.any_eq_true, List.mem_filterMap, decide_eq_true_eq]
        grind
      have paid : (receipt.logs.filterMap (·.transfer keccak256 payment.token)).any
            (meets payment expected token) = true ↔
          ∃ log ∈ receipt.logs, rail.paidBy keccak256 payment expected log = true := by
        simp only [List.any_eq_true, List.mem_filterMap, paidBy_of_token known]
        grind
      rw [ok_bind, check_bind_eq_ok, ensure_eq_ok, Bool.and_eq_true, used, paid, pure_eq_ok]
      exact and_congr_left' ⟨fun ⟨used, paid⟩ => ⟨used, paid⟩, fun ⟨used, paid⟩ => ⟨used, paid⟩⟩

theorem block_eq_ok_iff {block : UInt64} :
    receipt.block = .ok block ↔ quantity receipt.blockNumber = some block := by
  unfold TransactionReceipt.block
  cases quantity receipt.blockNumber <;> simp

theorem finalOrPending_eq_final_iff {transaction settled : String} {confirmations : UInt64} :
    rail.finalOrPending transaction confirmations = .final settled ↔
      rail.policy.confirmations.toUInt64 ≤ confirmations ∧
        toAsciiLowercase transaction = settled := by
  unfold X402Rail.finalOrPending
  dsimp only
  split <;> simp [*]

theorem judgeReceipt_eq_final_iff {head : UInt64} {settled : String} :
    rail.judgeReceipt keccak256 payment expected head receipt = .ok (.final settled) ↔
      Confirmed rail head receipt ∧ Executes keccak256 rail payment expected receipt ∧
        toAsciiLowercase receipt.transactionHash = settled := by
  unfold X402Rail.judgeReceipt
  simp only [bind_eq_ok, orInvalid, mapError_eq_ok, block_eq_ok_iff, ensure_eq_ok]
  by_cases succeeded : receipt.status = "0x1"
  · simp only [succeeded, if_true, judgeLogs_eq_ok_iff, finalOrPending_eq_final_iff]
    constructor
    · rintro ⟨hash, read, block, numbered, -, behind, executes, deep, same⟩
      exact ⟨⟨⟨hash, read⟩, ⟨block, numbered, behind, deep⟩, succeeded⟩, executes, same⟩
    · rintro ⟨⟨⟨hash, read⟩, ⟨block, numbered, behind, deep⟩, -⟩, executes, same⟩
      exact ⟨hash, read, block, numbered, (), behind, executes, deep, same⟩
  · -- a reverted transaction leaves the payment pending, any other status is refused
    constructor
    · rintro ⟨hash, -, block, -, -, -, judged⟩
      rw [if_neg succeeded] at judged
      split at judged <;> simp [pure, Except.pure] at judged
    · rintro ⟨confirmed, -⟩
      exact absurd confirmed.succeeded succeeded

theorem checkFinality_receipt_eq_ok_iff {now : Timestamp} {network : String} {head : UInt64}
    {status : FinalityStatus}
    (parsed : AuthorizationRef.parse keccak256 expected.paymentReference = .ok payment) :
    rail.checkFinality keccak256 now (.receipt network head receipt) expected = .ok status ↔
      network = payment.chain.toString ∧
        rail.judgeReceipt keccak256 payment expected head receipt = .ok status := by
  unfold X402Rail.checkFinality
  rw [parsed]
  change (ensure _ _ >>= fun _ => _) = _ ↔ _
  rw [check_bind_eq_ok, ensure_eq_ok]

/-- A receipt makes a payment final exactly when it is of the payment's network,
confirmed, and executes the payment. -/
theorem checkFinality_receipt_eq_final_iff {now : Timestamp} {network settled : String}
    {head : UInt64}
    (parsed : AuthorizationRef.parse keccak256 expected.paymentReference = .ok payment) :
    rail.checkFinality keccak256 now (.receipt network head receipt) expected =
        .ok (.final settled) ↔
      network = payment.chain.toString ∧ Confirmed rail head receipt ∧
        Executes keccak256 rail payment expected receipt ∧
        toAsciiLowercase receipt.transactionHash = settled := by
  rw [checkFinality_receipt_eq_ok_iff parsed, judgeReceipt_eq_final_iff]

theorem Log.transfer_emittedBy {token : Address} {moved : Address × Address × Nat}
    (found : log.transfer keccak256 token = some moved) : log.emittedBy keccak256 token = true := by
  by_contra foreign
  simp [Log.transfer, foreign] at found

theorem Log.emittedBy_unique {first second : Address}
    (emitted : log.emittedBy keccak256 first = true)
    (emitted' : log.emittedBy keccak256 second = true) : first = second := by
  unfold Log.emittedBy at emitted emitted'
  cases parsed : Address.parse keccak256 log.address with
  | error why => simp [parsed] at emitted
  | ok address =>
      simp only [parsed, decide_eq_true_eq] at emitted emitted'
      rw [← emitted, ← emitted']

/-- What a payment buys a transfer for: payments of one purchase on one chain
are told apart by their nonces only. -/
structure Purchase where
  token : Address
  payer : Address
  merchant : MerchantId
  amount : ℚ
  currency : Currency
deriving DecidableEq

def purchase (payment : AuthorizationRef) (expected : SettlementExpectation) : Purchase where
  token := payment.token
  payer := payment.payer
  merchant := expected.merchant
  amount := expected.amount.value
  currency := expected.amount.currency

theorem meets_iff {token : Asset} {sender recipient : Address} {value : Nat} :
    meets payment expected token (sender, recipient, value) = true ↔
      sender = payment.payer ∧
      StringId.new .merchant (accountId payment.chain recipient) = .ok expected.merchant ∧
      ∃ paid, money value token = .ok paid ∧ paid.value = expected.amount.value ∧
        paid.currency = expected.amount.currency := by
  unfold meets
  rw [Bool.and_eq_true, Bool.and_eq_true, decide_eq_true_eq, decide_eq_true_eq, and_assoc]
  refine and_congr_right fun _ => and_congr ?_ ?_
  · cases StringId.new .merchant (accountId payment.chain recipient) <;> simp [Except.toOption]
  · cases money value token <;> simp [Money.beq_iff]

theorem paidBy_iff :
    rail.paidBy keccak256 payment expected log = true ↔
      ∃ token recipient value, rail.registry.lookup (payment.chain, payment.token) = some token ∧
        log.transfer keccak256 payment.token = some (payment.payer, recipient, value) ∧
        StringId.new .merchant (accountId payment.chain recipient) = .ok expected.merchant ∧
        ∃ paid, money value token = .ok paid ∧ paid.value = expected.amount.value ∧
          paid.currency = expected.amount.currency := by
  unfold X402Rail.paidBy X402Rail.token
  cases rail.registry.lookup (payment.chain, payment.token) with
  | none => simp
  | some token =>
      cases log.transfer keccak256 payment.token with
      | none => simp
      | some transfer =>
          obtain ⟨sender, recipient, value⟩ := transfer
          simp only [meets_iff, Option.some.injEq, Prod.mk.injEq]
          grind

section Sharing

variable {other : AuthorizationRef} {awaited : SettlementExpectation}

/-- On one chain, a transfer that pays two payments pays them for one purchase. -/
theorem purchase_eq_of_paidBy (chain : payment.chain = other.chain)
    (paid : rail.paidBy keccak256 payment expected log = true)
    (paid' : rail.paidBy keccak256 other awaited log = true) :
    purchase payment expected = purchase other awaited := by
  obtain ⟨token, recipient, value, known, moved, merchant, priced, price, amount, currency⟩ :=
    paidBy_iff.mp paid
  obtain ⟨token', recipient', value', known', moved', merchant', priced', price', amount',
    currency'⟩ := paidBy_iff.mp paid'
  -- the log names its contract, so both payments are on one token
  have sameToken : payment.token = other.token :=
    Log.emittedBy_unique (Log.transfer_emittedBy moved) (Log.transfer_emittedBy moved')
  rw [← chain, ← sameToken] at known'
  rw [← sameToken] at moved'
  obtain rfl : token = token' := Option.some.inj (known.symm.trans known')
  obtain ⟨samePayer, rfl, rfl⟩ : payment.payer = other.payer ∧ recipient = recipient' ∧
      value = value' := by
    simpa using moved.symm.trans moved'
  rw [← chain] at merchant'
  have sameMerchant : expected.merchant = awaited.merchant :=
    Except.ok.inj (merchant.symm.trans merchant')
  obtain rfl : priced = priced' := Except.ok.inj (price.symm.trans price')
  unfold purchase
  rw [sameToken, samePayer, sameMerchant, ← amount, ← currency, ← amount', ← currency']

/-- Payments for one purchase on one chain are paid by the same transfers. -/
theorem paidBy_congr (chain : payment.chain = other.chain)
    (same : purchase payment expected = purchase other awaited) :
    rail.paidBy keccak256 payment expected log = rail.paidBy keccak256 other awaited log := by
  simp only [purchase, Purchase.mk.injEq] at same
  obtain ⟨token, payer, merchant, amount, currency⟩ := same
  rw [Bool.eq_iff_iff, paidBy_iff, paidBy_iff, chain, token, payer, merchant, amount, currency]

end Sharing

/-- Payments that one receipt made final, each at its own time and against the
chain head of that time. -/
structure SettledTogether {ι : Type} (keccak256 : Bytes → Hash32) (rail : X402Rail)
    (network : String) (receipt : TransactionReceipt) (payments : ι → SettlementExpectation)
    (references : ι → AuthorizationRef) : Prop where
  parsed : ∀ i, AuthorizationRef.parse keccak256 (payments i).paymentReference = .ok (references i)
  final : ∀ i, ∃ now head settled, rail.checkFinality keccak256 now
    (.receipt network head receipt) (payments i) = .ok (.final settled)

def transfersFor (keccak256 : Bytes → Hash32) (rail : X402Rail) (receipt : TransactionReceipt)
    (payment : AuthorizationRef) (expected : SettlementExpectation) :
    Finset (Fin receipt.logs.length) :=
  {position | rail.paidBy keccak256 payment expected (receipt.logs.get position) = true}

namespace SettledTogether

variable {ι : Type} {network : String} {payments : ι → SettlementExpectation}
  {references : ι → AuthorizationRef}

theorem executes (settled : SettledTogether keccak256 rail network receipt payments references)
    (i : ι) : network = (references i).chain.toString ∧
      Executes keccak256 rail (references i) (payments i) receipt := by
  obtain ⟨now, head, reference, final⟩ := settled.final i
  rw [checkFinality_receipt_eq_final_iff (settled.parsed i)] at final
  exact ⟨final.1, final.2.2.1⟩

theorem chain_eq (settled : SettledTogether keccak256 rail network receipt payments references)
    (i j : ι) : (references i).chain = (references j).chain :=
  ChainId.toString_injective ((settled.executes i).1.symm.trans (settled.executes j).1)

theorem transfersFor_nonempty
    (settled : SettledTogether keccak256 rail network receipt payments references) (i : ι) :
    (transfersFor keccak256 rail receipt (references i) (payments i)).Nonempty := by
  obtain ⟨log, member, paid⟩ := (settled.executes i).2.paid
  obtain ⟨position, rfl⟩ := List.get_of_mem member
  exact ⟨position, by simpa [transfersFor] using paid⟩

/-- Payments compete for transfers only within a purchase. -/
theorem byKind (settled : SettledTogether keccak256 rail network receipt payments references) :
    ByKind (fun i => purchase (references i) (payments i))
      (fun i => transfersFor keccak256 rail receipt (references i) (payments i)) where
  same := by
    intro i j same
    unfold transfersFor
    simp only [paidBy_congr (settled.chain_eq i j) same]
  apart := by
    intro i j different
    rw [Finset.disjoint_left]
    intro position paid paid'
    apply different
    exact purchase_eq_of_paidBy (settled.chain_eq i j) (mem_filter.mp paid).2
      (mem_filter.mp paid').2

end SettledTogether

end Judging

namespace Sample

def digest (hex : String) : Hash32 := (decodeToSlice 32 hex.toList).getD Hash32.zero

/-- Keccak-256 where the rail uses it here: at the two event signatures. -/
def keccak256 (bytes : Bytes) : Hash32 :=
  if bytes = utf8 "Transfer(address,address,uint256)" then
    digest "ddf252ad1be2c89b69c2b068fc378daa952ba7f163c4a11628f55a4df523b3ef"
  else if bytes = utf8 "AuthorizationUsed(address,bytes32)" then
    digest "98de503528ee59b575ef0c0a2576a82497bfc029a5685b209e9ec333479b10a5"
  else Hash32.zero

theorem length_zeros : (List.replicate 20 (0 : UInt8)).length = 20 := by decide

def address (hex : String) : Address :=
  (decodeToSlice 20 hex.toList).getD ⟨List.replicate 20 0, length_zeros⟩

def usdcContract : Address := address "036cbd53842c5426634e7929541ec2318f3dcf7e"
def payer : Address := address "857b06519e91e3a54538791bdbb0e22373e36b66"
def payTo : Address := address "209693bc6afc0c5328ba36faf03c514ef312287c"
def baseSepolia : ChainId := ⟨84532⟩

def rail : X402Rail where
  registry := (∅ : AssetRegistry).insert (baseSepolia, usdcContract)
    ⟨Core.Sample.usdc, 6, "USDC", "2"⟩
  policy := ⟨3, by decide, false, 60⟩

def reference (index : Fin 2) : AuthorizationRef where
  chain := baseSepolia
  token := usdcContract
  payer := payer
  nonce := ⟨List.replicate 31 0xab ++ [UInt8.ofNat index], by simp⟩
  validBefore := 1800000060

def payment (index : Fin 2) : SettlementExpectation where
  ctx := if index = 0 then Core.Sample.firstCtx else Core.Sample.secondCtx
  paymentReference := (reference index).toString
  amount := ⟨⟨false, 1, 2⟩, Core.Sample.usdc⟩
  merchant := accountMerchant baseSepolia payTo

def authorizationUsed (index : Fin 2) : Log :=
  .ofAuthorizationUsed keccak256 usdcContract payer (reference index).nonce

def transfer (recipient : Address) (high low : UInt8) : Log :=
  .ofTransfer keccak256 usdcContract payer recipient ⟨List.replicate 14 0 ++ [high, low], by simp⟩

def transactionHash : Hash32 := ⟨List.replicate 32 0xcd, by decide⟩

def receipt (logs : List Log) : TransactionReceipt where
  transactionHash := "0x" ++ hexEncode transactionHash.bytes
  blockNumber := "0x64"
  status := "0x1"
  logs := logs

def paidTwice : TransactionReceipt :=
  receipt [authorizationUsed 0, transfer payTo 0x27 0x10,
    authorizationUsed 1, transfer payTo 0x27 0x10]

/-- The payer signed the second nonce once more, for a transfer of nothing to
themself, and batched that authorization with the first. -/
def paidOnce : TransactionReceipt :=
  receipt [authorizationUsed 0, transfer payTo 0x27 0x10,
    authorizationUsed 1, transfer payer 0 0]

theorem parsed (index : Fin 2) :
    AuthorizationRef.parse keccak256 (payment index).paymentReference = .ok (reference index) :=
  AuthorizationRef.parse_toString keccak256 (by decide : baseSepolia.id ≠ 0)

theorem paidBy_authorizationUsed (index use : Fin 2) :
    rail.paidBy keccak256 (reference index) (payment index) (authorizationUsed use) = false := by
  have different : keccak256 (utf8 "AuthorizationUsed(address,bytes32)") ≠
      keccak256 (utf8 "Transfer(address,address,uint256)") := by
    decide +kernel
  rw [Bool.eq_false_iff]
  intro paid
  obtain ⟨token, recipient, value, -, moved, -⟩ := paidBy_iff.mp paid
  unfold authorizationUsed at moved
  rw [show (reference index).token = usdcContract from rfl,
    Log.transfer_ofAuthorizationUsed different] at moved
  cases moved

theorem paidBy_transfer (index : Fin 2) (recipient : Address) (high low : UInt8) :
    rail.paidBy keccak256 (reference index) (payment index) (transfer recipient high low) = true ↔
      recipient = payTo ∧ 256 * high.toNat + low.toNat = 10000 := by
  have known : rail.token (reference index) = .ok ⟨Core.Sample.usdc, 6, "USDC", "2"⟩ := by
    simp [X402Rail.token, rail, reference]
  have moved : (transfer recipient high low).transfer keccak256 (reference index).token =
      some (payer, recipient, 256 * high.toNat + low.toNat) := by
    unfold transfer
    rw [show (reference index).token = usdcContract from rfl, Log.transfer_ofTransfer]
    simp [fromBigEndian, positional, Nat.mul_comm]
  have priced : money (256 * high.toNat + low.toNat) ⟨Core.Sample.usdc, 6, "USDC", "2"⟩ =
      .ok ⟨⟨false, 256 * high.toNat + low.toNat, 6⟩, Core.Sample.usdc⟩ := by
    have := high.toNat_lt
    have := low.toNat_lt
    have small : 256 * high.toNat + low.toNat < 2 ^ 96 := by omega
    have scale : (6 : UInt8).toNat ≤ 28 := by decide
    rw [money, decimalOf, if_pos ⟨small, scale⟩]
    rfl
  rw [paidBy_of_token known, moved]
  simp only [Option.some.injEq, exists_eq_left', meets_iff, priced, Except.ok.injEq]
  change payer = payer ∧ StringId.new .merchant (accountId baseSepolia recipient) = .ok
    (accountMerchant baseSepolia payTo) ∧ _ ↔ _
  rw [new_accountId, Except.ok.injEq, accountMerchant_inj]
  have amount : (256 * high.toNat + low.toNat : ℚ) / 10 ^ 6 = 1 / 10 ^ 2 ↔
      256 * high.toNat + low.toNat = 10000 := by
    rw [div_eq_div_iff (by norm_num) (by norm_num)]
    norm_cast
    omega
  simpa [payment, Money.value, Decimal.toRat, Decimal.signed] using fun _ => amount

theorem executes {logs : List Log} {index : Fin 2} (used : authorizationUsed index ∈ logs)
    (paid : transfer payTo 0x27 0x10 ∈ logs) :
    Executes keccak256 rail (reference index) (payment index) (receipt logs) where
  used := ⟨_, used, Log.authorizationUsed_ofAuthorizationUsed⟩
  paid := ⟨_, paid, (paidBy_transfer index payTo 0x27 0x10).mpr ⟨rfl, by decide⟩⟩

theorem identity_injective : Function.Injective fun index => (reference index).identity := by
  intro first second same
  have nonce := congrArg FixedBytes.bytes (AuthorizationRef.identity_inj.mp same).2.2.2
  have last : UInt8.ofNat first = UInt8.ofNat second := by
    simpa [reference] using nonce
  have apart : ∀ i j : Fin 2, UInt8.ofNat i = UInt8.ofNat j → i = j := by decide
  exact apart first second last

/-- A receipt that shows both authorizations and one payment settles both. -/
theorem settledTogether {logs : List Log} (used : ∀ index, authorizationUsed index ∈ logs)
    (paid : transfer payTo 0x27 0x10 ∈ logs) :
    SettledTogether keccak256 rail baseSepolia.toString (receipt logs) payment reference where
  parsed := parsed
  final index := by
    have block : quantity "0x64" = some 100 := rfl
    have confirmed : Confirmed rail 110 (receipt logs) :=
      ⟨⟨transactionHash, bytes_hexEncode _ _⟩, ⟨100, block, by decide, by decide⟩, rfl⟩
    exact ⟨⟨1800000000⟩, 110, _, (checkFinality_receipt_eq_final_iff (parsed index)).mpr
      ⟨rfl, confirmed, executes (used index) paid, rfl⟩⟩

theorem paidTwice_settled : SettledTogether keccak256 rail baseSepolia.toString paidTwice
    payment reference :=
  settledTogether (by simp [Fin.forall_fin_two]) (by simp)

theorem two_le_card_paidTwice (index : Fin 2) :
    2 ≤ #(transfersFor keccak256 rail paidTwice (reference index) (payment index)) := by
  have paid := (paidBy_transfer index payTo 0x27 0x10).mpr ⟨rfl, by decide⟩
  refine one_lt_card.mpr ⟨⟨1, by decide⟩, ?_, ⟨3, by decide⟩, ?_, by simp⟩
  · exact mem_filter.mpr ⟨mem_univ _, paid⟩
  · exact mem_filter.mpr ⟨mem_univ _, paid⟩

theorem paidOnce_settled : SettledTogether keccak256 rail baseSepolia.toString paidOnce
    payment reference :=
  settledTogether (by simp [Fin.forall_fin_two]) (by simp)

theorem val_eq_one_of_paidBy_paidOnce (index : Fin 2) (position : Fin paidOnce.logs.length)
    (paid : rail.paidBy keccak256 (reference index) (payment index)
      (paidOnce.logs.get position) = true) : position.val = 1 := by
  obtain ⟨position, bound⟩ := position
  have cases : position = 0 ∨ position = 1 ∨ position = 2 ∨ position = 3 := by
    have : paidOnce.logs.length = 4 := rfl
    omega
  rcases cases with rfl | rfl | rfl | rfl
  · exact absurd paid (Bool.eq_false_iff.mp (paidBy_authorizationUsed index 0))
  · rfl
  · exact absurd paid (Bool.eq_false_iff.mp (paidBy_authorizationUsed index 1))
  · have other : payer ≠ payTo := by decide +kernel
    exact absurd ((paidBy_transfer index payer 0 0).mp paid).1 other

end Sample

/-- Each of the payments has a transfer of its own exactly when the receipt has,
for every purchase that several of them are for, as many transfers as there are
payments for it.  A payment that is alone has one by the verdict. -/
theorem SettledTogether.exists_transfers_iff {ι : Type} [Fintype ι] [DecidableEq ι]
    {keccak256 : Bytes → Hash32} {rail : X402Rail} {network : String}
    {receipt : TransactionReceipt} {payments : ι → SettlementExpectation}
    {references : ι → AuthorizationRef}
    (settled : SettledTogether keccak256 rail network receipt payments references) :
    (∃ transfer : ι → Fin receipt.logs.length, Function.Injective transfer ∧
      ∀ i, rail.paidBy keccak256 (references i) (payments i)
        (receipt.logs.get (transfer i)) = true) ↔
      ∀ i, 2 ≤ #{j | purchase (references j) (payments j) = purchase (references i) (payments i)} →
        #{j | purchase (references j) (payments j) = purchase (references i) (payments i)} ≤
          #(transfersFor keccak256 rail receipt (references i) (payments i)) := by
  have assigned := settled.byKind.exists_injective_iff
  simp only [transfersFor, mem_filter, mem_univ, true_and] at assigned
  rw [assigned]
  refine ⟨fun enough i _ => enough i, fun enough i => ?_⟩
  by_cases several :
      2 ≤ #{j | purchase (references j) (payments j) = purchase (references i) (payments i)}
  · exact enough i several
  · have paid := (settled.transfersFor_nonempty i).card_pos
    rw [transfersFor] at paid
    omega

theorem exists_transfers_paidTwice :
    ∃ transfer : Fin 2 → Fin Sample.paidTwice.logs.length, Function.Injective transfer ∧
      ∀ i, Sample.rail.paidBy Sample.keccak256 (Sample.reference i) (Sample.payment i)
        (Sample.paidTwice.logs.get (transfer i)) = true := by
  refine (SettledTogether.exists_transfers_iff Sample.paidTwice_settled).mpr fun i _ => ?_
  have all : #{j | purchase (Sample.reference j) (Sample.payment j) =
      purchase (Sample.reference i) (Sample.payment i)} ≤ #(univ : Finset (Fin 2)) :=
    card_le_card (filter_subset _ _)
  exact all.trans (Sample.two_le_card_paidTwice i)

/-- One transfer makes two payments with different authorizations final. -/
theorem not_exists_transfers_paidOnce :
    SettledTogether Sample.keccak256 Sample.rail Sample.baseSepolia.toString Sample.paidOnce
      Sample.payment Sample.reference ∧
    Function.Injective (fun index => (Sample.reference index).identity) ∧
    ¬ ∃ transfer : Fin 2 → Fin Sample.paidOnce.logs.length, Function.Injective transfer ∧
      ∀ i, Sample.rail.paidBy Sample.keccak256 (Sample.reference i) (Sample.payment i)
        (Sample.paidOnce.logs.get (transfer i)) = true := by
  refine ⟨Sample.paidOnce_settled, Sample.identity_injective, ?_⟩
  rintro ⟨transfer, injective, paid⟩
  have first := Sample.val_eq_one_of_paidBy_paidOnce 0 (transfer 0) (paid 0)
  have second := Sample.val_eq_one_of_paidBy_paidOnce 1 (transfer 1) (paid 1)
  have same := injective (Fin.ext (first.trans second.symm))
  contradiction

end MandateLedger.X402
