import MandateLedger.X402.Cart

namespace MandateLedger.X402

open MandateLedger.Core MandateLedger.Data

theorem le_positional_cons (radix first : Nat) (rest : List Nat) (positive : 0 < radix) :
    first ≤ positional radix (first :: rest) := by
  have grows : ∀ start, start ≤
      rest.foldl (fun value digit => value * radix + digit) start := by
    induction rest with
    | nil =>
        intro start
        exact le_refl start
    | cons digit rest ih =>
        intro start
        have scaled : start ≤ start * radix := Nat.le_mul_of_pos_right start positive
        exact le_trans (by omega) (ih (start * radix + digit))
  simpa [positional] using grows first

theorem positive_of_fromStrRadix {bound number : Nat} {digits : List Char}
    (decimal : ∀ char ∈ digits, char.isDigit = true) (leading : digits.head? ≠ some '0')
    (read : fromStrRadix bound 10 digits = some number) : 0 < number ∧ number < bound := by
  cases digits with
  | nil => cases read
  | cons first rest =>
      have digit := decimal first (by simp)
      have range := Char.isDigit_iff_toNat.mp digit
      have unsigned : stripPlus (first :: rest) = first :: rest := by
        unfold stripPlus
        split
        · next sign =>
            cases sign
            cases digit
        · rfl
      unfold fromStrRadix at read
      rw [unsigned, if_neg (by simp), mapM_digitValue decimal] at read
      simp only [Option.bind_eq_bind, Option.bind_some, Option.ite_none_right_eq_some,
        Option.some.injEq] at read
      obtain ⟨small, rfl⟩ := read
      refine ⟨?_, small⟩
      have nonzero : first.toNat ≠ '0'.toNat := by
        intro same
        have zero : first = '0' := Char.toNat_inj.mp same
        exact leading (by rw [zero, List.head?_cons])
      have lower := le_positional_cons 10 (first.toNat - '0'.toNat)
        (rest.map fun char => char.toNat - '0'.toNat) (by decide)
      rw [List.map_cons]
      omega

theorem ChainId.parseId_ne_zero {digits : List Char} {chain : ChainId}
    (parsed : ChainId.parseId digits = .ok chain) : chain.id ≠ 0 := by
  unfold ChainId.parseId at parsed
  dsimp only at parsed
  split at parsed
  · cases parsed
  · next value read =>
      simp only [Option.ite_none_right_eq_some, Bool.and_eq_true, bne_iff_ne,
        List.all_eq_true] at read
      obtain ⟨⟨⟨-, decimal⟩, leading⟩, read⟩ := read
      obtain ⟨positive, small⟩ := positive_of_fromStrRadix decimal leading read
      cases parsed
      intro zero
      have number := congrArg UInt64.toNat zero
      rw [UInt64.toNat_ofNat_of_lt' small] at number
      exact absurd number positive.ne'

theorem ChainId.parse_ne_zero {text : String} {chain : ChainId}
    (parsed : ChainId.parse text = .ok chain) : chain.id ≠ 0 := by
  unfold ChainId.parse at parsed
  split at parsed
  · exact parseId_ne_zero parsed
  · cases parsed

namespace AuthorizationRef

theorem eq_iff_identity {left right : AuthorizationRef} :
    left = right ↔ left.identity = right.identity ∧ left.validBefore = right.validBefore := by
  constructor
  · intro same
    rw [same]
    exact ⟨rfl, rfl⟩
  · intro given
    obtain ⟨identity, validBefore⟩ := given
    obtain ⟨chain, token, payer, nonce⟩ := identity_inj.mp identity
    cases left
    cases right
    simp_all

end AuthorizationRef

section Verified

variable {keccak256 : Bytes → Hash32} {curve : Secp256k1} {rail : X402Rail}

/-- A reference the rail reports is read back as the authorization the payer signed. -/
theorem verifyProof_reference {now : Timestamp} {proof : PaymentPayload}
    {expected : PaymentExpectation} {verified : VerifiedProof}
    (accepted : rail.verifyProof keccak256 curve now proof expected = .ok verified) :
    ∃ read auth signature, terms keccak256 rail.registry proof.accepted = .ok read ∧
      proof.payload.parse keccak256 = .ok (auth, signature) ∧
      recover keccak256 curve (signingDigest keccak256 read.chain read.asset read.token auth)
        signature = .ok auth.payer ∧
      AuthorizationRef.parse keccak256 verified.reference = .ok
        ⟨read.chain, read.asset, auth.payer, auth.nonce, auth.validBefore⟩ := by
  obtain ⟨⟨read, auth⟩, authentic, reported⟩ := X402Rail.verifyProof_reports accepted
  obtain ⟨checked, signature, parsed, -, -, signed⟩ := X402Rail.authenticate_eq_ok authentic
  refine ⟨read, auth, signature, checked, parsed, signed, ?_⟩
  rw [X402Rail.report_reference reported]
  have positive := ChainId.parse_ne_zero (terms_eq_ok checked).chain
  exact AuthorizationRef.parse_toString keccak256 positive

variable (keccak256 curve rail)

/-- **A payment reference has one spelling and survives storage.** -/
theorem reference_survives :
    (∀ payment : AuthorizationRef, 1 ≤ payment.chain.id →
      AuthorizationRef.parse keccak256 payment.toString = .ok payment) ∧
    (∀ text payment, AuthorizationRef.parse keccak256 text = .ok payment →
      text = payment.toString) ∧
    (∀ left right : AuthorizationRef, left.identity = right.identity ↔
      left.chain = right.chain ∧ left.token = right.token ∧ left.payer = right.payer ∧
        left.nonce = right.nonce) ∧
    (∀ left right : AuthorizationRef, left = right ↔
      left.identity = right.identity ∧ left.validBefore = right.validBefore) ∧
    -- what `verify_proof` returns, `check_finality` reads as what the payer signed
    (∀ now proof expected verified,
      rail.verifyProof keccak256 curve now proof expected = .ok verified →
      ∃ read auth signature, terms keccak256 rail.registry proof.accepted = .ok read ∧
        proof.payload.parse keccak256 = .ok (auth, signature) ∧
        recover keccak256 curve (signingDigest keccak256 read.chain read.asset read.token auth)
          signature = .ok auth.payer ∧
        AuthorizationRef.parse keccak256 verified.reference = .ok
          ⟨read.chain, read.asset, auth.payer, auth.nonce, auth.validBefore⟩) := by
  refine ⟨?_, ?_, ?_, ?_, ?_⟩
  · intro payment positive
    apply AuthorizationRef.parse_toString
    intro zero
    rw [zero] at positive
    exact absurd positive (by decide)
  · intro text payment parsed
    exact (AuthorizationRef.toString_of_parse parsed).symm
  · intro left right
    exact AuthorizationRef.identity_inj
  · intro left right
    exact AuthorizationRef.eq_iff_identity
  · intro now proof expected verified accepted
    exact verifyProof_reference accepted

end Verified

theorem signedPayment_reference_survives :
    ∃ (read : ExactTerms) (auth : Authorization),
      terms Sample.keccak256 Sample.rail.registry Sample.signedPayment.accepted =
        .ok read ∧
      AuthorizationRef.parse Sample.keccak256 Sample.reported.reference = .ok
        ⟨read.chain, read.asset, auth.payer, auth.nonce, auth.validBefore⟩ ∧
      Sample.reported.reference = AuthorizationRef.toString
        ⟨read.chain, read.asset, auth.payer, auth.nonce, auth.validBefore⟩ := by
  obtain ⟨-, spelling, -, -, verified⟩ :=
    reference_survives Sample.keccak256 Sample.curve Sample.rail
  obtain ⟨read, auth, signature, checked, -, -, parsed⟩ :=
    verified _ _ _ _ Sample.signedPayment_verified
  exact ⟨read, auth, checked, parsed, spelling _ _ parsed⟩

end MandateLedger.X402
