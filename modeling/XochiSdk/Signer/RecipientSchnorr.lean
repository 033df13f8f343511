import XochiSdk.Signer.Grumpkin

/-!
# The recipient's signature

`packages/signer/src/shielded-recipient.ts`: `verifyRecipientSchnorr` accepts the signatures that
satisfy the equation, and those that a key's holder forms satisfy it.
-/

namespace XochiSdk.Signer

open XochiSdk.Js XochiSdk.Library XochiSdk.Library.ShortCurve WeierstrassCurve

theorem exists_generatorPoint : ∃ G : Grumpkin, coordinates G = some grumpkinGenerator := by
  obtain ⟨G, represents⟩ := generator_valid.represents
  refine ⟨G, ?_⟩
  rw [← represents.2]
  rfl

/-- The generator in the group. -/
noncomputable def generatorPoint : Grumpkin := exists_generatorPoint.choose

theorem generatorPoint_coordinates : coordinates generatorPoint = some grumpkinGenerator :=
  exists_generatorPoint.choose_spec

theorem isGrumpkinPoint_iff (g : GrumpkinPoint) :
    isGrumpkinPoint g = true ↔ ∃ P, coordinates P = some g := by
  constructor
  · intro h
    simp only [isGrumpkinPoint, Bool.and_eq_true, decide_eq_true_eq, beq_iff_eq] at h
    obtain ⟨⟨⟨⟨x₀, x₁⟩, y₀⟩, y₁⟩, on⟩ := h
    have unit : (0 : Int) ≤ 1 ∧ 1 < fieldR := ⟨by decide, by decide⟩
    have valid : g.jacobian.Valid := by
      refine ⟨⟨⟨x₀, x₁⟩, ⟨y₀, y₁⟩, unit⟩, .inr ?_⟩
      simp only [GrumpkinPoint.jacobian]
      rw [sq, on]
      congr 1
      ring
    obtain ⟨P, represents⟩ := valid.represents
    refine ⟨P, represents.2.symm.trans ?_⟩
    have away : g.jacobian.Z ≠ 0 := one_ne_zero
    rw [affine_finite (by simp [GrumpkinPoint.jacobian]) away]
    simp only [Jacobian.field, GrumpkinPoint.jacobian, Int.cast_one, one_pow, div_one]
    rw [← modField_val, ← modField_val, modField_of_reduced ⟨x₀, x₁⟩,
      modField_of_reduced ⟨y₀, y₁⟩]
  · rintro ⟨P, point⟩
    have represents := point_represents point.symm
    obtain ⟨⟨⟨x, y, -⟩, on⟩, -⟩ := represents
    have finite := on.resolve_left one_ne_zero
    simp only [GrumpkinPoint.jacobian] at x y finite
    simp only [isGrumpkinPoint, Bool.and_eq_true, decide_eq_true_eq, beq_iff_eq]
    refine ⟨⟨⟨⟨x.1, x.2⟩, y.1⟩, y.2⟩, ?_⟩
    rw [← sq, finite]
    congr 1
    ring

/-- The signature of a message with a key `d` and a nonce `k`. -/
def signatureScalar (k d e : Nat) : Nat := ((k - e * d : Int) % grumpkinOrder).toNat

theorem signatureScalar_lt (k d e : Nat) : signatureScalar k d e < grumpkinOrder := by
  have pos := grumpkinOrder_prime.pos
  have below := Int.emod_lt_of_pos (k - e * d : Int) (Int.natCast_pos.mpr pos)
  unfold signatureScalar
  omega

theorem signature_sum (k d e : Nat) :
    signatureScalar k d e • generatorPoint + e • d • generatorPoint = k • generatorPoint := by
  have nonneg : 0 ≤ (k - e * d : Int) % grumpkinOrder :=
    Int.emod_nonneg _ (Int.natCast_ne_zero.mpr grumpkinOrder_prime.ne_zero)
  -- The scalar differs from `k - e * d` by a multiple of the order.
  have scalar : (signatureScalar k d e : Int) =
      (k - e * d : Int) - (k - e * d : Int) / grumpkinOrder * grumpkinOrder := by
    rw [signatureScalar, Int.toNat_of_nonneg nonneg, Int.emod_def, mul_comm (grumpkinOrder : Int)]
  rw [← natCast_zsmul, scalar, sub_zsmul, mul_zsmul, natCast_zsmul generatorPoint grumpkinOrder,
    grumpkinOrder_nsmul, zsmul_zero, neg_zero, add_zero, sub_zsmul, mul_zsmul, natCast_zsmul,
    natCast_zsmul, natCast_zsmul, neg_add_cancel_right]

section

variable [Poseidon2]

/-- `verifyRecipientSchnorr`, over the text of the message. -/
def verifyRecipientSchnorrText (publicKeyX publicKeyY messageField signature : String) : Bool :=
  match hexBytes 32 messageField with
  | some m => verifyRecipientSchnorr publicKeyX publicKeyY m.toNat signature
  | none => false

/-- The hash that binds a signature's point to the key and the message. -/
def challenge (R P : GrumpkinPoint) (m : Nat) : Int :=
  poseidon2Hash [schnorrChallengeDst, R.x, P.x, P.y, m]

/-- The scalars in range, and `s * G + e * P` a finite point whose challenge is `e`. -/
structure Verifies (P : GrumpkinPoint) (m s e : Nat) : Prop where
  s_range : 0 < s ∧ s < grumpkinOrder
  e_range : 0 < e ∧ e < aztecFieldModulus
  m_range : m < aztecFieldModulus
  equation : ∃ (key : Grumpkin) (R : GrumpkinPoint), coordinates key = some P ∧
    coordinates (s • generatorPoint + e • key) = some R ∧ challenge R P m = e

theorem verifyRecipientSchnorr_read {publicKeyX publicKeyY signature : String} {m : Nat}
    {sig : Bytes 64} {x y : Word} (hs : hexBytes 64 signature = some sig)
    (hx : hexBytes 32 publicKeyX = some x) (hy : hexBytes 32 publicKeyY = some y) :
    verifyRecipientSchnorr publicKeyX publicKeyY m signature = true ↔
      Verifies ⟨x.toNat, y.toNat⟩ m (ofBytes (sig.bytes.take 32))
        (ofBytes (sig.bytes.drop 32)) := by
  unfold verifyRecipientSchnorr
  rw [hs, hx, hy]
  dsimp only
  generalize ofBytes (sig.bytes.take 32) = s
  generalize ofBytes (sig.bytes.drop 32) = e
  by_cases range : s = 0 ∨ e = 0 ∨ s ≥ grumpkinOrder ∨ e ≥ aztecFieldModulus ∨
      m ≥ aztecFieldModulus
  · rw [if_pos (by simpa [or_assoc] using range)]
    refine iff_of_false Bool.false_ne_true fun h => ?_
    have := h.s_range
    have := h.e_range
    have := h.m_range
    omega
  rw [if_neg (by simpa [or_assoc] using range)]
  by_cases on : isGrumpkinPoint ⟨x.toNat, y.toNat⟩ = true
  · obtain ⟨key, point⟩ := (isGrumpkinPoint_iff _).mp on
    obtain ⟨-, sums, -, multiplies⟩ := grumpkin_group
    have sum := sums _ _ _ _ (multiplies s _ _ generatorPoint_coordinates.symm)
      (multiplies e _ _ point.symm)
    rw [if_neg (by simp [on]), sum.2]
    have only {other : Grumpkin} (same : coordinates other = some ⟨x.toNat, y.toNat⟩) :
        other = key := coordinates_injective (same.trans point.symm)
    cases landed : coordinates (s • generatorPoint + e • key) with
    | none =>
      refine iff_of_false Bool.false_ne_true fun h => ?_
      obtain ⟨other, R, same, finite, -⟩ := h.equation
      rw [only same, landed] at finite
      cases finite
    | some R =>
      dsimp only
      rw [beq_iff_eq]
      constructor
      · intro hash
        exact ⟨by omega, by omega, by omega, key, R, point, landed, hash⟩
      · intro h
        obtain ⟨other, R', same, finite, hash⟩ := h.equation
        rw [only same, landed] at finite
        cases finite
        exact hash
  · rw [if_pos (by simp [on])]
    refine iff_of_false Bool.false_ne_true fun h => ?_
    obtain ⟨key, -, point, -⟩ := h.equation
    exact on ((isGrumpkinPoint_iff _).mpr ⟨key, point⟩)

theorem verifyRecipientSchnorr_shaped {publicKeyX publicKeyY signature : String} {m : Nat}
    (accepted : verifyRecipientSchnorr publicKeyX publicKeyY m signature = true) :
    ∃ sig x y, hexBytes 64 signature = some sig ∧ hexBytes 32 publicKeyX = some x ∧
      hexBytes 32 publicKeyY = some y := by
  unfold verifyRecipientSchnorr at accepted
  split at accepted
  · next sig x y hs hx hy => exact ⟨sig, x, y, hs, hx, hy⟩
  · cases accepted

/-- What the four texts read as. -/
structure Reads (publicKeyX publicKeyY messageField signature : String) (P : GrumpkinPoint)
    (m s e : Nat) : Prop where
  x : ∃ w : Word, hexBytes 32 publicKeyX = some w ∧ P.x = w.toNat
  y : ∃ w : Word, hexBytes 32 publicKeyY = some w ∧ P.y = w.toNat
  m : ∃ w : Word, hexBytes 32 messageField = some w ∧ m = w.toNat
  signature : ∃ b : Bytes 64, hexBytes 64 signature = some b ∧
    s = ofBytes (b.bytes.take 32) ∧ e = ofBytes (b.bytes.drop 32)

theorem verifyRecipientSchnorrText_read {publicKeyX publicKeyY messageField signature : String} :
    verifyRecipientSchnorrText publicKeyX publicKeyY messageField signature = true ↔
      ∃ P m s e, Reads publicKeyX publicKeyY messageField signature P m s e ∧
        Verifies P m s e := by
  unfold verifyRecipientSchnorrText
  constructor
  · intro accepted
    cases hm : hexBytes 32 messageField with
    | none =>
      rw [hm] at accepted
      cases accepted
    | some m =>
      rw [hm] at accepted
      dsimp only at accepted
      obtain ⟨sig, x, y, hs, hx, hy⟩ := verifyRecipientSchnorr_shaped accepted
      exact ⟨_, _, _, _, ⟨⟨x, hx, rfl⟩, ⟨y, hy, rfl⟩, ⟨m, hm, rfl⟩, ⟨sig, hs, rfl, rfl⟩⟩,
        (verifyRecipientSchnorr_read hs hx hy).mp accepted⟩
  · rintro ⟨⟨-, -⟩, m, s, e, ⟨⟨x, hx, rfl⟩, ⟨y, hy, rfl⟩, ⟨w, hm, rfl⟩, ⟨sig, hs, rfl, rfl⟩⟩,
      verifies⟩
    rw [hm]
    exact (verifyRecipientSchnorr_read hs hx hy).mpr verifies

/-- What is accepted is what satisfies the equation, and every signature that the holder of a key
forms, with a hash into the field, is accepted. -/
theorem verifyRecipientSchnorr_exact
    (field : ∀ inputs, 0 ≤ poseidon2Hash inputs ∧ poseidon2Hash inputs < fieldR) :
    (∀ publicKeyX publicKeyY messageField signature : String,
      verifyRecipientSchnorrText publicKeyX publicKeyY messageField signature = true ↔
        ∃ P m s e, Reads publicKeyX publicKeyY messageField signature P m s e ∧ Verifies P m s e) ∧
      ∀ (d k m : Nat) (P R : GrumpkinPoint) (publicKeyX publicKeyY messageField signature : String),
        m < aztecFieldModulus → coordinates (d • generatorPoint) = some P →
        coordinates (k • generatorPoint) = some R →
        0 < (challenge R P m).toNat → 0 < signatureScalar k d (challenge R P m).toNat →
        Reads publicKeyX publicKeyY messageField signature P m
          (signatureScalar k d (challenge R P m).toNat) (challenge R P m).toNat →
        verifyRecipientSchnorrText publicKeyX publicKeyY messageField signature = true := by
  refine ⟨fun _ _ _ _ => verifyRecipientSchnorrText_read, ?_⟩
  intro d k m P R publicKeyX publicKeyY messageField signature below key nonce e_pos s_pos reads
  obtain ⟨nonneg, small⟩ := field [schnorrChallengeDst, R.x, P.x, P.y, m]
  have hash : challenge R P m = (challenge R P m).toNat := (Int.toNat_of_nonneg nonneg).symm
  refine verifyRecipientSchnorrText_read.mpr ⟨P, m, _, _, reads, ?_⟩
  have in_field : (challenge R P m).toNat < aztecFieldModulus := by
    have : challenge R P m < aztecFieldModulus := small
    omega
  exact ⟨⟨s_pos, signatureScalar_lt ..⟩, ⟨e_pos, in_field⟩, below, d • generatorPoint, R, key,
    by rw [signature_sum, nonce], hash⟩

end

/-! ## A signature made and checked -/

/-- The key, the nonce and the message of one signature. -/
def sampleKey : Nat := 0x132b57307538d2c5c1b3b6baa771c69060b745d0f65d768e50149110e4b2738e

def sampleNonce : Nat := 0x290a4e8862f57ee398e601a9e4a7601180ef90930f47d4de3d2dfaf17ce949fa

def sampleMessage : Nat := 0x235eb8e15ae9229ac47e945162606cd245775f2a00c9f88980e7abc671936029

def samplePublicKey : GrumpkinPoint :=
  ⟨0x2a7cb3bc90801273e8b55228ad62489d0ee8c72bdf0fcfafa82d3461bcb05ecf,
    0x1a2d126b720b34667a7286aabdb35dea906223aca72dbeb4e2c6690565be732b⟩

def sampleNoncePoint : GrumpkinPoint :=
  ⟨0x11f0cc2f11d28ecaad5a336e364ee25d168aa42fa05e4873023f5b812295742,
    0x1564869682123d29cf920f5de16772ad094d9acf328a7386686d6fe97857a8ab⟩

def sampleScalar : Nat := 0x26b8bc6366b24614524fa012ac7c2157eb68c5c3a8c36f0d79f3614ad97337f0

def sampleChallenge : Nat := 0x2a8576a8b06a03da65d18c1c7f8d2705336d36d756406451e1ffe85c6c271639

/-- The sponge's value on the inputs of the sample. -/
@[reducible] def sampleSponge : Poseidon2 where
  poseidon2Hash inputs :=
    if inputs = [schnorrChallengeDst, sampleNoncePoint.x, samplePublicKey.x, samplePublicKey.y,
      sampleMessage] then sampleChallenge else 0

def sampleSignature : Bytes 64 :=
  ⟨(Bytes.ofNat 32 sampleScalar).bytes ++ (Bytes.ofNat 32 sampleChallenge).bytes, by
    rw [List.length_append, Bytes.length_bytes, Bytes.length_bytes]⟩

theorem hexBytes_hex64 (n : Nat) : hexBytes 32 (hex64 n) = some (Bytes.ofNat 32 n) :=
  hexBytes_hexlify (Bytes.ofNat 32 n)

theorem generator_multiple {k : Nat} {g : GrumpkinPoint}
    (computed : (affine (mulJ k grumpkinGenerator)).map (fun p => (p.x, p.y)) = some (g.x, g.y)) :
    coordinates (k • generatorPoint) = some g := by
  obtain ⟨-, -, -, multiplies⟩ := grumpkin_group
  have multiple := (multiplies k _ _ generatorPoint_coordinates.symm).2
  rw [← multiple]
  cases reached : affine (mulJ k grumpkinGenerator) with
  | none =>
    rw [reached] at computed
    cases computed
  | some p =>
    rw [reached] at computed
    cases p
    cases g
    simp only [Option.map_some, Option.some.injEq, Prod.mk.injEq] at computed
    obtain ⟨rfl, rfl⟩ := computed
    rfl

theorem verifyRecipientSchnorr_sample :
    letI := sampleSponge
    verifyRecipientSchnorrText (hex64 samplePublicKey.x.toNat) (hex64 samplePublicKey.y.toNat)
      (hex64 sampleMessage) (hexlify sampleSignature.bytes) = true := by
  let _ := sampleSponge
  have hash : challenge sampleNoncePoint samplePublicKey sampleMessage = sampleChallenge := by
    unfold challenge
    exact if_pos rfl
  have read : (challenge sampleNoncePoint samplePublicKey sampleMessage).toNat =
      sampleChallenge := by
    rw [hash]
    rfl
  have scalar : signatureScalar sampleNonce sampleKey sampleChallenge = sampleScalar := by
    decide +kernel
  have key : coordinates (sampleKey • generatorPoint) = some samplePublicKey :=
    generator_multiple (by decide +kernel)
  have nonce : coordinates (sampleNonce • generatorPoint) = some sampleNoncePoint :=
    generator_multiple (by decide +kernel)
  refine (verifyRecipientSchnorr_exact ?_).2 sampleKey sampleNonce sampleMessage samplePublicKey
    sampleNoncePoint _ _ _ _ (by decide) key nonce ?_ ?_ ?_
  · intro inputs
    change 0 ≤ (if _ then _ else _ : Int) ∧ (if _ then _ else _ : Int) < fieldR
    split <;> decide
  · rw [read]
    decide
  · rw [read, scalar]
    decide
  · rw [read, scalar]
    have first : sampleScalar = ofBytes (sampleSignature.bytes.take 32) := by decide +kernel
    have second : sampleChallenge = ofBytes (sampleSignature.bytes.drop 32) := by decide +kernel
    have x : samplePublicKey.x = (Bytes.ofNat 32 samplePublicKey.x.toNat).toNat := by
      decide +kernel
    have y : samplePublicKey.y = (Bytes.ofNat 32 samplePublicKey.y.toNat).toNat := by
      decide +kernel
    have message : sampleMessage = (Bytes.ofNat 32 sampleMessage).toNat := by decide +kernel
    exact ⟨⟨_, hexBytes_hex64 _, x⟩, ⟨_, hexBytes_hex64 _, y⟩, ⟨_, hexBytes_hex64 _, message⟩,
      ⟨sampleSignature, hexBytes_hexlify sampleSignature, first, second⟩⟩

end XochiSdk.Signer
