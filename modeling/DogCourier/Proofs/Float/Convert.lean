import DogCourier.Proofs.Float.Order

/-! # Conversions and constants

    The doubles the library builds from whole numbers (`Float.ofInt`, `UInt64.toFloat`)
    are within `2^-19` of them, negation negates the value, and the few constants the
    geometry uses (`0`, `1`) are what they say. The grid rounding of a double, read from
    its bit pattern, is within a half of its value.

    * `unit_of_not_lt`: a double that is no NaN and lies neither below `0` nor above `1`
      is a number in `[0, 1]`;
    * `exactValue_ofInt`: a 32-bit integer converts to within `2^-19`;
    * `toGrid_mem`: a number within a half of an integer range rounds into it. -/

namespace DogCourier

open Float.Model Float.Model.UnpackedFloat

section Constants

theorem exactValue_zero : exactValue 0.0 = some 0 := by
  unfold exactValue
  rw [show (0.0 : Float).toModel.unpack = .zero .positive by rfl]
  rfl

theorem exactValue_one : exactValue 1.0 = some 1 := by
  unfold exactValue
  rw [show (1.0 : Float).toModel.unpack = .finite .positive (2 ^ 52) (-52) (by decide) by rfl]
  simp [Sign.apply]
  norm_num

theorem exactValue_powerOfTen_zero : exactValue Float.exactlyRepresentablePowersOfTen[0] = some 1 := by
  unfold exactValue
  rw [show Float.exactlyRepresentablePowersOfTen[0].toModel.unpack =
    .finite .positive (2 ^ 52) (-52) (by decide) by rfl]
  simp [Sign.apply]
  norm_num

/-- A double that is no NaN and lies neither below `0` nor above `1` is a number in
`[0, 1]`: an infinity would lie beyond one of the two. -/
theorem unit_of_not_lt {t : Float} (hnan : t.toModel.unpack ≠ .notANumber) (h0 : ¬t < 0.0)
    (h1 : ¬t > 1.0) : ∃ v, exactValue t = some v ∧ 0 ≤ v ∧ v ≤ 1 := by
  cases hu : t.toModel.unpack with
  | notANumber => exact absurd hu hnan
  | infinity s =>
    cases s
    · apply absurd _ h0
      rw [lt_def, hu]
      rfl
    · apply absurd _ h1
      show (1.0 : Float) < t
      rw [lt_def, hu]
      rfl
  | zero s => exact ⟨0, by simp [exactValue, hu], le_rfl, zero_le_one⟩
  | finite s m e hm =>
    have hv : exactValue t = some ((s.apply m : ℚ) * 2 ^ e) := by
      simp only [exactValue, hu, unpackedValue_finite]
    refine ⟨_, hv, ?_, ?_⟩
    · exact not_lt.mp (fun h => h0 ((lt_iff hv exactValue_zero).mpr h))
    · exact not_lt.mp (fun h => h1 ((lt_iff exactValue_one hv).mpr h))

end Constants

section Negation

/-! Negation, and the bit pattern read back. -/

theorem canonical_neg {u : UnpackedFloat} (h : Canonical u) : Canonical u.neg := by
  cases u with
  | finite s m e hm => exact h
  | zero s => trivial
  | infinity s => exact h.elim
  | notANumber => exact h.elim

/-- Negation negates the value. -/
theorem exactValue_neg {a : Float} {x : ℚ} (ha : exactValue a = some x) :
    exactValue (-a) = some (-x) := by
  have hcan := canonical_of_exactValue ha
  refine (exactValue_ofModel_pack (canonical_neg hcan)).trans ?_
  unfold exactValue at ha
  rcases unpackedValue_cases ha with ⟨s, hs, rfl⟩ | ⟨s, m, e, hm, hs, rfl⟩ <;> rw [hs]
  · simp [UnpackedFloat.neg]
  · simp [UnpackedFloat.neg, sign_apply_neg]

/-- Reading a number's bit pattern back gives the number. -/
theorem exactValue_ofBits_toBits {x : Float} {v : ℚ} (h : exactValue x = some v) :
    exactValue (Float.ofBits x.toBits) = some v := by
  exact (exactValue_ofModel_pack (canonical_of_exactValue h)).trans h

end Negation

section Whole

/-- A 64-bit whole number converts to within a unit of its magnitude's last place. -/
theorem exactValue_toFloat (n : UInt64) {N : Int} (hN : -1022 ≤ N) (hN' : N ≤ 1022)
    (hn : (n.toNat : ℚ) ≤ 2 ^ N) :
    ∃ q, exactValue n.toFloat = some q ∧ |q - n.toNat| ≤ 2 ^ (N - 52) := by
  have hv : |((n.toNat : Int) : ℚ) * 2 ^ (0 : Int)| ≤ 2 ^ N := by simpa using hn
  obtain ⟨hcan, q, hq, herr⟩ := normalize_error (n.toNat : Int) .positive hN hN' hv
  refine ⟨q, ?_, by simpa using herr⟩
  exact (exactValue_ofModel_pack hcan).trans hq

/-- A small whole number is read as a scientific literal: the number converted, times
`10^0`. -/
theorem ofNat_eq_toFloat_mul (k : Nat) (hk : k ≤ 2 ^ 31) :
    Float.ofNat k = k.toUInt64.toFloat * Float.exactlyRepresentablePowersOfTen[0] := by
  unfold Float.ofNat
  show Float.ofScientific k false 0 = _
  unfold Float.ofScientific
  rw [dif_pos ⟨by omega, by decide⟩]
  rfl

/-- A whole number up to `2^31` converts to within `2^-19`. -/
theorem exactValue_ofNat (k : Nat) (hk : k ≤ 2 ^ 31) :
    ∃ q, exactValue (Float.ofNat k) = some q ∧ |q - k| ≤ 2 ^ (-19 : Int) := by
  have htoNat : k.toUInt64.toNat = k := by
    rw [Nat.toUInt64_eq, UInt64.toNat_ofNat']
    exact Nat.mod_eq_of_lt (by omega)
  have hmag : (k.toUInt64.toNat : ℚ) ≤ 2 ^ (31 : Int) := by rw [htoNat]; exact_mod_cast hk
  obtain ⟨q₁, hq₁, herr₁⟩ := exactValue_toFloat k.toUInt64 (by norm_num) (by norm_num) hmag
  rw [htoNat] at herr₁
  have hbound : |q₁ * 1| ≤ 2 ^ (32 : Int) := by
    rw [mul_one]
    have hk' : (k : ℚ) ≤ 2 ^ 31 := by exact_mod_cast hk
    have h0 : (0 : ℚ) ≤ k := by positivity
    rw [abs_le] at herr₁ ⊢
    constructor <;> norm_num at herr₁ ⊢ <;> linarith [herr₁.1, herr₁.2]
  obtain ⟨q, hq, herr⟩ := exactValue_mul hq₁ exactValue_powerOfTen_zero (by norm_num) (by norm_num)
    hbound
  refine ⟨q, ofNat_eq_toFloat_mul k hk ▸ hq, ?_⟩
  rw [mul_one] at herr
  calc |q - k| ≤ |q - q₁| + |q₁ - k| := abs_sub_le _ _ _
    _ ≤ 2 ^ (32 - 52 : Int) + 2 ^ (31 - 52 : Int) := add_le_add herr herr₁
    _ ≤ 2 ^ (-19 : Int) := by norm_num

/-- A 32-bit integer converts to within `2^-19`. -/
theorem exactValue_ofInt (n : Int) (hn : |n| ≤ 2 ^ 31) :
    ∃ q, exactValue (Float.ofInt n) = some q ∧ |q - n| ≤ 2 ^ (-19 : Int) := by
  cases n with
  | ofNat k =>
    have hk : k ≤ 2 ^ 31 := by
      have : ((k : Int) : Int) ≤ 2 ^ 31 := le_trans (le_abs_self _) hn
      omega
    obtain ⟨q, hq, herr⟩ := exactValue_ofNat k hk
    exact ⟨q, hq, by simpa using herr⟩
  | negSucc k =>
    have hk : k + 1 ≤ 2 ^ 31 := by
      have := neg_abs_le (Int.negSucc k)
      rw [Int.negSucc_eq] at this hn
      rw [abs_le] at hn
      omega
    obtain ⟨q, hq, herr⟩ := exactValue_ofNat (k + 1) hk
    refine ⟨-q, exactValue_neg hq, ?_⟩
    rw [Int.negSucc_eq, ← abs_neg]
    push_cast at herr ⊢
    rw [show -(-q - (-((k : ℚ) + 1))) = q - ((k : ℚ) + 1) by ring]
    exact herr

end Whole

section Grid

/-! The grid rounding reads a double's fields from its bit pattern; they are the fields
the unpacked form is read from. -/

variable (b : UInt64)

theorem expField_mk :
    (⟨b⟩ : Binary64).expField = (@unpackExponent .binary64 b.toBitVec).toNat := by
  simp only [Binary64.expField, unpackExponent, BitVec.toNat_cast, BitVec.extractLsb,
    BitVec.extractLsb'_toNat, UInt64.toNat_shiftRight, UInt64.toNat_toBitVec]
  rfl

theorem fracField_mk :
    (⟨b⟩ : Binary64).fracField = (@unpackMantissa .binary64 b.toBitVec).toNat := by
  simp only [Binary64.fracField, unpackMantissa, BitVec.toNat_cast, BitVec.extractLsb,
    BitVec.extractLsb'_toNat, UInt64.toNat_toBitVec]
  rfl

theorem sign_mk :
    (⟨b⟩ : Binary64).sign = true ↔ Sign.ofBitVec (@unpackSign .binary64 b.toBitVec) = .negative := by
  have hlt : b.toNat >>> 63 < 2 := by
    rw [Nat.shiftRight_eq_div_pow]
    have := b.toNat_lt
    omega
  simp only [Binary64.sign, Sign.ofBitVec, unpackSign, BitVec.extractLsb]
  rw [beq_iff_eq, ← UInt64.toNat_inj, UInt64.toNat_shiftRight]
  simp only [BitVec.toNat_eq, BitVec.toNat_cast, BitVec.extractLsb'_toNat, UInt64.toNat_toBitVec]
  norm_num
  rw [show UInt64.toNat 63 % 64 = 63 from rfl, show UInt64.toNat 1 = 1 from rfl]
  constructor
  · intro h1 h0
    omega
  · intro h
    by_contra h1
    cases h (by omega)

/-- The sign bit, read as a sign, signs a value. -/
theorem sign_apply_mk (m : Nat) :
    (((Sign.ofBitVec (@unpackSign .binary64 b.toBitVec)).apply m : Int) : ℚ) =
      if (⟨b⟩ : Binary64).sign then -(m : ℚ) else m := by
  have hs := sign_mk b
  cases hsign : Sign.ofBitVec (@unpackSign .binary64 b.toBitVec) with
  | negative => simp [Sign.apply, hs.mpr hsign]
  | positive =>
    have : (⟨b⟩ : Binary64).sign = false := by
      rw [hsign] at hs
      simpa using hs
    simp [Sign.apply, this]

/-- A number's bit pattern splits into its sign, significand and exponent. -/
theorem parts_ofFloat {x : Float} {v : ℚ} (h : exactValue x = some v) :
    ∃ neg m e, (Binary64.ofFloat x).parts = .finite neg m e ∧
      v = (if neg then -(m : ℚ) else m) * 2 ^ e := by
  change unpackedValue (unpack .binary64 x.toModel.toBits.toBitVec) = some v at h
  show ∃ neg m e, (⟨x.toModel.toBits⟩ : Binary64).parts = .finite neg m e ∧ _
  generalize x.toModel.toBits = b at h ⊢
  unfold Binary64.parts
  rw [expField_mk, fracField_mk]
  unfold UnpackedFloat.unpack at h
  simp only [BitVec.toNat_eq] at h
  simp only [beq_iff_eq]
  split at h
  · split at h <;> simp [unpackedValue] at h
  · rename_i htop
    rw [if_neg (by simpa using htop)]
    split at h
    · rename_i hzero
      rw [if_pos (by simpa using hzero)]
      split at h
      · rename_i hm
        simp only [unpackedValue_zero, Option.some.injEq] at h
        have hm' : (@unpackMantissa .binary64 b.toBitVec).toNat = 0 := by simpa using hm
        refine ⟨_, _, _, rfl, ?_⟩
        simp [hm', ← h]
      · have hz : (@unpackExponent .binary64 b.toBitVec).toNat = 0 := by simpa using hzero
        simp only [unpackedValue_finite, Option.some.injEq] at h
        refine ⟨_, _, _, rfl, ?_⟩
        rw [← h, sign_apply_mk, hz]
        norm_num [Format.exponentBias]
    · rename_i hzero
      rw [if_neg (by simpa using hzero)]
      simp only [unpackedValue_finite, Option.some.injEq] at h
      refine ⟨_, _, _, rfl, ?_⟩
      rw [← h, sign_apply_mk, toNat_one_append]
      norm_num [Format.exponentBias]

/-- Rounding `m · 2^e` half up lands within a half of it. -/
theorem halfUp_near (m : Nat) (e : Int) : |(m : ℚ) * 2 ^ e - Binary64.halfUp m e| ≤ 1 / 2 := by
  unfold Binary64.halfUp
  split
  · rename_i he
    have hpow : (2 : ℚ) ^ e = 2 ^ e.toNat := by rw [← zpow_natCast, Int.toNat_of_nonneg he]
    simp [hpow]
  · rename_i he
    obtain ⟨k, hk⟩ : ∃ k, (-e).toNat = k + 1 := ⟨(-e).toNat - 1, by omega⟩
    have hpow : (2 : ℚ) ^ e = 1 / 2 ^ (k + 1) := by
      rw [one_div, ← zpow_natCast, ← zpow_neg, ← hk, Int.toNat_of_nonneg (by omega), neg_neg]
    rw [hk, Nat.add_sub_cancel, hpow]
    -- dividing `m + 2^k` by `2^(k+1)` with quotient `q` and remainder `r` puts `m`
    -- within `2^k` of `q · 2^(k+1)`
    have hdiv := Nat.div_add_mod (m + 2 ^ k) (2 ^ (k + 1))
    have hmod := Nat.mod_lt (m + 2 ^ k) (Nat.two_pow_pos (k + 1))
    generalize (m + 2 ^ k) / 2 ^ (k + 1) = q at hdiv ⊢
    generalize (m + 2 ^ k) % 2 ^ (k + 1) = r at hdiv hmod
    have hm : (m : ℚ) = 2 ^ (k + 1) * q + r - 2 ^ k := by
      have : ((m + 2 ^ k : Nat) : ℚ) = ((2 ^ (k + 1) * q + r : Nat) : ℚ) := by rw [hdiv]
      push_cast at this
      linarith
    have hr : (r : ℚ) < 2 * 2 ^ k := by rw [← pow_succ']; exact_mod_cast hmod
    have hr₀ : (0 : ℚ) ≤ r := by positivity
    have hval : (m : ℚ) * (1 / 2 ^ (k + 1)) - q = ((r : ℚ) - 2 ^ k) / (2 * 2 ^ k) := by
      rw [hm, pow_succ]
      field_simp
      ring
    rw [hval, abs_le, le_div_iff₀ (by positivity), div_le_iff₀ (by positivity)]
    constructor <;> linarith

/-- A number strictly within a half of the integer range `[a, b]` rounds to a cell in it. -/
theorem toGrid_mem {x : Float} {v : ℚ} {a b : Int} (h : exactValue x = some v)
    (ha : Int32.minValue.toInt ≤ a) (hb : b ≤ Int32.maxValue.toInt)
    (hav : (a : ℚ) - 1 / 2 < v) (hvb : v < b + 1 / 2) :
    a ≤ (Binary64.ofFloat x).toGrid.toInt ∧ (Binary64.ofFloat x).toGrid.toInt ≤ b := by
  obtain ⟨neg, m, e, hp, rfl⟩ := parts_ofFloat h
  -- the signed rounding `g` is within a half of the value, so it is an integer of the range
  set g : Int := if neg then -(Binary64.halfUp m e : Int) else Binary64.halfUp m e with hg
  have hnear : |(if neg then -(m : ℚ) else m) * 2 ^ e - g| ≤ 1 / 2 := by
    have := halfUp_near m e
    cases neg
    · simpa [hg] using this
    · rw [← abs_neg]
      simpa [hg, neg_mul, sub_eq_add_neg, add_comm] using this
  rw [abs_le] at hnear
  have hag : a ≤ g := by
    have : ((a - 1 : Int) : ℚ) < g := by push_cast; linarith
    have := Int.cast_lt.mp this
    omega
  have hgb : g ≤ b := by
    have : (g : ℚ) < ((b + 1 : Int) : ℚ) := by push_cast; linarith
    have := Int.cast_lt.mp this
    omega
  unfold Binary64.toGrid
  rw [hp]
  dsimp only
  rw [← hg, Int32.toInt_ofIntClamp (by omega) (by omega)]
  exact ⟨hag, hgb⟩

end Grid

end DogCourier
