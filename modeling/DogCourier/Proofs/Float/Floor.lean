import DogCourier.Proofs.Float.Integers

/-! # Whole parts of doubles

    `Binary64.floor` reads the floor off a double's bit pattern: a double whose exponent is
    not negative is whole already, and otherwise the significand shifted right past the
    binary point is the floor of a positive value and, rounded up, the negated floor of a
    negative one. `Float.toUInt64` truncates toward zero and clamps into `[0, 2^64)`.

    * `exactValue_floor`: the floor of a number is the floor of its value;
    * `toUInt64_toNat`: a number converts to `UInt64` as the floor of its value, cut off at
      the largest 64-bit value;
    * `floor_toUInt64_succ_lt`: a double above its floor has a floor below `2^52`, so one
      more than it is still a 64-bit value. -/

namespace DogCourier

open Float.Model Float.Model.UnpackedFloat

section Parts

/-- A double with no value (a NaN or an infinity) has no finite parts. -/
theorem parts_of_exactValue_none {x : Float} (h : exactValue x = none) (neg : Bool) (m : Nat)
    (e : Int) : (Binary64.ofFloat x).parts ≠ .finite neg m e := by
  change unpackedValue (unpack .binary64 x.toModel.toBits.toBitVec) = none at h
  show (⟨x.toModel.toBits⟩ : Binary64).parts ≠ _
  generalize x.toModel.toBits = b at h ⊢
  unfold Binary64.parts
  rw [expField_mk, fracField_mk]
  unfold UnpackedFloat.unpack at h
  simp only [BitVec.toNat_eq] at h
  simp only [beq_iff_eq]
  split at h
  · rename_i htop
    rw [if_pos (by simpa using htop)]
    split <;> simp
  · split at h
    · split at h <;> simp at h
    · simp at h

/-- The finite parts of a double give its value. -/
theorem exactValue_of_parts {x : Float} {neg : Bool} {m : Nat} {e : Int}
    (h : (Binary64.ofFloat x).parts = .finite neg m e) :
    exactValue x = some ((if neg then -(m : ℚ) else m) * 2 ^ e) := by
  cases hx : exactValue x with
  | none => exact absurd h (parts_of_exactValue_none hx neg m e)
  | some v =>
    obtain ⟨neg', m', e', h', hv⟩ := parts_ofFloat hx
    rw [h] at h'
    cases h'
    rw [hv]

/-- A finite double's significand has at most 53 bits and its exponent is at least
`-1074`. -/
theorem Binary64.parts_bounds {x : Binary64} {neg : Bool} {m : Nat} {e : Int}
    (h : x.parts = .finite neg m e) : m < 2 ^ 53 ∧ -1074 ≤ e := by
  have hfrac : x.fracField < 2 ^ 52 := Nat.mod_lt _ (Nat.two_pow_pos 52)
  unfold Binary64.parts at h
  rw [Nat.pow_eq] at h
  split at h
  · split at h <;> cases h
  · split at h
    · cases h
      omega
    · rename_i hzero
      cases h
      simp only [beq_iff_eq] at hzero
      omega

end Parts

section Truncation

theorem toNat_ofNatClamp (n : Nat) : (UInt64.ofNatClamp n).toNat = min n (2 ^ 64 - 1) := by
  have hsize : UInt64.size = 2 ^ 64 := rfl
  unfold UInt64.ofNatClamp
  split
  · rename_i hn
    simp only [UInt64.toNat_ofNatLT]
    omega
  · rename_i hn
    simp only [UInt64.toNat_ofNatLT]
    omega

/-- Truncating `± m · 2^e` shifts the significand left by a positive exponent and right by
a negative one, dropping the bits shifted out. -/
theorem roundToInt_eq (s : Sign) (m : Nat) (e : Int) :
    roundToInt s m e = s.apply ((m * 2 ^ e.toNat / 2 ^ (-e).toNat : Nat) : Int) := by
  simp only [roundToInt, decreaseExponent, shiftToExponent, ExtendedMantissa.ofMantissaAndAccuracy,
    shiftRight_mantissa, Nat.shiftLeft_eq, Int.sub_zero]
  rw [show (0 - (e - (e.toNat : Int))).toNat = (-e).toNat by omega]

/-- `m · 2^e` as a quotient of whole numbers. -/
theorem value_eq_div (m : Nat) (e : Int) :
    (m : ℚ) * 2 ^ e = ((m * 2 ^ e.toNat : ℕ) : ℚ) / ((2 ^ (-e).toNat : ℕ) : ℚ) := by
  obtain ⟨a, rfl | rfl⟩ := Int.eq_nat_or_neg e
  · simp
  · simp [zpow_neg, div_eq_mul_inv]

/-- The conversion to `UInt64` of a number is the floor of its value, cut off at the
largest 64-bit value; a negative value converts to `0`. -/
theorem toUInt64_toNat {y : Float} {q : ℚ} (h : exactValue y = some q) :
    y.toUInt64.toNat = min ⌊q⌋₊ (2 ^ 64 - 1) := by
  unfold exactValue at h
  change (UInt64.ofNatClamp (toInt 0 (UInt64.size - 1) y.toModel.unpack).toNat).toNat = _
  rw [toNat_ofNatClamp]
  rcases unpackedValue_cases h with ⟨s, hs, rfl⟩ | ⟨s, m, e, hm, hs, rfl⟩ <;> rw [hs]
  · simp [toInt]
  · simp only [toInt, roundToInt_eq]
    congr 1
    cases s with
    | positive =>
      rw [show ((Sign.positive.apply m : Int) : ℚ) = m from rfl, value_eq_div, ← Int.floor_toNat,
        Rat.floor_natCast_div_natCast]
      simp [Sign.apply]
    | negative =>
      have hneg : ((Sign.negative.apply m : Int) : ℚ) * 2 ^ e ≤ 0 := by
        simp [Sign.apply]
        positivity
      rw [Nat.floor_of_nonpos hneg]
      simp [Sign.apply]
      positivity

end Truncation

section Floor

theorem toNat_toUInt64 {n : Nat} (h : n < 2 ^ 64) : n.toUInt64.toNat = n := by
  rw [Nat.toUInt64_eq, UInt64.toNat_ofNat']
  exact Nat.mod_eq_of_lt h

/-- The floor of a negated quotient is the negated quotient rounded up. -/
theorem floor_neg_div (m : Nat) {d : Nat} (hd : 0 < d) :
    ⌊-((m : ℚ) / d)⌋ = -((if m % d = 0 then m / d else m / d + 1 : ℕ) : ℤ) := by
  rw [Int.floor_neg, neg_inj, Int.ceil_eq_iff]
  have hd' : (0 : ℚ) < d := by exact_mod_cast hd
  have hdiv := Nat.div_add_mod m d
  have hhi := Nat.lt_mul_div_succ m hd
  generalize m / d = q at hdiv hhi
  split
  · rename_i hr
    have hm : (m : ℚ) = q * d := by exact_mod_cast (by rw [Nat.mul_comm]; omega)
    rw [hm, mul_div_cancel_right₀ _ hd'.ne']
    push_cast
    constructor <;> linarith
  · rename_i hr
    push_cast
    rw [add_sub_cancel_right, lt_div_iff₀ hd', div_le_iff₀ hd']
    constructor
    · exact_mod_cast (by rw [Nat.mul_comm]; omega)
    · exact_mod_cast (by rw [Nat.mul_comm]; omega)

/-- A double whose exponent is not negative, or that is no number, is its own floor. -/
theorem floor_eq_self {x : Float}
    (h : ∀ neg m e, (Binary64.ofFloat x).parts = .finite neg m e → 0 ≤ e) :
    Binary64.floor x = x := by
  unfold Binary64.floor
  split
  · rename_i neg m e hp
    rw [if_pos (h neg m e hp)]
  · rfl

/-- The floor of a number is the floor of its value. -/
theorem exactValue_floor {x : Float} {v : ℚ} (h : exactValue x = some v) :
    exactValue (Binary64.floor x) = some (⌊v⌋ : ℚ) := by
  obtain ⟨neg, m, e, hp, hv⟩ := parts_ofFloat h
  obtain ⟨hm, -⟩ := Binary64.parts_bounds hp
  by_cases he : 0 ≤ e
  · -- a non-negative exponent makes the value whole
    rw [floor_eq_self (fun _ _ _ hp' => by rw [hp] at hp'; cases hp'; exact he), h]
    obtain ⟨a, rfl⟩ := Int.eq_ofNat_of_zero_le he
    have hint : v = ((if neg then -((m * 2 ^ a : ℕ) : ℤ) else ((m * 2 ^ a : ℕ) : ℤ) : ℤ) : ℚ) := by
      rw [hv, zpow_natCast]
      split <;> push_cast <;> ring
    rw [hint, Int.floor_intCast]
  · obtain ⟨k, hk, rfl⟩ : ∃ k : ℕ, 0 < k ∧ e = -k := ⟨(-e).toNat, by omega, by omega⟩
    have hpow : (2 : ℚ) ^ (-(k : ℤ)) = 1 / ((2 ^ k : ℕ) : ℚ) := by simp [zpow_neg]
    have hwhole : m / 2 ^ k < 2 ^ 52 := by
      apply Nat.div_lt_of_lt_mul
      calc m < 2 ^ 53 := hm
        _ ≤ 2 ^ k * 2 ^ 52 := by rw [← Nat.pow_add]; exact Nat.pow_le_pow_right (by decide) (by omega)
    unfold Binary64.floor
    rw [hp]
    simp only [if_neg he, Nat.pow_eq, show (-(-(k : ℤ))).toNat = k by omega]
    cases neg with
    | false =>
      rw [if_neg Bool.false_ne_true, exactValue_toFloat_eq _ (by rw [toNat_toUInt64 (by omega)]; omega),
        toNat_toUInt64 (by omega), hv, if_neg Bool.false_ne_true, hpow, mul_one_div,
        Rat.floor_natCast_div_natCast]
      norm_cast
    | true =>
      have hup : (if m % 2 ^ k = 0 then m / 2 ^ k else m / 2 ^ k + 1) < 2 ^ 64 := by split <;> omega
      rw [if_pos rfl, exactValue_neg (exactValue_toFloat_eq _ (by rw [toNat_toUInt64 hup]; split <;> omega)),
        toNat_toUInt64 hup, hv, if_pos rfl, hpow, neg_mul, mul_one_div,
        floor_neg_div m (by positivity)]
      norm_cast

/-- A double is never above itself: `x - x` is `0` for a number and a NaN otherwise. -/
theorem sub_self_not_pos (x : Float) : ¬ 0.0 < x - x := by
  cases hx : exactValue x with
  | some v =>
    rw [lt_iff exactValue_zero (exactValue_sub_eq_zero hx hx)]
    exact lt_irrefl 0
  | none =>
    have hnan : (x - x).toModel.unpack = .notANumber := by
      change unpack .binary64 (UnpackedFloat.pack .binary64
        (UnpackedFloat.sub .binary64 x.toModel.unpack x.toModel.unpack)) = _
      unfold exactValue at hx
      cases hu : x.toModel.unpack with
      | infinity s => cases s <;> rfl
      | notANumber => rfl
      | zero s => rw [hu] at hx; cases hx
      | finite s m e hm => rw [hu] at hx; cases hx
    rw [lt_def, hnan]
    exact fun h => nomatch h

/-- A double above its floor is finite with a negative exponent: a whole double, an
infinity or a NaN is its own floor. -/
theorem parts_of_floor_lt {x : Float} (h : 0.0 < x - Binary64.floor x) :
    ∃ neg m e, (Binary64.ofFloat x).parts = .finite neg m e ∧ e < 0 := by
  by_contra hw
  push Not at hw
  rw [floor_eq_self hw] at h
  exact sub_self_not_pos x h

/-- A double above its floor is a number of magnitude below `2^52`: its significand is
below `2^53` and its exponent at most `-1`. -/
theorem exactValue_of_floor_lt {x : Float} (h : 0.0 < x - Binary64.floor x) :
    ∃ v, exactValue x = some v ∧ |v| < 2 ^ 52 := by
  obtain ⟨neg, m, e, hp, he⟩ := parts_of_floor_lt h
  obtain ⟨hm, -⟩ := Binary64.parts_bounds hp
  refine ⟨_, exactValue_of_parts hp, ?_⟩
  have hpow : (2 : ℚ) ^ e ≤ 2 ^ (-1 : ℤ) := zpow_le_zpow_right₀ (by norm_num) (by omega)
  have hm' : (m : ℚ) < 2 ^ 53 := by exact_mod_cast hm
  have hmag : |(if neg then -(m : ℚ) else m)| = m := by split <;> simp
  calc |(if neg then -(m : ℚ) else m) * 2 ^ e| = m * 2 ^ e := by
        rw [abs_mul, hmag, abs_of_pos (by positivity)]
    _ < 2 ^ 53 * 2 ^ (-1 : ℤ) :=
        mul_lt_mul_of_lt_of_le_of_nonneg_of_pos hm' hpow (by positivity) (by positivity)
    _ = 2 ^ 52 := by norm_num

/-- A double above its floor has a fraction: its exponent is negative, so its floor is
below `2^52` and converts to a `UInt64` with room for one more. -/
theorem floor_toUInt64_succ_lt (x : Float) (h : 0.0 < x - Binary64.floor x) :
    (Binary64.floor x).toUInt64.toNat + 1 < 2 ^ 64 := by
  obtain ⟨v, hv, hbound⟩ := exactValue_of_floor_lt h
  have hfloor : ⌊((⌊v⌋ : ℤ) : ℚ)⌋₊ ≤ 2 ^ 52 :=
    Nat.floor_le_of_le (le_trans (Int.floor_le _) (le_trans (le_abs_self v) hbound.le))
  rw [toUInt64_toNat (exactValue_floor hv)]
  omega

end Floor

end DogCourier
