import DogCourier.Proofs.Float.Value

/-! # Rounding to a double

    Every arithmetic result is an exact `± m · 2^e` rounded to 53 significant bits at
    the target exponent `max (log₂ m + 1 + e - 53) (-1074)`: the significand is shifted
    right to that exponent, rounded to nearest with ties to even, and shifted once more
    if rounding carried into a 54th bit. This module reads that computation as exact
    rational arithmetic and bounds its error by one unit of the target exponent, which
    is `2^(N - 52)` for a result of magnitude at most `2^N`.

    * `round_error`, `roundWithAccuracy_error`, `normalize_error`: a rounded result is a
      number within one unit of the exact value;
    * `roundWithAccuracy_ne_nan`: rounding never gives a NaN. -/

namespace DogCourier

open Float.Model Float.Model.UnpackedFloat

section Shift

theorem shiftRight_mantissa (em : ExtendedMantissa) (k : Nat) :
    (em >>> k).mantissa = em.mantissa / 2 ^ k := by
  induction k generalizing em with
  | zero => simp [HShiftRight.hShiftRight, Nat.repeat]
  | succ k ih =>
    change (Nat.repeat ExtendedMantissa.shiftRightOne (k + 1) em).mantissa = _
    change (em >>> k).mantissa / 2 = _
    rw [ih]
    simp [Nat.div_div_eq_div_mul, Nat.pow_succ]

/-- Rounding to nearest moves a significand up by at most one. -/
theorem roundedMantissa_le (em : ExtendedMantissa) :
    em.mantissa ≤ em.roundedMantissa ∧ em.roundedMantissa ≤ em.mantissa + 1 := by
  rcases em with ⟨m, r, s⟩
  cases r <;> cases s <;>
    simp [ExtendedMantissa.roundedMantissa, ExtendedMantissa.accuracy, Accuracy.roundToNearestEven]
  omega

theorem log2_shiftLeft {m : Nat} (k : Nat) (hm : 0 < m) : (m <<< k).log2 = m.log2 + k := by
  rw [Nat.shiftLeft_eq]
  refine (Nat.log2_eq_iff (by positivity)).mpr ⟨?_, ?_⟩
  · rw [Nat.pow_add]
    exact Nat.mul_le_mul_right _ (Nat.log2_self_le (by omega))
  · calc m * 2 ^ k < 2 ^ (m.log2 + 1) * 2 ^ k :=
          Nat.mul_lt_mul_of_pos_right Nat.lt_log2_self (by positivity)
      _ = 2 ^ (m.log2 + k + 1) := by rw [← Nat.pow_add]; congr 1; omega

end Shift

section Target

variable (m : Nat) (e : Int) (a : Accuracy)

/-- The exponent a significand `m` at exponent `e` is rounded to. -/
abbrev target : Int := Format.binary64.targetExponent (totalExponent m e)

theorem target_eq : target m e = max ((m.log2 : Int) + e - 52) (-1074) := by
  simp only [target, Format.targetExponent, totalExponent, Format.mantissaBits,
    Format.minExponent]
  omega

theorem shiftToTarget_mantissa :
    (shiftToTargetExponent .binary64 m e a).1.mantissa = m / 2 ^ (target m e - e).toNat := by
  simp only [shiftToTargetExponent, shiftToExponent, shiftRight_mantissa]
  cases a with
  | exact => rfl
  | inexact o => cases o <;> rfl

theorem shiftToTarget_exponent :
    (shiftToTargetExponent .binary64 m e a).2 = e + (target m e - e).toNat := rfl

/-- After the first shift the exponent is at least the least one and the significand has
at most 53 bits. -/
theorem shiftToTarget_bounds :
    -1074 ≤ (shiftToTargetExponent .binary64 m e a).2 ∧
      (shiftToTargetExponent .binary64 m e a).1.mantissa < 2 ^ 53 := by
  rw [shiftToTarget_exponent, shiftToTarget_mantissa]
  have ht := target_eq m e
  refine ⟨by omega, ?_⟩
  apply (Nat.div_lt_iff_lt_mul (by positivity)).mpr
  rw [← Nat.pow_add]
  exact lt_of_lt_of_le Nat.lt_log2_self (Nat.pow_le_pow_right (by decide) (by omega))

/-- When the significand is wide enough, or the exponent is already the least, the first
shift lands exactly on the target exponent. -/
theorem shiftToTarget_exponent_eq (hc : 52 ≤ m.log2 ∨ e ≤ -1074) :
    (shiftToTargetExponent .binary64 m e a).2 = target m e := by
  rw [shiftToTarget_exponent]
  have := target_eq m e
  omega

/-- A significand below `2^53` at an exponent no less than `-1074` is not shifted. -/
theorem shiftToTarget_small {m : Nat} {e : Int} (hm : m < 2 ^ 53) (he : -1074 ≤ e) :
    shiftToTargetExponent .binary64 m e .exact = (⟨m, false, false⟩, e) := by
  have hk : m.log2 ≤ 52 := by
    by_cases h : m = 0
    · simp [h]
    · have := (Nat.log2_lt h).mpr hm; omega
  have hs : (target m e - e).toNat = 0 := by
    have := target_eq m e
    omega
  simp only [shiftToTargetExponent, shiftToExponent]
  rw [show (Format.binary64.targetExponent (totalExponent m e) - e).toNat = 0 from hs]
  simp [HShiftRight.hShiftRight, Nat.repeat, ExtendedMantissa.ofMantissaAndAccuracy]

/-- A carry into the 54th bit is shifted out exactly. -/
theorem shiftToTarget_carry {e : Int} (he : -1074 ≤ e) :
    shiftToTargetExponent .binary64 (2 ^ 53) e .exact = (⟨2 ^ 52, false, false⟩, e + 1) := by
  have ht : target (2 ^ 53) e = e + 1 := by
    rw [target_eq, Nat.log2_two_pow]
    omega
  simp only [shiftToTargetExponent, shiftToExponent]
  rw [show Format.binary64.targetExponent (totalExponent (2 ^ 53) e) = e + 1 from ht]
  simp only [show (e + 1 - e).toNat = 1 by omega]
  simp [HShiftRight.hShiftRight, Nat.repeat, ExtendedMantissa.ofMantissaAndAccuracy,
    ExtendedMantissa.shiftRightOne]

end Target

section Round

variable (s : Sign) (m : Nat) (e : Int) (a : Accuracy)

/-- Rounding as three outcomes: zero, the rounded significand at the first exponent, or
the carry `2^52` one exponent up. -/
theorem roundWithAccuracy_eq :
    roundWithAccuracy .binary64 s m e a =
      let first := shiftToTargetExponent .binary64 m e a
      if h : first.1.roundedMantissa = 0 then .zero s
      else if first.1.roundedMantissa < 2 ^ 53 then
        .finite s first.1.roundedMantissa first.2 (Nat.pos_of_ne_zero h)
      else .finite s (2 ^ 52) (first.2 + 1) (by decide) := by
  obtain ⟨he, hlt⟩ := shiftToTarget_bounds m e a
  have hr : (shiftToTargetExponent .binary64 m e a).1.roundedMantissa ≤ 2 ^ 53 := by
    have := roundedMantissa_le (shiftToTargetExponent .binary64 m e a).1
    omega
  generalize hfirst : shiftToTargetExponent .binary64 m e a = first at *
  obtain ⟨em, e₁⟩ := first
  rw [roundWithAccuracy, hfirst]
  dsimp only at *
  by_cases hz : em.roundedMantissa = 0
  · rw [hz, shiftToTarget_small (by decide) he]
    rfl
  by_cases hsmall : em.roundedMantissa < 2 ^ 53
  · rw [shiftToTarget_small hsmall he]
    simp only [hz, hsmall, ↓reduceDIte, ↓reduceIte]
  · rw [show em.roundedMantissa = 2 ^ 53 by omega, shiftToTarget_carry he]
    rfl

/-- Rounding never produces a NaN. -/
theorem roundWithAccuracy_ne_nan : roundWithAccuracy .binary64 s m e a ≠ .notANumber := by
  rw [roundWithAccuracy_eq]
  dsimp only
  split
  · simp
  · split <;> simp

theorem sign_apply_zero (s : Sign) : s.apply 0 = 0 := by cases s <;> rfl

/-- With the first shift on target and room below the top exponent, the rounded double is
canonical and is the rounded significand at the target exponent. -/
theorem roundWithAccuracy_value (hc : 52 ≤ m.log2 ∨ e ≤ -1074) (ht : target m e ≤ 970) :
    Canonical (roundWithAccuracy .binary64 s m e a) ∧
      unpackedValue (roundWithAccuracy .binary64 s m e a) =
        some ((s.apply (shiftToTargetExponent .binary64 m e a).1.roundedMantissa : ℚ) *
          2 ^ target m e) := by
  have hexp := shiftToTarget_exponent_eq m e a hc
  have hfloor := shiftToTarget_mantissa m e a
  have hr := roundedMantissa_le (shiftToTargetExponent .binary64 m e a).1
  have htarget := target_eq m e
  -- away from the least exponent the first shift leaves a full significand
  have hfull : target m e = -1074 ∨
      2 ^ 52 ≤ (shiftToTargetExponent .binary64 m e a).1.roundedMantissa := by
    by_cases hmin : target m e = -1074
    · exact .inl hmin
    · refine .inr (le_trans ?_ hr.1)
      have hm : m ≠ 0 := by
        rintro rfl
        rw [Nat.log2_zero] at hc htarget
        omega
      rw [hfloor]
      apply (Nat.le_div_iff_mul_le (by positivity)).mpr
      rw [← Nat.pow_add]
      refine le_trans (Nat.pow_le_pow_right (by decide) ?_) (Nat.log2_self_le hm)
      omega
  rw [roundWithAccuracy_eq]
  dsimp only
  split
  · rename_i hz
    simp [Canonical, hz, sign_apply_zero]
  · rename_i hz
    split
    · rename_i hlt
      refine ⟨⟨hlt, by omega, by omega, ?_⟩, by simp [hexp]⟩
      rcases hfull with h | h
      · exact .inr (by omega)
      · exact .inl h
    · rename_i hlt
      have h53 : (shiftToTargetExponent .binary64 m e a).1.roundedMantissa = 2 ^ 53 := by
        have := shiftToTarget_bounds m e a
        omega
      refine ⟨⟨by decide, by omega, by omega, .inl le_rfl⟩, ?_⟩
      simp only [unpackedValue_finite, h53, hexp, Option.some.injEq]
      rw [zpow_add₀ (by norm_num)]
      cases s <;> simp [Sign.apply] <;> ring

/-- The rounded significand is within one unit of the exact one. -/
theorem roundedMantissa_near (hc : 52 ≤ m.log2 ∨ e ≤ -1074) :
    |((shiftToTargetExponent .binary64 m e a).1.roundedMantissa : ℚ) * 2 ^ target m e -
        (m : ℚ) * 2 ^ e| ≤ 2 ^ target m e := by
  have hr := roundedMantissa_le (shiftToTargetExponent .binary64 m e a).1
  rw [shiftToTarget_mantissa] at hr
  have hk : (target m e - e).toNat = target m e - e := by
    have := target_eq m e
    omega
  set k := (target m e - e).toNat
  set r := (shiftToTargetExponent .binary64 m e a).1.roundedMantissa
  -- `m = q · 2^k + rem` with `rem < 2^k`, and `r` is `q` or `q + 1`
  have hdiv := Nat.div_add_mod m (2 ^ k)
  have hmod := Nat.mod_lt m (show 0 < 2 ^ k by positivity)
  have hlo : (r : ℚ) * 2 ^ k ≤ m + 2 ^ k := by
    have : r * 2 ^ k ≤ m + 2 ^ k :=
      calc r * 2 ^ k ≤ (m / 2 ^ k + 1) * 2 ^ k := Nat.mul_le_mul_right _ hr.2
        _ = m / 2 ^ k * 2 ^ k + 2 ^ k := by rw [Nat.add_mul, one_mul]
        _ ≤ m + 2 ^ k := Nat.add_le_add_right (Nat.div_mul_le_self m _) _
    exact_mod_cast this
  have hhi : (m : ℚ) ≤ r * 2 ^ k + 2 ^ k := by
    have : m ≤ r * 2 ^ k + 2 ^ k :=
      calc m = 2 ^ k * (m / 2 ^ k) + m % 2 ^ k := hdiv.symm
        _ ≤ 2 ^ k * r + 2 ^ k := Nat.add_le_add (Nat.mul_le_mul_left _ hr.1) hmod.le
        _ = r * 2 ^ k + 2 ^ k := by rw [Nat.mul_comm]
    exact_mod_cast this
  have hscale : (2 : ℚ) ^ target m e = 2 ^ k * 2 ^ e := by
    rw [← zpow_natCast, ← zpow_add₀ (by norm_num), hk]
    congr 1
    ring
  have hpos : (0 : ℚ) < 2 ^ e := by positivity
  rw [hscale, abs_le]
  constructor <;> nlinarith

/-- A rounded result with room below the top exponent is a number within one unit of the
exact value. -/
theorem roundWithAccuracy_error (hc : 52 ≤ m.log2 ∨ e ≤ -1074) (ht : target m e ≤ 970) :
    Canonical (roundWithAccuracy .binary64 s m e a) ∧
      ∃ q, unpackedValue (roundWithAccuracy .binary64 s m e a) = some q ∧
        |q - (s.apply m : ℚ) * 2 ^ e| ≤ 2 ^ target m e := by
  obtain ⟨hcan, hval⟩ := roundWithAccuracy_value s m e a hc ht
  refine ⟨hcan, _, hval, ?_⟩
  have hnear := roundedMantissa_near m e a hc
  cases s with
  | positive => simpa [Sign.apply] using hnear
  | negative =>
    rw [← abs_neg]
    simpa [Sign.apply, neg_mul, sub_eq_add_neg, add_comm] using hnear

end Round

section Magnitude

/-- A result of magnitude at most `2^N` is rounded at an exponent no greater than
`N - 52`. -/
theorem target_le_of_le {m : Nat} {e N : Int} (hm : 0 < m) (hN : -1022 ≤ N)
    (hv : (m : ℚ) * 2 ^ e ≤ 2 ^ N) : target m e ≤ N - 52 := by
  have hlog : (2 : ℚ) ^ m.log2 ≤ m := by exact_mod_cast Nat.log2_self_le (by omega)
  have h : (2 : ℚ) ^ ((m.log2 : Int) + e) ≤ 2 ^ N := by
    rw [zpow_add₀ (by norm_num), zpow_natCast]
    exact le_trans (mul_le_mul_of_nonneg_right hlog (by positivity)) hv
  have := (zpow_le_zpow_iff_right₀ (by norm_num : (1 : ℚ) < 2)).mp h
  rw [target_eq]
  omega

/-- Shifting a significand left and lowering its exponent as much keeps its value. -/
theorem shiftLeft_value (m k : Nat) (e : Int) :
    ((m <<< k : Nat) : ℚ) * 2 ^ (e - k) = (m : ℚ) * 2 ^ e := by
  rw [Nat.shiftLeft_eq, Nat.cast_mul, Nat.cast_pow, Nat.cast_ofNat, mul_assoc, ← zpow_natCast,
    ← zpow_add₀ (by norm_num)]
  congr 2
  ring

/-- The same for a significand with its sign. -/
theorem signed_shiftLeft_value (s : Sign) (m k : Nat) (e : Int) :
    (s.apply ((m <<< k : Nat) : Int) : ℚ) * 2 ^ (e - k) = (s.apply m : ℚ) * 2 ^ e := by
  have h := shiftLeft_value m k e
  cases s with
  | positive => simpa only [Sign.apply, Int.cast_natCast] using h
  | negative =>
    simpa only [Sign.apply, Int.cast_neg, Int.cast_natCast, neg_mul] using congrArg Neg.neg h

variable (s : Sign) {m : Nat} {e N : Int}

/-- Rounding a significand of any width first widens it to the target exponent; the
result is a canonical number within `2^(N - 52)` of the exact value. -/
theorem round_error (hm : 0 < m) (hN : -1022 ≤ N) (hN' : N ≤ 1022)
    (hv : (m : ℚ) * 2 ^ e ≤ 2 ^ N) :
    Canonical (round .binary64 s m e) ∧
      ∃ q, unpackedValue (round .binary64 s m e) = some q ∧
        |q - (s.apply m : ℚ) * 2 ^ e| ≤ 2 ^ (N - 52) := by
  set k := (e - target m e).toNat with hk
  have ht := target_eq m e
  have hlog : (m <<< k).log2 = m.log2 + k := log2_shiftLeft k hm
  have hc : 52 ≤ (m <<< k).log2 ∨ e - k ≤ -1074 := by omega
  have htarget : target (m <<< k) (e - k) = target m e := by
    simp only [target, totalExponent, hlog]
    congr 1
    push_cast
    ring
  have hb := target_le_of_le hm hN hv
  obtain ⟨hcan, q, hq, herr⟩ :=
    roundWithAccuracy_error s (m <<< k) (e - k) .exact hc (by rw [htarget]; omega)
  refine ⟨hcan, q, hq, ?_⟩
  have hval := signed_shiftLeft_value s m k e
  rw [hval, htarget] at herr
  exact le_trans herr (zpow_le_zpow_right₀ (by norm_num) hb)

/-- Normalising an integer significand: zero, or its magnitude rounded with its sign. -/
theorem normalize_error (n : Int) (zs : Sign) (hN : -1022 ≤ N) (hN' : N ≤ 1022)
    (hv : |(n : ℚ) * 2 ^ e| ≤ 2 ^ N) :
    Canonical (UnpackedFloat.normalize .binary64 n e zs) ∧
      ∃ q, unpackedValue (UnpackedFloat.normalize .binary64 n e zs) = some q ∧
        |q - (n : ℚ) * 2 ^ e| ≤ 2 ^ (N - 52) := by
  have hp : (0 : ℚ) < 2 ^ e := by positivity
  rcases lt_trichotomy n 0 with hn | rfl | hn
  · have hnat : (((-n).toNat : Nat) : ℚ) = -n := by
      rw [show (((-n).toNat : Nat) : ℚ) = (((-n).toNat : Int) : ℚ) by norm_cast]
      rw [Int.toNat_of_nonneg (by omega)]
      push_cast
      ring
    have hv' : (((-n).toNat : Nat) : ℚ) * 2 ^ e ≤ 2 ^ N := by
      rw [hnat]
      rw [abs_mul, abs_of_neg (by exact_mod_cast hn), abs_of_pos hp] at hv
      exact hv
    obtain ⟨hcan, q, hq, herr⟩ := round_error .negative (by omega) hN hN' hv'
    have hnorm : UnpackedFloat.normalize .binary64 n e zs = round .binary64 .negative (-n).toNat e := by
      simp [UnpackedFloat.normalize, Int.compare_eq_lt.mpr hn]
    rw [hnorm]
    refine ⟨hcan, q, hq, ?_⟩
    have hs : ((Sign.negative.apply ((-n).toNat : Nat) : Int) : ℚ) = n := by
      simp only [Sign.apply, Int.cast_neg, Int.cast_natCast, hnat, neg_neg]
    rw [hs] at herr
    exact herr
  · refine ⟨trivial, 0, ?_, by simp; positivity⟩
    simp [UnpackedFloat.normalize]
  · have hnat : ((n.toNat : Nat) : ℚ) = n := by
      rw [show ((n.toNat : Nat) : ℚ) = ((n.toNat : Int) : ℚ) by norm_cast]
      rw [Int.toNat_of_nonneg (by omega)]
    have hv' : ((n.toNat : Nat) : ℚ) * 2 ^ e ≤ 2 ^ N := by
      rw [hnat]
      rw [abs_mul, abs_of_pos (by exact_mod_cast hn), abs_of_pos hp] at hv
      exact hv
    obtain ⟨hcan, q, hq, herr⟩ := round_error .positive (by omega) hN hN' hv'
    have hnorm : UnpackedFloat.normalize .binary64 n e zs = round .binary64 .positive n.toNat e := by
      simp [UnpackedFloat.normalize, Int.compare_eq_gt.mpr hn]
    rw [hnorm]
    refine ⟨hcan, q, hq, ?_⟩
    have hs : ((Sign.positive.apply (n.toNat : Nat) : Int) : ℚ) = n := by
      simp only [Sign.apply, Int.cast_natCast, hnat]
    rw [hs] at herr
    exact herr

end Magnitude

end DogCourier
