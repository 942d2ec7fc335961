import DogCourier.Proofs.Float.Integers

/-! # Quotients of doubles

    A quotient of two finite doubles is computed in two steps: the first significand is
    shifted left and divided by the second, which cuts the exact quotient to a whole
    number of units at an exponent chosen to leave 53 bits (`divCore_bracket`,
    `divCore_wide`), and the cut is then rounded. Each step is off by at most one unit,
    so a quotient is within `2^(N - 51)` of the exact one when that is at most `2^N`
    (`exactValue_div`), one bit worse than a sum or a product.

    Away from the subnormal range such absolute bounds read as relative ones: a result
    lies in a binade `(2^N / 2, 2^N]` (`exists_binade`), so a sum, a conversion or a
    quotient is off by at most a `2^-51` or `2^-50` part of itself
    (`exactValue_add_near`, `exactValue_toFloat_near`, `exactValue_div_near`). -/

namespace DogCourier

open Float.Model Float.Model.UnpackedFloat

section Core

variable (m n : Nat) (e f : Int)

/-- The exact quotient `m · 2^e / (n · 2^f)` lies between the cut significand and one unit
above it, at an exponent no greater than `e - f`. -/
theorem divCore_bracket (hn : 0 < n) :
    (divCore .binary64 m e n f).2.1 ≤ e - f ∧
      ((divCore .binary64 m e n f).1 : ℚ) * 2 ^ (divCore .binary64 m e n f).2.1 ≤
        m * 2 ^ e / (n * 2 ^ f) ∧
      (m : ℚ) * 2 ^ e / (n * 2 ^ f) <
        ((divCore .binary64 m e n f).1 + 1) * 2 ^ (divCore .binary64 m e n f).2.1 := by
  set t := (divCore .binary64 m e n f).2.1 with ht
  have hte : t ≤ e - f := min_le_left _ _
  set k := (e - f - t).toNat with hk
  have hc : (divCore .binary64 m e n f).1 = m * 2 ^ k / n := by
    change (m <<< k) / n = _
    rw [Nat.shiftLeft_eq]
  -- the exact quotient is `m · 2^k / n` units of `2^t`
  have hval : (m : ℚ) * 2 ^ e / (n * 2 ^ f) = ((m * 2 ^ k : ℕ) : ℚ) / n * 2 ^ t := by
    have h2 : (2 : ℚ) ^ e = 2 ^ k * 2 ^ t * 2 ^ f := by
      rw [← zpow_natCast, ← zpow_add₀ two_ne_zero, ← zpow_add₀ two_ne_zero]
      congr 1
      omega
    rw [h2]
    push_cast
    field_simp
  have hfloor : ((m * 2 ^ k / n : ℕ) : ℚ) ≤ ((m * 2 ^ k : ℕ) : ℚ) / n := Nat.cast_div_le
  have hceil : ((m * 2 ^ k : ℕ) : ℚ) / n < ((m * 2 ^ k / n : ℕ) : ℚ) + 1 := by
    have hfl : ⌊((m * 2 ^ k : ℕ) : ℚ) / n⌋₊ = m * 2 ^ k / n := Nat.floor_div_eq_div _ _
    rw [← hfl]
    exact Nat.lt_floor_add_one _
  have hpos : (0 : ℚ) < 2 ^ t := by positivity
  rw [hval, hc]
  exact ⟨hte, mul_le_mul_of_nonneg_right hfloor hpos.le, mul_lt_mul_of_pos_right hceil hpos⟩

/-- The cut significand has 53 bits, unless the cut exponent is already the least. -/
theorem divCore_wide (hm : 0 < m) (hn : 0 < n) :
    52 ≤ (divCore .binary64 m e n f).1.log2 ∨ (divCore .binary64 m e n f).2.1 ≤ -1074 := by
  set t := (divCore .binary64 m e n f).2.1 with ht
  have htdef : t = min (e - f) (max ((m.log2 : Int) - n.log2 + e - f - 53) (-1074)) := by
    simp only [ht, divCore, Format.targetExponent, totalExponent, Format.mantissaBits,
      Format.minExponent]
    omega
  by_cases hlow : t ≤ -1074
  · exact .inr hlow
  refine .inl ?_
  set k := (e - f - t).toNat with hk
  have hc : (divCore .binary64 m e n f).1 = m * 2 ^ k / n := by
    change (m <<< k) / n = _
    rw [Nat.shiftLeft_eq]
  -- the cut leaves at least 53 bits between the quotient's leading bit and the unit
  have hbits : n.log2 + 53 ≤ m.log2 + k := by omega
  have hm' : 2 ^ (m.log2 + k) ≤ m * 2 ^ k := by
    rw [Nat.pow_add]
    exact Nat.mul_le_mul_right _ (Nat.log2_self_le (by omega))
  have h52 : 2 ^ 52 * n ≤ m * 2 ^ k :=
    calc 2 ^ 52 * n ≤ 2 ^ 52 * 2 ^ (n.log2 + 1) := Nat.mul_le_mul_left _ Nat.lt_log2_self.le
      _ = 2 ^ (n.log2 + 53) := by rw [← Nat.pow_add]; congr 1; omega
      _ ≤ 2 ^ (m.log2 + k) := Nat.pow_le_pow_right (by decide) hbits
      _ ≤ m * 2 ^ k := hm'
  have hq : 2 ^ 52 ≤ m * 2 ^ k / n := (Nat.le_div_iff_mul_le hn).mpr (Nat.mul_comm n _ ▸ h52)
  rw [hc]
  exact (Nat.le_log2 (by omega)).mpr hq

end Core

section Unpacked

variable {u v : UnpackedFloat} {x y : ℚ} {N : Int}

theorem sign_div_eq_mul (s t : Sign) : s / t = s * t := by
  cases s <;> cases t <;> rfl

/-- A quotient's sign applies alike to the cut significand and to the exact quotient. -/
theorem abs_sign_div (s t : Sign) (c m n : Nat) (T e f : Int) :
    |((s / t).apply c : ℚ) * 2 ^ T - (s.apply m : ℚ) * 2 ^ e / ((t.apply n : ℚ) * 2 ^ f)| =
      |(c : ℚ) * 2 ^ T - m * 2 ^ e / (n * 2 ^ f)| := by
  rw [sign_div_eq_mul]
  cases s <;> cases t <;> simp [Sign.apply, neg_div, div_neg]
  all_goals rw [neg_add_eq_sub, abs_sub_comm]

/-- A quotient of two canonical numbers, the second non-zero: a zero when the first is
zero, else the quotient cut to 53 bits and rounded. It is off by the cut and by the
rounding, each at most one unit of `2^(N - 52)`. -/
theorem div_error (hu : Canonical u) (hv : Canonical v) (hx : unpackedValue u = some x)
    (hy : unpackedValue v = some y) (hy0 : y ≠ 0) (hN : -1022 ≤ N) (hN' : N ≤ 1022)
    (hb : |x / y| ≤ 2 ^ N) :
    Canonical (UnpackedFloat.div .binary64 u v) ∧
      ∃ q, unpackedValue (UnpackedFloat.div .binary64 u v) = some q ∧
        |q - x / y| ≤ 2 ^ (N - 51) := by
  have hpos : (0 : ℚ) ≤ 2 ^ (N - 51) := by positivity
  rcases unpackedValue_cases hx with ⟨s, rfl, rfl⟩ | ⟨s, m, e, hm, rfl, rfl⟩ <;>
    rcases unpackedValue_cases hy with ⟨t, rfl, rfl⟩ | ⟨t, n, f, hn, rfl, rfl⟩
  · exact absurd rfl hy0
  · exact ⟨trivial, 0, rfl, by simpa using hpos⟩
  · exact absurd rfl hy0
  · obtain ⟨hte, hlo, hhi⟩ := divCore_bracket m n e f hn
    have hc := divCore_wide m n e f hm hn
    set c := divCore .binary64 m e n f with hcdef
    set r : ℚ := (m : ℚ) * 2 ^ e / (n * 2 ^ f) with hr
    have habs : |(s.apply m : ℚ) * 2 ^ e / ((t.apply n : ℚ) * 2 ^ f)| = r := by
      have h := abs_sign_div s t 0 m n 0 e f
      simp only [Nat.cast_zero, sign_apply_zero, Int.cast_zero, zero_mul, zero_sub, abs_neg] at h
      rw [h, abs_of_pos (by positivity)]
    -- the cut is within one unit of its exponent
    have hcut : |(c.1 : ℚ) * 2 ^ c.2.1 - r| ≤ 2 ^ c.2.1 := by
      rw [abs_le]
      constructor <;> nlinarith
    -- that unit is no greater than the rounding unit, which is at most `2^(N - 52)`
    have htt : c.2.1 ≤ target c.1 c.2.1 := by
      rw [target_eq]
      omega
    have htN : target c.1 c.2.1 ≤ N - 52 := by
      rcases Nat.eq_zero_or_pos c.1 with h0 | h0
      · rw [h0, Nat.log2_zero] at hc
        rw [target_eq, h0, Nat.log2_zero]
        omega
      · exact target_le_of_le h0 hN (le_trans hlo (habs ▸ hb))
    obtain ⟨hcan, q, hq, herr⟩ := roundWithAccuracy_error (s / t) c.1 c.2.1 c.2.2 hc (by omega)
    refine ⟨hcan, q, hq, ?_⟩
    have hunit : (2 : ℚ) ^ c.2.1 ≤ 2 ^ (N - 52) := zpow_le_zpow_right₀ (by norm_num) (by omega)
    have hround : (2 : ℚ) ^ target c.1 c.2.1 ≤ 2 ^ (N - 52) := zpow_le_zpow_right₀ (by norm_num) htN
    calc |q - (s.apply m : ℚ) * 2 ^ e / ((t.apply n : ℚ) * 2 ^ f)|
        ≤ |q - ((s / t).apply c.1 : ℚ) * 2 ^ c.2.1| +
          |((s / t).apply c.1 : ℚ) * 2 ^ c.2.1 - (s.apply m : ℚ) * 2 ^ e / ((t.apply n : ℚ) * 2 ^ f)| :=
          abs_sub_le _ _ _
      _ ≤ 2 ^ (N - 52) + 2 ^ (N - 52) :=
          add_le_add (herr.trans hround) (by rw [abs_sign_div]; exact hcut.trans hunit)
      _ = 2 ^ (N - 51) := by
          rw [show N - 51 = N - 52 + 1 by ring, zpow_add_one₀ two_ne_zero]
          ring

end Unpacked

section Float

variable {a b : Float} {x y : ℚ} {N : Int}

/-- A quotient of a number by a non-zero number is a number within `2^(N - 51)` of the
exact quotient. -/
theorem exactValue_div (ha : exactValue a = some x) (hb : exactValue b = some y) (hy : y ≠ 0)
    (hN : -1022 ≤ N) (hN' : N ≤ 1022) (hv : |x / y| ≤ 2 ^ N) :
    ∃ q, exactValue (a / b) = some q ∧ |q - x / y| ≤ 2 ^ (N - 51) := by
  obtain ⟨hcan, q, hq, herr⟩ :=
    div_error (canonical_of_exactValue ha) (canonical_of_exactValue hb) ha hb hy hN hN' hv
  refine ⟨q, ?_, herr⟩
  exact (exactValue_ofModel_pack hcan).trans hq

/-- Zero divided by a non-zero number is zero. -/
theorem exactValue_zero_div (ha : exactValue a = some 0) (hb : exactValue b = some y)
    (hy : y ≠ 0) : exactValue (a / b) = some 0 := by
  show exactValue (.ofModel (Float.Model.pack
    (UnpackedFloat.div .binary64 a.toModel.unpack b.toModel.unpack))) = some 0
  rcases unpackedValue_cases ha with ⟨s, hs, -⟩ | ⟨s, m, e, hm, hs, h0⟩
  · rcases unpackedValue_cases hb with ⟨t, ht, rfl⟩ | ⟨t, n, f, hn, ht, -⟩
    · exact absurd rfl hy
    · rw [hs, ht]
      simp only [UnpackedFloat.div]
      exact exactValue_ofModel_pack (show Canonical (.zero (s / t)) from trivial)
  · -- a finite double is no zero
    have hsm : ((s.apply m : Int) : ℚ) ≠ 0 := by
      cases s <;> simp [Sign.apply] <;> omega
    exact absurd h0.symm (mul_ne_zero hsm (by positivity))

end Float

section Relative

/-- A magnitude in the range of normal doubles lies in a binade `(2^N / 2, 2^N]` with `N`
in range. -/
theorem exists_binade {r : ℚ} (hlo : 2 ^ (-1021 : Int) ≤ r) (hhi : r ≤ 2 ^ (1021 : Int)) :
    ∃ N : Int, -1022 ≤ N ∧ N ≤ 1022 ∧ r ≤ 2 ^ N ∧ 2 ^ N < 2 * r := by
  have hr : 0 < r := lt_of_lt_of_le (by positivity) hlo
  refine ⟨Int.clog 2 r, ?_, ?_, ?_, ?_⟩
  · have h := (zpow_le_zpow_iff_right₀ (by norm_num : (1 : ℚ) < 2)).mp
      (hlo.trans (by exact_mod_cast Int.self_le_zpow_clog (by norm_num : 1 < 2) r))
    omega
  · have h := (zpow_lt_zpow_iff_right₀ (by norm_num : (1 : ℚ) < 2)).mp
      (lt_of_lt_of_le (by exact_mod_cast Int.zpow_pred_clog_lt_self (by norm_num : 1 < 2) hr) hhi)
    omega
  · exact_mod_cast Int.self_le_zpow_clog (by norm_num : 1 < 2) r
  · have h : (2 : ℚ) ^ (Int.clog 2 r - 1) < r := by
      exact_mod_cast Int.zpow_pred_clog_lt_self (by norm_num : 1 < 2) hr
    rw [show Int.clog 2 r = Int.clog 2 r - 1 + 1 by ring, zpow_add_one₀ two_ne_zero]
    linarith

/-- An error of `2^(N - c)` in the binade `(2^N / 2, 2^N]` of `r` is at most `r / 2^(c - 1)`. -/
theorem le_of_binade {d r : ℚ} {N : Int} (c : Nat) (hd : d ≤ 2 ^ (N - c)) (hN : 2 ^ N < 2 * r) :
    d ≤ r / 2 ^ (c - 1 : Int) := by
  have hsplit : (2 : ℚ) ^ (N - c) = 2 ^ N / 2 ^ (c - 1 : Int) / 2 := by
    rw [← zpow_sub₀ two_ne_zero, show N - c = N - (c - 1 : Int) - 1 by ring,
      zpow_sub_one₀ two_ne_zero, div_eq_mul_inv]
  rw [hsplit] at hd
  have hp : (0 : ℚ) < 2 ^ (c - 1 : Int) := by positivity
  calc d ≤ 2 ^ N / 2 ^ (c - 1 : Int) / 2 := hd
    _ ≤ 2 * r / 2 ^ (c - 1 : Int) / 2 := by gcongr
    _ = r / 2 ^ (c - 1 : Int) := by ring

/-- A relative error of at most a half leaves a value within a factor of two. -/
theorem bounds_of_near {q r : ℚ} {k : Int} (hk : 1 ≤ k) (hr : 0 ≤ r) (h : |q - r| ≤ r / 2 ^ k) :
    r / 2 ≤ q ∧ q ≤ 2 * r := by
  have hhalf : r / 2 ^ k ≤ r / 2 := by
    apply div_le_div_of_nonneg_left hr (by norm_num)
    simpa using zpow_le_zpow_right₀ (by norm_num : (1 : ℚ) ≤ 2) hk
  rw [abs_le] at h
  constructor <;> linarith [h.1, h.2]

variable {a b : Float} {x y : ℚ}

/-- A sum in the range of normal doubles is off by at most a `2^-51` part of itself. -/
theorem exactValue_add_near (ha : exactValue a = some x) (hb : exactValue b = some y)
    (hlo : 2 ^ (-1021 : Int) ≤ |x + y|) (hhi : |x + y| ≤ 2 ^ (1021 : Int)) :
    ∃ q, exactValue (a + b) = some q ∧ |q - (x + y)| ≤ |x + y| / 2 ^ (51 : Int) := by
  obtain ⟨N, hN, hN', hle, hlt⟩ := exists_binade hlo hhi
  obtain ⟨q, hq, herr⟩ := exactValue_add ha hb hN hN' hle
  exact ⟨q, hq, le_of_binade 52 herr hlt⟩

/-- A quotient in the range of normal doubles is off by at most a `2^-50` part of itself. -/
theorem exactValue_div_near (ha : exactValue a = some x) (hb : exactValue b = some y)
    (hlo : 2 ^ (-1021 : Int) ≤ |x / y|) (hhi : |x / y| ≤ 2 ^ (1021 : Int)) :
    ∃ q, exactValue (a / b) = some q ∧ |q - x / y| ≤ |x / y| / 2 ^ (50 : Int) := by
  have hy : y ≠ 0 := by
    rintro rfl
    rw [div_zero, abs_zero] at hlo
    exact absurd hlo (not_le.mpr (by positivity))
  obtain ⟨N, hN, hN', hle, hlt⟩ := exists_binade hlo hhi
  obtain ⟨q, hq, herr⟩ := exactValue_div ha hb hy hN hN' hle
  exact ⟨q, hq, le_of_binade 51 herr hlt⟩

/-- A positive 64-bit whole number converts to within a `2^-51` part of itself. -/
theorem exactValue_toFloat_near (n : UInt64) (hn : 0 < n.toNat) :
    ∃ q, exactValue n.toFloat = some q ∧ |q - n.toNat| ≤ n.toNat / 2 ^ (51 : Int) := by
  have hlo : (2 : ℚ) ^ (-1021 : Int) ≤ n.toNat :=
    le_trans (zpow_le_one_of_nonpos₀ (by norm_num) (by norm_num)) (by exact_mod_cast hn)
  have hhi : (n.toNat : ℚ) ≤ 2 ^ (1021 : Int) := by
    have h : n.toNat < 2 ^ 64 := UInt64.toNat_lt n
    have h' : ((n.toNat : ℕ) : ℚ) ≤ 2 ^ (64 : ℕ) := by exact_mod_cast h.le
    exact h'.trans (by rw [← zpow_natCast]; exact zpow_le_zpow_right₀ (by norm_num) (by norm_num))
  obtain ⟨N, hN, hN', hle, hlt⟩ := exists_binade hlo hhi
  obtain ⟨q, hq, herr⟩ := exactValue_toFloat n hN hN' hle
  exact ⟨q, hq, le_of_binade 52 herr hlt⟩

end Relative

end DogCourier
