import DogCourier.Proofs.Float.Arith

/-! # Comparing doubles by their values

    Doubles compare by sign, then exponent, then significand. On canonical numbers that
    is the order of their exact values, so for two numbers `≤`, `<` and `==` are the
    comparisons of the rationals they denote. A NaN compares with nothing and the
    infinities lie beyond every number, so a double between two numbers is a number.

    * `le_iff`, `lt_iff`, `beq_iff`: comparisons of numbers are comparisons of values;
    * `exactValue_of_beq`: a double equal to a number is a number of the same value;
    * `exactValue_of_le_of_le`: a double between two numbers is a number between them. -/

namespace DogCourier

open Float.Model Float.Model.UnpackedFloat

section Magnitude

theorem compare_neg_neg (a b : ℚ) : compare (-a) (-b) = compare b a := by
  rcases lt_trichotomy a b with h | rfl | h
  · rw [compare_gt_iff_gt.mpr (neg_lt_neg h), compare_gt_iff_gt.mpr h]
  · rw [compare_eq_iff_eq.mpr rfl, compare_eq_iff_eq.mpr rfl]
  · rw [compare_lt_iff_lt.mpr (neg_lt_neg h), compare_lt_iff_lt.mpr h]

variable {m n : Nat} {e f : Int}

/-- A number at a lower exponent is smaller when the other's significand is full. -/
theorem magnitude_lt_of_exponent_lt (hm : m < 2 ^ 53) (hn : 2 ^ 52 ≤ n) (hef : e < f) :
    (m : ℚ) * 2 ^ e < n * 2 ^ f := by
  have hm' : (m : ℚ) < 2 ^ 53 := by exact_mod_cast hm
  have hn' : (2 : ℚ) ^ 52 ≤ n := by exact_mod_cast hn
  calc (m : ℚ) * 2 ^ e < 2 ^ 53 * 2 ^ e := mul_lt_mul_of_pos_right hm' (by positivity)
    _ = 2 ^ 52 * 2 ^ (e + 1) := by rw [zpow_add₀ (by norm_num)]; ring
    _ ≤ 2 ^ 52 * 2 ^ f := by gcongr <;> [norm_num; omega]
    _ ≤ n * 2 ^ f := mul_le_mul_of_nonneg_right hn' (by positivity)

/-- The order of two canonical magnitudes: by exponent, then by significand. -/
theorem compare_magnitude (hm : m < 2 ^ 53 ∧ -1074 ≤ e ∧ (2 ^ 52 ≤ m ∨ e = -1074))
    (hn : n < 2 ^ 53 ∧ -1074 ≤ f ∧ (2 ^ 52 ≤ n ∨ f = -1074)) :
    (compare e f).then (compare m n) = compare ((m : ℚ) * 2 ^ e) ((n : ℚ) * 2 ^ f) := by
  rcases lt_trichotomy e f with hef | rfl | hef
  · have hfull : 2 ^ 52 ≤ n := hn.2.2.resolve_right (by omega)
    rw [compare_lt_iff_lt.mpr hef, Ordering.lt_then,
      compare_lt_iff_lt.mpr (magnitude_lt_of_exponent_lt hm.1 hfull hef)]
  · rw [compare_eq_iff_eq.mpr rfl, Ordering.eq_then]
    have hp : (0 : ℚ) < 2 ^ e := by positivity
    rcases lt_trichotomy m n with hmn | rfl | hmn
    · rw [compare_lt_iff_lt.mpr hmn, compare_lt_iff_lt.mpr
        (mul_lt_mul_of_pos_right (by exact_mod_cast hmn) hp)]
    · rw [compare_eq_iff_eq.mpr rfl, compare_eq_iff_eq.mpr rfl]
    · rw [compare_gt_iff_gt.mpr hmn, compare_gt_iff_gt.mpr
        (mul_lt_mul_of_pos_right (by exact_mod_cast hmn) hp)]
  · have hfull : 2 ^ 52 ≤ m := hm.2.2.resolve_right (by omega)
    rw [compare_gt_iff_gt.mpr hef, Ordering.gt_then,
      compare_gt_iff_gt.mpr (magnitude_lt_of_exponent_lt hn.1 hfull hef)]

end Magnitude

section Compare

variable {u v : UnpackedFloat} {x y : ℚ}

/-- Canonical numbers compare as their values. -/
theorem compare_eq (hu : Canonical u) (hv : Canonical v) (hx : unpackedValue u = some x)
    (hy : unpackedValue v = some y) : u.compare v = some (compare x y) := by
  rcases unpackedValue_cases hx with ⟨s, rfl, rfl⟩ | ⟨s, m, e, hm, rfl, rfl⟩ <;>
    rcases unpackedValue_cases hy with ⟨t, rfl, rfl⟩ | ⟨t, n, f, hn, rfl, rfl⟩
  · simp [UnpackedFloat.compare]
  · have hp : (0 : ℚ) < n * 2 ^ f := by positivity
    cases t
    · simp only [UnpackedFloat.compare, Sign.apply, Int.cast_neg, Int.cast_natCast, neg_mul]
      rw [compare_gt_iff_gt.mpr (by linarith)]
    · simp only [UnpackedFloat.compare, Sign.apply, Int.cast_natCast]
      rw [compare_lt_iff_lt.mpr hp]
  · have hp : (0 : ℚ) < m * 2 ^ e := by positivity
    cases s
    · simp only [UnpackedFloat.compare, Sign.apply, Int.cast_neg, Int.cast_natCast, neg_mul]
      rw [compare_lt_iff_lt.mpr (by linarith)]
    · simp only [UnpackedFloat.compare, Sign.apply, Int.cast_natCast]
      rw [compare_gt_iff_gt.mpr hp]
  · obtain ⟨hm₁, he₁, -, hf₁⟩ := hu
    obtain ⟨hn₁, hf₂, -, hf₃⟩ := hv
    have hmag := compare_magnitude ⟨hm₁, he₁, hf₁⟩ ⟨hn₁, hf₂, hf₃⟩
    have hp : (0 : ℚ) < m * 2 ^ e := by positivity
    have hq : (0 : ℚ) < n * 2 ^ f := by positivity
    cases s <;> cases t <;>
      simp only [UnpackedFloat.compare, Sign.apply, Int.cast_neg, Int.cast_natCast, neg_mul]
    · rw [hmag, compare_neg_neg, Std.OrientedOrd.eq_swap, Ordering.swap_swap]
    · rw [compare_lt_iff_lt.mpr (by linarith)]
    · rw [compare_gt_iff_gt.mpr (by linarith)]
    · rw [hmag]

end Compare

section Float

variable {a b : Float} {x y : ℚ}

theorem le_def : a ≤ b ↔ (a.toModel.unpack.compare b.toModel.unpack).any (·.isLE) := by
  show Float.le a b = true ↔ _
  simp only [Float.le, decide_eq_true_eq]
  rfl

theorem lt_def : a < b ↔ a.toModel.unpack.compare b.toModel.unpack = some .lt := by
  show Float.lt a b = true ↔ _
  simp only [Float.lt, decide_eq_true_eq]
  change (_ == _) = true ↔ _
  simp

theorem le_iff (ha : exactValue a = some x) (hb : exactValue b = some y) : a ≤ b ↔ x ≤ y := by
  rw [le_def, compare_eq (canonical_of_exactValue ha) (canonical_of_exactValue hb) ha hb]
  simp [Ordering.isLE_iff_ne_gt, compare_gt_iff_gt]

theorem lt_iff (ha : exactValue a = some x) (hb : exactValue b = some y) : a < b ↔ x < y := by
  rw [lt_def, compare_eq (canonical_of_exactValue ha) (canonical_of_exactValue hb) ha hb]
  simp [compare_lt_iff_lt]

theorem beq_iff (ha : exactValue a = some x) (hb : exactValue b = some y) :
    (a == b) = true ↔ x = y := by
  change (a.toModel.unpack.beq b.toModel.unpack) = true ↔ _
  rw [UnpackedFloat.beq, compare_eq (canonical_of_exactValue ha) (canonical_of_exactValue hb) ha hb]
  simp

/-- A double equal to a number is a number of the same value. -/
theorem exactValue_of_beq (ha : exactValue a = some x) (hab : (a == b) = true) :
    exactValue b = some x := by
  have hval : ∀ {y}, exactValue b = some y → exactValue b = some x := fun hb => by
    rw [hb, (beq_iff ha hb).mp hab]
  change (a.toModel.unpack.beq b.toModel.unpack) = true at hab
  cases hu : b.toModel.unpack with
  | zero s => exact @hval 0 (by simp [exactValue, hu])
  | finite s m e hm =>
    exact @hval (s.apply m * 2 ^ e) (by simp only [exactValue, hu, unpackedValue_finite])
  | notANumber =>
    rw [UnpackedFloat.beq, hu] at hab
    rcases unpackedValue_cases ha with ⟨t, ht, -⟩ | ⟨t, n, f, hn, ht, -⟩ <;>
      simp [ht, UnpackedFloat.compare] at hab
  | infinity s =>
    rw [UnpackedFloat.beq, hu] at hab
    rcases unpackedValue_cases ha with ⟨t, ht, -⟩ | ⟨t, n, f, hn, ht, -⟩ <;>
      cases s <;> simp [ht, UnpackedFloat.compare] at hab

end Float

section Bounds

variable {lo x hi : Float} {l h : ℚ}

/-- A NaN is below nothing, and `+∞` is below no number. -/
theorem exactValue_of_le (hh : exactValue hi = some h) (hx : x ≤ hi) :
    x.toModel.unpack = .infinity .negative ∨ ∃ v, exactValue x = some v ∧ v ≤ h := by
  cases hu : x.toModel.unpack with
  | zero s =>
    have hv : exactValue x = some 0 := by simp [exactValue, hu]
    exact .inr ⟨0, hv, (le_iff hv hh).mp hx⟩
  | finite s m e hm =>
    have hv : exactValue x = some ((s.apply m : ℚ) * 2 ^ e) := by
      simp only [exactValue, hu, unpackedValue_finite]
    exact .inr ⟨_, hv, (le_iff hv hh).mp hx⟩
  | notANumber =>
    rw [le_def, hu] at hx
    simp [UnpackedFloat.compare] at hx
  | infinity s =>
    rw [le_def, hu] at hx
    cases s
    · exact .inl rfl
    · rcases unpackedValue_cases hh with ⟨t, ht, -⟩ | ⟨t, n, f, hn, ht, -⟩ <;>
        simp [ht, UnpackedFloat.compare] at hx

/-- A NaN is above nothing, and `-∞` is above no number. -/
theorem exactValue_of_ge (hl : exactValue lo = some l) (hx : lo ≤ x) :
    x.toModel.unpack = .infinity .positive ∨ ∃ v, exactValue x = some v ∧ l ≤ v := by
  cases hu : x.toModel.unpack with
  | zero s =>
    have hv : exactValue x = some 0 := by simp [exactValue, hu]
    exact .inr ⟨0, hv, (le_iff hl hv).mp hx⟩
  | finite s m e hm =>
    have hv : exactValue x = some ((s.apply m : ℚ) * 2 ^ e) := by
      simp only [exactValue, hu, unpackedValue_finite]
    exact .inr ⟨_, hv, (le_iff hl hv).mp hx⟩
  | notANumber =>
    rw [le_def, hu] at hx
    rcases unpackedValue_cases hl with ⟨t, ht, -⟩ | ⟨t, n, f, hn, ht, -⟩ <;>
      simp [ht, UnpackedFloat.compare] at hx
  | infinity s =>
    rw [le_def, hu] at hx
    cases s
    · rcases unpackedValue_cases hl with ⟨t, ht, -⟩ | ⟨t, n, f, hn, ht, -⟩ <;>
        cases t <;> simp [ht, UnpackedFloat.compare] at hx
    · exact .inl rfl

/-- A double between two numbers is a number between their values. -/
theorem exactValue_of_le_of_le (hl : exactValue lo = some l) (hh : exactValue hi = some h)
    (h₁ : lo ≤ x) (h₂ : x ≤ hi) : ∃ v, exactValue x = some v ∧ l ≤ v ∧ v ≤ h := by
  rcases exactValue_of_ge hl h₁ with hinf | ⟨v, hv, hlv⟩
  · rcases exactValue_of_le hh h₂ with hinf' | ⟨v, hv, -⟩
    · rw [hinf] at hinf'; cases hinf'
    · simp [exactValue, hinf, unpackedValue] at hv
  · exact ⟨v, hv, hlv, (le_iff hv hh).mp h₂⟩

end Bounds

end DogCourier
