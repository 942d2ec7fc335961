import DogCourier.Proofs.Float.Convert

/-! # Rounding crosses no integer

    A rounded result is its significand shifted to the target exponent, rounded to the
    floor or one unit above, and left on the floor when only zero bits were shifted out.
    At a unit no greater than one, every integer is a whole number of units, so the
    result lies on the same side of each integer as the exact value (`KeepsInts`). In
    particular a result whose exact value is an integer is that integer. This is what
    the error bounds of `Arith` cannot give: it orders `n - w` below `n + w` however
    small `w` is.

    * `floor_grid`, `keepsInts_scaled`: the floor-or-one-above significand on values;
    * `exactValue_add_keepsInts`, `exactValue_sub_keepsInts`, `exactValue_mul_keepsInts`:
      sums, differences and products of magnitude at most `2^52`;
    * `exactValue_ofInt_eq`: a 32-bit integer converts exactly. -/

namespace DogCourier

open Float.Model Float.Model.UnpackedFloat

/-- Rounding `r` to `q` crosses no integer: `q` lies on the same side of every integer
as `r`, or on it. -/
def KeepsInts (r q : ℚ) : Prop := ∀ K : Int, (r ≤ K → q ≤ K) ∧ ((K : ℚ) ≤ r → K ≤ q)

namespace KeepsInts

variable {r q : ℚ}

theorem refl (r : ℚ) : KeepsInts r r := fun _ => ⟨id, id⟩

theorem neg (h : KeepsInts r q) : KeepsInts (-r) (-q) := by
  intro K
  obtain ⟨h₁, h₂⟩ := h (-K)
  push_cast at h₁ h₂
  constructor
  · intro hr
    linarith [h₂ (by linarith)]
  · intro hr
    linarith [h₁ (by linarith)]

/-- An integer rounds to itself. -/
theorem eq_of_int {n : Int} (h : KeepsInts n q) : q = n :=
  le_antisymm ((h n).1 le_rfl) ((h n).2 le_rfl)

end KeepsInts

section Shift

/-- Shifting out only zero bits is exact: no round or sticky bit is set. -/
theorem shiftRight_exact (k m : Nat) (h : 2 ^ k ∣ m) :
    (⟨m, false, false⟩ : ExtendedMantissa) >>> k = ⟨m / 2 ^ k, false, false⟩ := by
  induction k with
  | zero => simp [HShiftRight.hShiftRight, Nat.repeat]
  | succ k ih =>
    change ExtendedMantissa.shiftRightOne ((⟨m, false, false⟩ : ExtendedMantissa) >>> k) = _
    rw [ih (Nat.dvd_trans (Nat.pow_dvd_pow 2 (Nat.le_succ k)) h)]
    have heven : m / 2 ^ k % 2 = 0 := by
      obtain ⟨c, rfl⟩ := h
      rw [Nat.pow_succ, Nat.mul_assoc, Nat.mul_div_cancel_left _ (by positivity)]
      simp
    simp [ExtendedMantissa.shiftRightOne, heven, Nat.div_div_eq_div_mul, Nat.pow_succ]

/-- A significand between the floor and one above it, equal to the floor when the floor
is exact, stays on the same side of every multiple of the unit. -/
theorem floor_grid {m R k : Nat} (hR : m / 2 ^ k ≤ R ∧ R ≤ m / 2 ^ k + 1)
    (hexact : m % 2 ^ k = 0 → R = m / 2 ^ k) (K : Int) :
    ((m : Int) ≤ K * 2 ^ k → (R : Int) ≤ K) ∧ (K * 2 ^ k ≤ m → K ≤ R) := by
  have hp : 0 < 2 ^ k := by positivity
  constructor
  · intro hm
    lift K to Nat using (by
      by_contra hK
      have : K * 2 ^ k < 0 := Int.mul_neg_of_neg_of_pos (by omega) (by positivity)
      omega)
    have hm' : m ≤ K * 2 ^ k := by exact_mod_cast hm
    have hF : m / 2 ^ k ≤ K := Nat.div_le_of_le_mul (by rwa [Nat.mul_comm])
    rcases Nat.lt_or_eq_of_le hF with hlt | heq
    · exact_mod_cast (show R ≤ K by omega)
    · -- the floor is `K`, so `m` is `K` units exactly
      have hmod : m % 2 ^ k = 0 := by
        have hsplit := Nat.div_add_mod m (2 ^ k)
        rw [heq, Nat.mul_comm] at hsplit
        omega
      exact_mod_cast (show R ≤ K by rw [hexact hmod]; omega)
  · intro hm
    rcases Int.lt_or_le K 0 with hK | hK
    · omega
    lift K to Nat using hK
    have hm' : K * 2 ^ k ≤ m := by exact_mod_cast hm
    have : K ≤ m / 2 ^ k := (Nat.le_div_iff_mul_le hp).mpr hm'
    exact_mod_cast (show K ≤ R by omega)

end Shift

section Scaled

/-- `floor_grid` read on values: a significand rounded at a unit `2^t` no greater than one
crosses no integer. -/
theorem keepsInts_scaled {m R k : Nat} {t : Int} (ht : t ≤ 0)
    (hR : m / 2 ^ k ≤ R ∧ R ≤ m / 2 ^ k + 1) (hexact : m % 2 ^ k = 0 → R = m / 2 ^ k) :
    KeepsInts ((m : ℚ) * 2 ^ (t - k)) ((R : ℚ) * 2 ^ t) := by
  -- an integer `K` is `K · 2^-t` units of `2^t`
  set P : Nat := 2 ^ (-t).toNat with hP
  have hPq : (2 : ℚ) ^ (-t) = P := by
    rw [hP, Nat.cast_pow, Nat.cast_ofNat, ← zpow_natCast, Int.toNat_of_nonneg (by omega)]
  have hpos : (0 : ℚ) < 2 ^ t := by positivity
  have hunit : (2 : ℚ) ^ t * P = 1 := by
    rw [← hPq, ← zpow_add₀ (by norm_num), add_neg_cancel, zpow_zero]
  -- `x` at unit `2^(t - k)` is `x · 2^-t · 2^k` at unit one
  have hback (x : ℚ) : x * 2 ^ (t - k) * (P * 2 ^ k) = x := by
    have hsplit : (2 : ℚ) ^ (t - k) * 2 ^ k = 2 ^ t := by
      rw [← zpow_natCast, ← zpow_add₀ (by norm_num), sub_add_cancel]
    rw [mul_assoc, show (2 : ℚ) ^ (t - k) * (P * 2 ^ k) = 2 ^ t * P by rw [← hsplit]; ring,
      hunit, mul_one]
  have hdown (x : ℚ) : x * P * 2 ^ t = x := by rw [mul_assoc, mul_comm (P : ℚ), hunit, mul_one]
  have hscale : (0 : ℚ) ≤ P * 2 ^ k := by positivity
  intro K
  obtain ⟨h₁, h₂⟩ := floor_grid hR hexact (K * P)
  constructor
  · intro hr
    have hm : (m : ℚ) ≤ K * P * 2 ^ k := by
      calc (m : ℚ) = m * 2 ^ (t - k) * (P * 2 ^ k) := (hback m).symm
        _ ≤ K * (P * 2 ^ k) := mul_le_mul_of_nonneg_right hr hscale
        _ = K * P * 2 ^ k := by ring
    have hRK : (R : ℚ) ≤ K * P := by exact_mod_cast h₁ (by exact_mod_cast hm)
    calc (R : ℚ) * 2 ^ t ≤ K * P * 2 ^ t := mul_le_mul_of_nonneg_right hRK hpos.le
      _ = K := hdown K
  · intro hr
    have hm : (K : ℚ) * P * 2 ^ k ≤ m := by
      calc (K : ℚ) * P * 2 ^ k = K * (P * 2 ^ k) := by ring
        _ ≤ m * 2 ^ (t - k) * (P * 2 ^ k) := mul_le_mul_of_nonneg_right hr hscale
        _ = m := hback m
    have hRK : (K : ℚ) * P ≤ R := by exact_mod_cast h₂ (by exact_mod_cast hm)
    calc (K : ℚ) = K * P * 2 ^ t := (hdown K).symm
      _ ≤ R * 2 ^ t := mul_le_mul_of_nonneg_right hRK hpos.le

end Scaled

section Round

variable (s : Sign) {m : Nat} {e : Int}

/-- The first shift of an exact significand has its floor, and is exact when only zeros
are shifted out. -/
theorem shiftToTarget_floor :
    let R := (shiftToTargetExponent .binary64 m e .exact).1.roundedMantissa
    let k := (target m e - e).toNat
    (m / 2 ^ k ≤ R ∧ R ≤ m / 2 ^ k + 1) ∧ (m % 2 ^ k = 0 → R = m / 2 ^ k) := by
  intro R k
  have hr := roundedMantissa_le (shiftToTargetExponent .binary64 m e .exact).1
  rw [shiftToTarget_mantissa] at hr
  refine ⟨hr, fun hmod => ?_⟩
  change (ExtendedMantissa.ofMantissaAndAccuracy m .exact >>> k).roundedMantissa = _
  rw [show ExtendedMantissa.ofMantissaAndAccuracy m .exact = ⟨m, false, false⟩ from rfl,
    shiftRight_exact k m (Nat.dvd_of_mod_eq_zero hmod)]
  rfl

/-- Rounding an exact significand at a unit no greater than one crosses no integer. -/
theorem roundWithAccuracy_keepsInts (hc : 52 ≤ m.log2 ∨ e ≤ -1074) (ht : target m e ≤ 0) :
    ∃ q, unpackedValue (roundWithAccuracy .binary64 s m e .exact) = some q ∧
      KeepsInts ((s.apply m : ℚ) * 2 ^ e) q := by
  obtain ⟨-, hval⟩ := roundWithAccuracy_value s m e .exact hc (by omega)
  refine ⟨_, hval, ?_⟩
  obtain ⟨hR, hexact⟩ := shiftToTarget_floor (m := m) (e := e)
  have hk : target m e - ((target m e - e).toNat : Int) = e := by
    have := target_eq m e
    omega
  have hpos := keepsInts_scaled ht hR hexact
  rw [hk] at hpos
  cases s with
  | positive => simpa [Sign.apply] using hpos
  | negative => simpa [Sign.apply] using hpos.neg

end Round

section Normalize

variable (s : Sign) {m : Nat} {e : Int}

/-- Rounding a significand of any width at a unit no greater than one crosses no
integer. -/
theorem round_keepsInts_of_target (hm : 0 < m) (hb : target m e ≤ 0) :
    ∃ q, unpackedValue (round .binary64 s m e) = some q ∧
      KeepsInts ((s.apply m : ℚ) * 2 ^ e) q := by
  -- as in `round_error`: widen to the target exponent first, which keeps value and target
  set k := (e - target m e).toNat with hk
  have ht := target_eq m e
  have hlog : (m <<< k).log2 = m.log2 + k := log2_shiftLeft k hm
  have hc : 52 ≤ (m <<< k).log2 ∨ e - k ≤ -1074 := by omega
  have htarget : target (m <<< k) (e - k) = target m e := by
    simp only [target, totalExponent, hlog]
    congr 1
    push_cast
    ring
  obtain ⟨q, hq, hkeep⟩ :=
    roundWithAccuracy_keepsInts s (m := m <<< k) (e := e - k) hc (by rw [htarget]; omega)
  refine ⟨q, hq, ?_⟩
  have hval := signed_shiftLeft_value s m k e
  rwa [hval] at hkeep

/-- Rounding a significand of any width of magnitude at most `2^52` crosses no integer. -/
theorem round_keepsInts (hm : 0 < m) (hv : (m : ℚ) * 2 ^ e ≤ 2 ^ (52 : Int)) :
    ∃ q, unpackedValue (round .binary64 s m e) = some q ∧
      KeepsInts ((s.apply m : ℚ) * 2 ^ e) q := by
  have hb := target_le_of_le hm (by norm_num) hv
  exact round_keepsInts_of_target s hm (by omega)

/-- Normalising an integer significand: a zero for zero, else its magnitude rounded with
its sign. -/
theorem normalize_cases (n : Int) (zs : Sign) :
    (n = 0 ∧ UnpackedFloat.normalize .binary64 n e zs = .zero zs) ∨
      ∃ s m, 0 < m ∧ s.apply m = n ∧ UnpackedFloat.normalize .binary64 n e zs = round .binary64 s m e := by
  rcases lt_trichotomy n 0 with hn | rfl | hn
  · refine .inr ⟨.negative, (-n).toNat, by omega, by simp [Sign.apply]; omega, ?_⟩
    simp [UnpackedFloat.normalize, Int.compare_eq_lt.mpr hn]
  · exact .inl ⟨rfl, by simp [UnpackedFloat.normalize]⟩
  · refine .inr ⟨.positive, n.toNat, by omega, by simp [Sign.apply]; omega, ?_⟩
    simp [UnpackedFloat.normalize, Int.compare_eq_gt.mpr hn]

/-- Normalising an integer significand of magnitude at most `2^52` crosses no integer. -/
theorem normalize_keepsInts (n : Int) (zs : Sign) (hv : |(n : ℚ) * 2 ^ e| ≤ 2 ^ (52 : Int)) :
    ∃ q, unpackedValue (UnpackedFloat.normalize .binary64 n e zs) = some q ∧
      KeepsInts ((n : ℚ) * 2 ^ e) q := by
  rcases normalize_cases (e := e) n zs with ⟨rfl, hz⟩ | ⟨s, m, hm, rfl, hr⟩
  · exact ⟨0, by rw [hz]; rfl, by simpa using KeepsInts.refl 0⟩
  · have hmag : |((s.apply m : Int) : ℚ)| = m := by cases s <;> simp [Sign.apply]
    have hv' : (m : ℚ) * 2 ^ e ≤ 2 ^ (52 : Int) := by
      rwa [abs_mul, hmag, abs_of_pos (by positivity)] at hv
    rw [hr]
    exact round_keepsInts s hm hv'

end Normalize

section Unpacked

variable {u v : UnpackedFloat} {x y : ℚ}

/-- A sum of magnitude at most `2^52` crosses no integer. -/
theorem add_keepsInts (hx : unpackedValue u = some x) (hy : unpackedValue v = some y)
    (hb : |x + y| ≤ 2 ^ (52 : Int)) :
    ∃ q, unpackedValue (UnpackedFloat.add .binary64 u v) = some q ∧ KeepsInts (x + y) q := by
  rcases unpackedValue_cases hx with ⟨s, rfl, rfl⟩ | ⟨s, m, e, hm, rfl, rfl⟩ <;>
    rcases unpackedValue_cases hy with ⟨t, rfl, rfl⟩ | ⟨t, n, f, hn, rfl, rfl⟩
  · refine ⟨0, ?_, by simpa using KeepsInts.refl 0⟩
    cases s <;> cases t <;> rfl
  · exact ⟨_, rfl, by simpa using KeepsInts.refl _⟩
  · exact ⟨_, rfl, by simpa using KeepsInts.refl _⟩
  · have hsum : (((s.apply ((decreaseExponent m e (min e f)).1 : Int) +
        t.apply ((decreaseExponent n f (min e f)).1 : Int) : Int) : ℚ) * 2 ^ min e f) =
        (s.apply m : ℚ) * 2 ^ e + (t.apply n : ℚ) * 2 ^ f := by
      rw [Int.cast_add, add_mul, decreaseExponent_value s m (min_le_left e f),
        decreaseExponent_value t n (min_le_right e f)]
    obtain ⟨q, hq, hkeep⟩ := normalize_keepsInts _ .positive (by rw [hsum]; exact hb)
    rw [hsum] at hkeep
    exact ⟨q, hq, hkeep⟩

/-- A difference of magnitude at most `2^52` crosses no integer. -/
theorem sub_keepsInts (hx : unpackedValue u = some x) (hy : unpackedValue v = some y)
    (hb : |x - y| ≤ 2 ^ (52 : Int)) :
    ∃ q, unpackedValue (UnpackedFloat.sub .binary64 u v) = some q ∧ KeepsInts (x - y) q := by
  rcases unpackedValue_cases hx with ⟨s, rfl, rfl⟩ | ⟨s, m, e, hm, rfl, rfl⟩ <;>
    rcases unpackedValue_cases hy with ⟨t, rfl, rfl⟩ | ⟨t, n, f, hn, rfl, rfl⟩
  · refine ⟨0, ?_, by simpa using KeepsInts.refl 0⟩
    cases s <;> cases t <;> rfl
  · refine ⟨_, rfl, ?_⟩
    simpa [sign_apply_neg] using KeepsInts.refl (-((t.apply n : ℚ) * 2 ^ f))
  · exact ⟨_, rfl, by simpa using KeepsInts.refl _⟩
  · have hdiff : (((s.apply ((decreaseExponent m e (min e f)).1 : Int) -
        t.apply ((decreaseExponent n f (min e f)).1 : Int) : Int) : ℚ) * 2 ^ min e f) =
        (s.apply m : ℚ) * 2 ^ e - (t.apply n : ℚ) * 2 ^ f := by
      rw [Int.cast_sub, sub_mul, decreaseExponent_value s m (min_le_left e f),
        decreaseExponent_value t n (min_le_right e f)]
    obtain ⟨q, hq, hkeep⟩ := normalize_keepsInts _ .positive (by rw [hdiff]; exact hb)
    rw [hdiff] at hkeep
    exact ⟨q, hq, hkeep⟩

/-- A product of magnitude at most `2^52` crosses no integer. -/
theorem mul_keepsInts (hu : Canonical u) (hv : Canonical v) (hx : unpackedValue u = some x)
    (hy : unpackedValue v = some y) (hb : |x * y| ≤ 2 ^ (52 : Int)) :
    ∃ q, unpackedValue (UnpackedFloat.mul .binary64 u v) = some q ∧ KeepsInts (x * y) q := by
  rcases unpackedValue_cases hx with ⟨s, rfl, rfl⟩ | ⟨s, m, e, hm, rfl, rfl⟩ <;>
    rcases unpackedValue_cases hy with ⟨t, rfl, rfl⟩ | ⟨t, n, f, hn, rfl, rfl⟩
  · exact ⟨0, rfl, by simpa using KeepsInts.refl 0⟩
  · exact ⟨0, rfl, by simpa using KeepsInts.refl 0⟩
  · exact ⟨0, rfl, by simpa using KeepsInts.refl 0⟩
  · obtain ⟨-, -, -, hfm⟩ := hu
    obtain ⟨-, -, -, hfn⟩ := hv
    have hc : 52 ≤ (m * n).log2 ∨ e + f ≤ -1074 := by
      rcases hfm with hfm | hfm
      · exact .inl ((Nat.le_log2 (by positivity)).mpr (le_trans hfm (Nat.le_mul_of_pos_right m hn)))
      · rcases hfn with hfn | hfn
        · exact .inl ((Nat.le_log2 (by positivity)).mpr (le_trans hfn (Nat.le_mul_of_pos_left n hm)))
        · exact .inr (by omega)
    have hprod : ((s * t).apply ((m * n : Nat) : Int) : ℚ) * 2 ^ (e + f) =
        (s.apply m : ℚ) * 2 ^ e * ((t.apply n : ℚ) * 2 ^ f) := by
      rw [sign_apply_mul, zpow_add₀ (by norm_num)]
      ring
    have habs : ((m * n : Nat) : ℚ) * 2 ^ (e + f) ≤ 2 ^ (52 : Int) := by
      have h := hb
      rw [← hprod, abs_mul, abs_of_pos (show (0 : ℚ) < 2 ^ (e + f) by positivity)] at h
      have hmag : |((s * t).apply ((m * n : Nat) : Int) : ℚ)| = ((m * n : Nat) : ℚ) := by
        cases s <;> cases t <;> simp [Sign.apply]
      rwa [hmag] at h
    have ht := target_le_of_le (by positivity) (by norm_num) habs
    obtain ⟨q, hq, hkeep⟩ := roundWithAccuracy_keepsInts (s * t) hc (by omega)
    rw [hprod] at hkeep
    exact ⟨q, hq, hkeep⟩

end Unpacked

section Float

variable {a b : Float} {x y : ℚ}

/-- A sum of two numbers, of magnitude at most `2^52`, crosses no integer. -/
theorem exactValue_add_keepsInts (ha : exactValue a = some x) (hb : exactValue b = some y)
    (hv : |x + y| ≤ 2 ^ (52 : Int)) : ∃ q, exactValue (a + b) = some q ∧ KeepsInts (x + y) q := by
  obtain ⟨hcan, -⟩ :=
    add_error (canonical_of_exactValue ha) (canonical_of_exactValue hb) ha hb (by norm_num) (by norm_num) hv
  obtain ⟨q, hq, hkeep⟩ := add_keepsInts ha hb hv
  refine ⟨q, ?_, hkeep⟩
  exact (exactValue_ofModel_pack hcan).trans hq

/-- A difference of two numbers, of magnitude at most `2^52`, crosses no integer. -/
theorem exactValue_sub_keepsInts (ha : exactValue a = some x) (hb : exactValue b = some y)
    (hv : |x - y| ≤ 2 ^ (52 : Int)) : ∃ q, exactValue (a - b) = some q ∧ KeepsInts (x - y) q := by
  obtain ⟨hcan, -⟩ :=
    sub_error (canonical_of_exactValue ha) (canonical_of_exactValue hb) ha hb (by norm_num) (by norm_num) hv
  obtain ⟨q, hq, hkeep⟩ := sub_keepsInts ha hb hv
  refine ⟨q, ?_, hkeep⟩
  exact (exactValue_ofModel_pack hcan).trans hq

/-- A product of two numbers, of magnitude at most `2^52`, crosses no integer. -/
theorem exactValue_mul_keepsInts (ha : exactValue a = some x) (hb : exactValue b = some y)
    (hv : |x * y| ≤ 2 ^ (52 : Int)) : ∃ q, exactValue (a * b) = some q ∧ KeepsInts (x * y) q := by
  have hu := canonical_of_exactValue ha
  have hw := canonical_of_exactValue hb
  obtain ⟨hcan, -⟩ := mul_error hu hw ha hb (by norm_num) (by norm_num) hv
  obtain ⟨q, hq, hkeep⟩ := mul_keepsInts hu hw ha hb hv
  refine ⟨q, ?_, hkeep⟩
  exact (exactValue_ofModel_pack hcan).trans hq

/-- Two numbers of one value differ by zero. -/
theorem exactValue_sub_eq_zero (ha : exactValue a = some x) (hb : exactValue b = some x) :
    exactValue (a - b) = some 0 := by
  obtain ⟨q, hq, hkeep⟩ := exactValue_sub_keepsInts ha hb (by simp)
  rw [sub_self, show (0 : ℚ) = ((0 : Int) : ℚ) by norm_num] at hkeep
  rw [hq, hkeep.eq_of_int]
  norm_num

end Float

section Whole

/-- A 64-bit whole number up to `2^52` converts exactly. -/
theorem exactValue_toFloat_eq (n : UInt64) (hn : n.toNat ≤ 2 ^ 52) :
    exactValue n.toFloat = some (n.toNat : ℚ) := by
  have hv : |((n.toNat : Int) : ℚ) * 2 ^ (0 : Int)| ≤ 2 ^ (52 : Int) := by
    rw [zpow_zero, mul_one, abs_of_nonneg (by positivity)]
    exact_mod_cast hn
  obtain ⟨hcan, -⟩ := normalize_error (n.toNat : Int) .positive (by norm_num) (by norm_num) hv
  obtain ⟨q, hq, hkeep⟩ := normalize_keepsInts (n.toNat : Int) .positive hv
  rw [zpow_zero, mul_one] at hkeep
  refine (exactValue_ofModel_pack hcan).trans ?_
  rw [hq, hkeep.eq_of_int]
  rfl

/-- A 64-bit whole number up to `2^53` converts exactly: below `2^53` it is rounded at a
unit of one, and `2^53` is a power of two. -/
theorem exactValue_toFloat_eq_of_le (n : UInt64) (hn : n.toNat ≤ 2 ^ 53) :
    exactValue n.toFloat = some (n.toNat : ℚ) := by
  rcases Nat.lt_or_eq_of_le hn with hlt | heq
  · have hv : |((n.toNat : Int) : ℚ) * 2 ^ (0 : Int)| ≤ 2 ^ (53 : Int) := by
      rw [zpow_zero, mul_one, abs_of_nonneg (by positivity)]
      exact_mod_cast hn
    obtain ⟨hcan, -⟩ := normalize_error (n.toNat : Int) .positive (by norm_num) (by norm_num) hv
    change unpackedValue (unpack .binary64 (UnpackedFloat.pack .binary64
      (UnpackedFloat.normalize .binary64 n.toNat 0 .positive))) = _
    rw [unpack_pack hcan]
    rcases normalize_cases (e := 0) (n.toNat : Int) .positive with ⟨h0, hz⟩ | ⟨s, m, hm, hs, hr⟩
    · have h0' : n.toNat = 0 := by exact_mod_cast h0
      rw [hz, unpackedValue_zero, h0', Nat.cast_zero]
    · have hmn : s = .positive ∧ m = n.toNat := by
        cases s with
        | negative => simp only [Sign.apply] at hs; omega
        | positive => exact ⟨rfl, by simp only [Sign.apply] at hs; omega⟩
      obtain ⟨rfl, rfl⟩ := hmn
      have hb : target n.toNat 0 ≤ 0 := by
        have := (Nat.log2_lt hm.ne').mpr hlt
        rw [target_eq]
        omega
      obtain ⟨q, hq, hkeep⟩ := round_keepsInts_of_target .positive hm hb
      rw [hr, hq]
      rw [show ((Sign.positive.apply n.toNat : Int) : ℚ) * 2 ^ (0 : Int) = ((n.toNat : Int) : ℚ) by
        simp [Sign.apply]] at hkeep
      rw [hkeep.eq_of_int]
      norm_cast
  · have hn' : n = 9007199254740992 := UInt64.toNat_inj.mp (by rw [heq]; rfl)
    subst hn'
    unfold exactValue
    rw [show (9007199254740992 : UInt64).toFloat.toModel.unpack =
      .finite .positive (2 ^ 52) 1 (by decide) by rfl]
    simp [Sign.apply]
    norm_num

/-- A whole number up to `2^31` converts exactly. -/
theorem exactValue_ofNat_eq (k : Nat) (hk : k ≤ 2 ^ 31) :
    exactValue (Float.ofNat k) = some (k : ℚ) := by
  rw [ofNat_eq_toFloat_mul k hk]
  have htoNat : k.toUInt64.toNat = k := by
    rw [Nat.toUInt64_eq, UInt64.toNat_ofNat']
    exact Nat.mod_eq_of_lt (by omega)
  have hq := exactValue_toFloat_eq k.toUInt64 (by omega)
  rw [htoNat] at hq
  obtain ⟨q, hq', hkeep⟩ := exactValue_mul_keepsInts hq exactValue_powerOfTen_zero
    (by rw [mul_one, abs_of_nonneg (by positivity)]; exact_mod_cast (show k ≤ 2 ^ 52 by omega))
  rw [mul_one, show (k : ℚ) = ((k : Int) : ℚ) by norm_cast] at hkeep
  rw [hq', hkeep.eq_of_int]
  norm_cast

/-- A 32-bit integer converts exactly. -/
theorem exactValue_ofInt_eq (n : Int) (hn : |n| ≤ 2 ^ 31) :
    exactValue (Float.ofInt n) = some (n : ℚ) := by
  cases n with
  | ofNat k =>
    have hk : k ≤ 2 ^ 31 := by
      have : ((k : Int) : Int) ≤ 2 ^ 31 := le_trans (le_abs_self _) hn
      omega
    rw [Int.ofNat_eq_natCast, Int.cast_natCast]
    exact exactValue_ofNat_eq k hk
  | negSucc k =>
    have hk : k + 1 ≤ 2 ^ 31 := by
      have := neg_abs_le (Int.negSucc k)
      rw [Int.negSucc_eq] at this hn
      rw [abs_le] at hn
      omega
    rw [show Float.ofInt (Int.negSucc k) = -Float.ofNat (k + 1) from rfl,
      exactValue_neg (exactValue_ofNat_eq (k + 1) hk), Int.negSucc_eq]
    push_cast
    ring_nf

end Whole

section One

/-- Rounding the product of a canonical significand and the significand of one shifts only
zero bits out, at the significand's own exponent. -/
theorem roundWithAccuracy_mul_one {s : Sign} {m : Nat} {e : Int} {hm : 0 < m}
    (h : Canonical (.finite s m e hm)) :
    roundWithAccuracy .binary64 (s * .positive) (m * 2 ^ 52) (e + -52) .exact = .finite s m e hm := by
  obtain ⟨hhi, he, -, hfull⟩ := h
  have hlog : (m * 2 ^ 52).log2 = m.log2 + 52 := by
    rw [← Nat.shiftLeft_eq]
    exact log2_shiftLeft 52 hm
  have hlm : m.log2 < 53 := (Nat.log2_lt hm.ne').mpr hhi
  have hfullLog : 2 ^ 52 ≤ m → 52 ≤ m.log2 := (Nat.le_log2 hm.ne').mpr
  have htarget : target (m * 2 ^ 52) (e + -52) = e := by
    rw [target_eq, hlog]
    omega
  have hfirst : shiftToTargetExponent .binary64 (m * 2 ^ 52) (e + -52) .exact =
      (⟨m, false, false⟩, e) := by
    simp only [shiftToTargetExponent, shiftToExponent]
    rw [show Format.binary64.targetExponent (totalExponent (m * 2 ^ 52) (e + -52)) = e from htarget,
      show (e - (e + -52)).toNat = 52 by omega,
      show ExtendedMantissa.ofMantissaAndAccuracy (m * 2 ^ 52) .exact = ⟨m * 2 ^ 52, false, false⟩
        from rfl,
      shiftRight_exact 52 _ (Dvd.intro_left _ rfl), Nat.mul_div_cancel _ (by positivity)]
    congr 1
    omega
  rw [roundWithAccuracy_eq]
  dsimp only
  rw [hfirst, show ExtendedMantissa.roundedMantissa ⟨m, false, false⟩ = m from rfl,
    dif_neg hm.ne', if_pos hhi]
  cases s <;> rfl

/-- Multiplying by one changes nothing: a number comes back from exact rounding, and a
zero, an infinity or a NaN keeps its kind and sign. -/
theorem Float.mul_one_eq (a : Float) : a * 1.0 = a := by
  have hone : (1.0 : Float).toModel.unpack = .finite .positive (2 ^ 52) (-52) (by decide) := rfl
  have h : (a * 1.0).toModel.unpack = a.toModel.unpack := by
    change unpack .binary64 (UnpackedFloat.pack .binary64
      (UnpackedFloat.mul .binary64 a.toModel.unpack (1.0 : Float).toModel.unpack)) = _
    rw [hone]
    cases hu : a.toModel.unpack with
    | notANumber => rfl
    | infinity s => cases s <;> rfl
    | zero s => cases s <;> rfl
    | finite s m e hm =>
      have hcan := unpack_canonical hu
      simp only [UnpackedFloat.mul]
      rw [roundWithAccuracy_mul_one hcan]
      exact unpack_pack hcan
  calc a * 1.0 = .ofModel (Float.Model.pack (a * 1.0).toModel.unpack) := (Float.ofBits_toBits _).symm
    _ = .ofModel (Float.Model.pack a.toModel.unpack) := by rw [h]
    _ = a := Float.ofBits_toBits a

end One

end DogCourier
