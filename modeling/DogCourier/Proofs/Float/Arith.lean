import DogCourier.Proofs.Float.Rounding

/-! # Arithmetic on doubles as exact arithmetic

    The exact value of a `Float` is that of its unpacked form. A sum, difference or
    product of two numbers is a number within one unit of the exact result, `2^(N - 52)`
    when the exact result is at most `2^N` in magnitude; a quotient of two numbers is never
    a NaN. These are the facts every geometric bound of the library is built from.

    * `exactValue_add`, `exactValue_sub`, `exactValue_mul`: the error bounds;
    * `exactValue_div_ne_none`: a quotient of a number by a non-zero number is no NaN. -/

namespace DogCourier

open Float.Model Float.Model.UnpackedFloat

/-- The exact value of a double: nothing for a NaN or an infinity. -/
def exactValue (x : Float) : Option ℚ := unpackedValue x.toModel.unpack

theorem canonical_of_exactValue {x : Float} {v : ℚ} (h : exactValue x = some v) :
    Canonical x.toModel.unpack := by
  unfold exactValue at h
  cases hu : x.toModel.unpack with
  | finite s m e hm => exact unpack_canonical hu
  | zero s => trivial
  | infinity s => simp [hu, unpackedValue] at h
  | notANumber => simp [hu, unpackedValue] at h

/-- A double packed from a canonical unpacked form has that form's value: each operation
rounds, packs, and is read back through this. -/
theorem exactValue_ofModel_pack {u : UnpackedFloat} (h : Canonical u) :
    exactValue (.ofModel (Float.Model.pack u)) = unpackedValue u := by
  unfold exactValue
  exact congrArg unpackedValue (unpack_pack h)

/-- The value of an unpacked double read back from its value: a zero or a finite one. -/
theorem unpackedValue_cases {u : UnpackedFloat} {x : ℚ} (h : unpackedValue u = some x) :
    (∃ s, u = .zero s ∧ x = 0) ∨
      ∃ s m e, ∃ hm : 0 < m, u = .finite s m e hm ∧ x = (s.apply m : ℚ) * 2 ^ e := by
  cases u with
  | finite s m e hm => exact .inr ⟨s, m, e, hm, rfl, by simpa using h.symm⟩
  | zero s => exact .inl ⟨s, rfl, by simpa using h.symm⟩
  | infinity s => simp [unpackedValue] at h
  | notANumber => simp [unpackedValue] at h

theorem sign_apply_neg (s : Sign) (n : Int) : (-s).apply n = -(s.apply n) := by
  cases s
  · exact (Int.neg_neg n).symm
  · rfl

theorem sign_apply_mul (s t : Sign) (m n : Nat) :
    ((s * t).apply ((m * n : Nat) : Int) : ℚ) = (s.apply m : ℚ) * (t.apply n : ℚ) := by
  cases s <;> cases t <;> simp [Sign.apply]

/-- Aligning a significand to a lower exponent keeps its value. -/
theorem decreaseExponent_value (s : Sign) (m : Nat) {e t : Int} (ht : t ≤ e) :
    (s.apply ((decreaseExponent m e t).1 : Int) : ℚ) * 2 ^ t = (s.apply m : ℚ) * 2 ^ e := by
  have h := signed_shiftLeft_value s m (e - t).toNat e
  rw [show e - ((e - t).toNat : Int) = t by omega] at h
  exact h

section Unpacked

variable {u v : UnpackedFloat} {x y : ℚ} {N : Int}

/-- A sum of two canonical numbers: an operand when the other is zero, else the aligned
significands added and normalised. -/
theorem add_error (hu : Canonical u) (hv : Canonical v) (hx : unpackedValue u = some x)
    (hy : unpackedValue v = some y) (hN : -1022 ≤ N) (hN' : N ≤ 1022) (hb : |x + y| ≤ 2 ^ N) :
    Canonical (UnpackedFloat.add .binary64 u v) ∧
      ∃ q, unpackedValue (UnpackedFloat.add .binary64 u v) = some q ∧
        |q - (x + y)| ≤ 2 ^ (N - 52) := by
  have hpos : (0 : ℚ) ≤ 2 ^ (N - 52) := by positivity
  rcases unpackedValue_cases hx with ⟨s, rfl, rfl⟩ | ⟨s, m, e, hm, rfl, rfl⟩ <;>
    rcases unpackedValue_cases hy with ⟨t, rfl, rfl⟩ | ⟨t, n, f, hn, rfl, rfl⟩
  · refine ⟨?_, 0, ?_, by simpa using hpos⟩ <;> cases s <;> cases t <;> trivial
  · exact ⟨hv, _, rfl, by simpa using hpos⟩
  · exact ⟨hu, _, rfl, by simpa using hpos⟩
  · have hal := decreaseExponent_value s m (min_le_left e f)
    have hbl := decreaseExponent_value t n (min_le_right e f)
    have hsum : (((s.apply ((decreaseExponent m e (min e f)).1 : Int) +
        t.apply ((decreaseExponent n f (min e f)).1 : Int) : Int) : ℚ) * 2 ^ min e f) =
        (s.apply m : ℚ) * 2 ^ e + (t.apply n : ℚ) * 2 ^ f := by
      rw [Int.cast_add, add_mul, hal, hbl]
    obtain ⟨hcan, q, hq, herr⟩ := normalize_error _ .positive hN hN' (by rw [hsum]; exact hb)
    rw [hsum] at herr
    exact ⟨hcan, q, hq, herr⟩

/-- A difference of two canonical numbers, as for the sum with the second sign turned. -/
theorem sub_error (hu : Canonical u) (hv : Canonical v) (hx : unpackedValue u = some x)
    (hy : unpackedValue v = some y) (hN : -1022 ≤ N) (hN' : N ≤ 1022) (hb : |x - y| ≤ 2 ^ N) :
    Canonical (UnpackedFloat.sub .binary64 u v) ∧
      ∃ q, unpackedValue (UnpackedFloat.sub .binary64 u v) = some q ∧
        |q - (x - y)| ≤ 2 ^ (N - 52) := by
  have hpos : (0 : ℚ) ≤ 2 ^ (N - 52) := by positivity
  rcases unpackedValue_cases hx with ⟨s, rfl, rfl⟩ | ⟨s, m, e, hm, rfl, rfl⟩ <;>
    rcases unpackedValue_cases hy with ⟨t, rfl, rfl⟩ | ⟨t, n, f, hn, rfl, rfl⟩
  · refine ⟨?_, 0, ?_, by simpa using hpos⟩ <;> cases s <;> cases t <;> trivial
  · refine ⟨hv, _, rfl, ?_⟩
    simp only [sign_apply_neg, Int.cast_neg, neg_mul, zero_sub, sub_self, abs_zero]
    exact hpos
  · exact ⟨hu, _, rfl, by simpa using hpos⟩
  · have hal := decreaseExponent_value s m (min_le_left e f)
    have hbl := decreaseExponent_value t n (min_le_right e f)
    have hdiff : (((s.apply ((decreaseExponent m e (min e f)).1 : Int) -
        t.apply ((decreaseExponent n f (min e f)).1 : Int) : Int) : ℚ) * 2 ^ min e f) =
        (s.apply m : ℚ) * 2 ^ e - (t.apply n : ℚ) * 2 ^ f := by
      rw [Int.cast_sub, sub_mul, hal, hbl]
    obtain ⟨hcan, q, hq, herr⟩ := normalize_error _ .positive hN hN' (by rw [hdiff]; exact hb)
    rw [hdiff] at herr
    exact ⟨hcan, q, hq, herr⟩

/-- A product of two canonical numbers: a zero when either is zero, else the product of
the significands rounded at the sum of the exponents. -/
theorem mul_error (hu : Canonical u) (hv : Canonical v) (hx : unpackedValue u = some x)
    (hy : unpackedValue v = some y) (hN : -1022 ≤ N) (hN' : N ≤ 1022) (hb : |x * y| ≤ 2 ^ N) :
    Canonical (UnpackedFloat.mul .binary64 u v) ∧
      ∃ q, unpackedValue (UnpackedFloat.mul .binary64 u v) = some q ∧
        |q - x * y| ≤ 2 ^ (N - 52) := by
  have hpos : (0 : ℚ) ≤ 2 ^ (N - 52) := by positivity
  rcases unpackedValue_cases hx with ⟨s, rfl, rfl⟩ | ⟨s, m, e, hm, rfl, rfl⟩ <;>
    rcases unpackedValue_cases hy with ⟨t, rfl, rfl⟩ | ⟨t, n, f, hn, rfl, rfl⟩
  · exact ⟨trivial, 0, rfl, by simpa using hpos⟩
  · exact ⟨trivial, 0, rfl, by simpa using hpos⟩
  · exact ⟨trivial, 0, rfl, by simpa using hpos⟩
  · obtain ⟨-, -, -, hfm⟩ := hu
    obtain ⟨-, -, -, hfn⟩ := hv
    -- a full significand on either side makes the product wide enough
    have hc : 52 ≤ (m * n).log2 ∨ e + f ≤ -1074 := by
      rcases hfm with hfm | hfm
      · exact .inl ((Nat.le_log2 (by positivity)).mpr (le_trans hfm (Nat.le_mul_of_pos_right m hn)))
      · rcases hfn with hfn | hfn
        · exact .inl ((Nat.le_log2 (by positivity)).mpr (le_trans hfn (Nat.le_mul_of_pos_left n hm)))
        · exact .inr (by omega)
    have hprod : ((s * t).apply ((m * n : Nat) : Int) : ℚ) * 2 ^ (e + f) =
        (s.apply m : ℚ) * 2 ^ e * ((t.apply n : ℚ) * 2 ^ f) := by
      rw [sign_apply_mul, zpow_add₀ (by norm_num)]
      ring
    have habs : ((m * n : Nat) : ℚ) * 2 ^ (e + f) ≤ 2 ^ N := by
      have h := hb
      rw [← hprod, abs_mul, abs_of_pos (show (0 : ℚ) < 2 ^ (e + f) by positivity)] at h
      have hmag : |((s * t).apply ((m * n : Nat) : Int) : ℚ)| = ((m * n : Nat) : ℚ) := by
        cases s <;> cases t <;> simp [Sign.apply]
      rwa [hmag] at h
    have ht := target_le_of_le (by positivity) hN habs
    obtain ⟨hcan, q, hq, herr⟩ :=
      roundWithAccuracy_error (s * t) (m * n) (e + f) .exact hc (by omega)
    refine ⟨hcan, q, hq, ?_⟩
    rw [hprod] at herr
    exact le_trans herr (zpow_le_zpow_right₀ (by norm_num) ht)

end Unpacked

section Float

variable {a b : Float} {x y : ℚ} {N : Int}

/-- A sum of two numbers is a number within `2^(N - 52)` of the exact sum. -/
theorem exactValue_add (ha : exactValue a = some x) (hb : exactValue b = some y)
    (hN : -1022 ≤ N) (hN' : N ≤ 1022) (hv : |x + y| ≤ 2 ^ N) :
    ∃ q, exactValue (a + b) = some q ∧ |q - (x + y)| ≤ 2 ^ (N - 52) := by
  obtain ⟨hcan, q, hq, herr⟩ :=
    add_error (canonical_of_exactValue ha) (canonical_of_exactValue hb) ha hb hN hN' hv
  refine ⟨q, ?_, herr⟩
  exact (exactValue_ofModel_pack hcan).trans hq

/-- A difference of two numbers is a number within `2^(N - 52)` of the exact one. -/
theorem exactValue_sub (ha : exactValue a = some x) (hb : exactValue b = some y)
    (hN : -1022 ≤ N) (hN' : N ≤ 1022) (hv : |x - y| ≤ 2 ^ N) :
    ∃ q, exactValue (a - b) = some q ∧ |q - (x - y)| ≤ 2 ^ (N - 52) := by
  obtain ⟨hcan, q, hq, herr⟩ :=
    sub_error (canonical_of_exactValue ha) (canonical_of_exactValue hb) ha hb hN hN' hv
  refine ⟨q, ?_, herr⟩
  exact (exactValue_ofModel_pack hcan).trans hq

/-- A product of two numbers is a number within `2^(N - 52)` of the exact one. -/
theorem exactValue_mul (ha : exactValue a = some x) (hb : exactValue b = some y)
    (hN : -1022 ≤ N) (hN' : N ≤ 1022) (hv : |x * y| ≤ 2 ^ N) :
    ∃ q, exactValue (a * b) = some q ∧ |q - x * y| ≤ 2 ^ (N - 52) := by
  obtain ⟨hcan, q, hq, herr⟩ :=
    mul_error (canonical_of_exactValue ha) (canonical_of_exactValue hb) ha hb hN hN' hv
  refine ⟨q, ?_, herr⟩
  exact (exactValue_ofModel_pack hcan).trans hq

/-- A quotient of a number by a non-zero number is no NaN. -/
theorem div_ne_nan (ha : exactValue a = some x) (hb : exactValue b = some y) (hy : y ≠ 0) :
    (a / b).toModel.unpack ≠ .notANumber := by
  change unpack .binary64 (UnpackedFloat.pack .binary64
    (UnpackedFloat.div .binary64 a.toModel.unpack b.toModel.unpack)) ≠ _
  apply unpack_pack_ne_nan
  rcases unpackedValue_cases ha with ⟨s, hs, rfl⟩ | ⟨s, m, e, hm, hs, rfl⟩ <;>
    rcases unpackedValue_cases hb with ⟨t, ht, rfl⟩ | ⟨t, n, f, hn, ht, rfl⟩
  · exact absurd rfl hy
  · rw [hs, ht]; simp [UnpackedFloat.div]
  · exact absurd rfl hy
  · rw [hs, ht]
    simp only [UnpackedFloat.div]
    exact roundWithAccuracy_ne_nan _ _ _ _

end Float

end DogCourier
