import DogCourier.Proofs.Float.Floor

/-! # The total order on positive numbers

    `Binary64.totalLt` orders bit patterns by a key: a pattern with its sign bit clear
    keeps its bits and is moved above every pattern with the sign bit set. A positive
    number is laid out with its exponent field above its significand field, so on positive
    numbers the order of the keys is the order of the values (`totalLt_of_lt`). -/

namespace DogCourier

theorem xor_two_pow_of_lt {a n : Nat} (h : a < 2 ^ n) : a ^^^ 2 ^ n = a + 2 ^ n := by
  rw [← Nat.or_two_pow_eq_add_of_lt h]
  apply Nat.eq_of_testBit_eq
  intro i
  rw [Nat.testBit_xor, Nat.testBit_or, Nat.testBit_two_pow]
  by_cases hi : n = i
  · subst hi
    simp [Nat.testBit_lt_two_pow h]
  · simp [hi]

namespace Binary64

variable {x : Binary64}

/-- A pattern with its sign bit clear is below `2^63`, its exponent field over its
significand field. -/
theorem bits_of_sign_false (h : x.sign = false) :
    x.bits.toNat = x.expField * 2 ^ 52 + x.fracField ∧ x.bits.toNat < 2 ^ 63 := by
  have hlt := x.bits.toNat_lt
  have hsign : x.bits.toNat / 2 ^ 63 ≠ 1 := by
    simpa [sign, UInt64.toNat_shiftRight, Nat.shiftRight_eq_div_pow, ← UInt64.toNat_inj] using h
  have hexp : x.expField = x.bits.toNat / 2 ^ 52 % 2048 := by
    simp [expField, UInt64.toNat_shiftRight, Nat.shiftRight_eq_div_pow]
  have hfrac : x.fracField = x.bits.toNat % 2 ^ 52 := by
    simp [fracField, Nat.pow_eq]
  rw [hexp, hfrac]
  omega

/-- The key of a pattern with its sign bit clear is its bits moved up by `2^63`. -/
theorem totalKey_of_sign_false (h : x.sign = false) : x.totalKey.toNat = x.bits.toNat + 2 ^ 63 := by
  unfold totalKey
  rw [if_neg (by simp [h]), UInt64.toNat_xor]
  exact xor_two_pow_of_lt (bits_of_sign_false h).2

/-- The parts of a positive finite pattern: a subnormal significand at the least exponent,
or a full significand at its own exponent. -/
theorem parts_positive {m : Nat} {e : Int} (h : x.parts = .finite false m e) :
    x.sign = false ∧ x.fracField < 2 ^ 52 ∧
      ((x.expField = 0 ∧ m = x.fracField ∧ e = -1074) ∨
        (x.expField ≠ 0 ∧ m = 2 ^ 52 + x.fracField ∧ e = x.expField - 1075)) := by
  have hfrac : x.fracField < 2 ^ 52 := Nat.mod_lt _ (Nat.two_pow_pos 52)
  unfold parts at h
  rw [Nat.pow_eq] at h
  split at h
  · split at h <;> cases h
  · split at h
    · rename_i hz
      obtain ⟨hs, rfl, rfl⟩ := Parts.finite.inj h
      exact ⟨hs, hfrac, .inl ⟨by simpa using hz, rfl, rfl⟩⟩
    · rename_i hz
      obtain ⟨hs, rfl, rfl⟩ := Parts.finite.inj h
      exact ⟨hs, hfrac, .inr ⟨by simpa using hz, rfl, rfl⟩⟩

end Binary64

/-- On positive numbers the total order of doubles is the order of their values. -/
theorem totalLt_of_lt {a b : Float} {u v : ℚ} (ha : exactValue a = some u)
    (hb : exactValue b = some v) (hu : 0 < u) (huv : u < v) :
    Binary64.totalLt (Binary64.ofFloat a) (Binary64.ofFloat b) = true := by
  obtain ⟨na, ma, ea, hpa, rfl⟩ := parts_ofFloat ha
  obtain ⟨nb, mb, eb, hpb, rfl⟩ := parts_ofFloat hb
  -- both are positive, so both signs are clear
  have hpos : ∀ {n : Bool} {m : Nat} {e : Int}, 0 < (if n then -(m : ℚ) else m) * 2 ^ e → n = false := by
    intro n m e h
    cases n
    · rfl
    · simp only [if_true, neg_mul, Left.neg_pos_iff] at h
      exact absurd h (not_lt.mpr (by positivity))
  obtain rfl := hpos hu
  obtain rfl := hpos (lt_trans hu huv)
  simp only [Bool.false_eq_true, if_false] at huv
  obtain ⟨hsa, hfa, hca⟩ := Binary64.parts_positive hpa
  obtain ⟨hsb, hfb, hcb⟩ := Binary64.parts_positive hpb
  have hea := (Binary64.parts_bounds hpa).2
  have heb := (Binary64.parts_bounds hpb).2
  -- the values compare by exponent, then by significand
  have hmag := compare_magnitude ⟨(Binary64.parts_bounds hpa).1, hea, by omega⟩
    ⟨(Binary64.parts_bounds hpb).1, heb, by omega⟩
  rw [compare_lt_iff_lt.mpr huv, Ordering.then_eq_lt, compare_lt_iff_lt, compare_eq_iff_eq,
    compare_lt_iff_lt] at hmag
  have hka := Binary64.totalKey_of_sign_false hsa
  have hkb := Binary64.totalKey_of_sign_false hsb
  have hba := (Binary64.bits_of_sign_false hsa).1
  have hbb := (Binary64.bits_of_sign_false hsb).1
  simp only [Binary64.totalLt, decide_eq_true_eq, UInt64.lt_iff_toNat_lt, hka, hkb]
  omega

end DogCourier
