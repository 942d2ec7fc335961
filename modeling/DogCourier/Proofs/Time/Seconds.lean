import DogCourier.Proofs.Float.Quotient
import DogCourier.Proofs.Float.Floor
import DogCourier.Time.Duration

/-! # Durations as seconds

    A sum of durations is the sum of their nanoseconds, or a halt at the bound. A positive
    duration reads as a double of seconds between `2^-32` and `2^67`: its whole seconds
    convert within a factor of two, its nanoseconds exactly, their quotient by a billion
    within a factor of two, and the sum of the two again (`exactValue_toSeconds`). So the
    quotient of two positive durations is far from the subnormal range, and it is a
    positive double (`toSeconds_div_pos`). -/

namespace DogCourier

open Float.Model Float.Model.UnpackedFloat

namespace Duration

theorem add_eq_ok {a b : Duration} (h : a.nanos + b.nanos < bound) :
    a.add b = .ok ⟨a.nanos + b.nanos, h⟩ := by
  simp [add, ofNanos?, h]

theorem add_eq_error_of_le {a b : Duration} (h : bound ≤ a.nanos + b.nanos) :
    a.add b = .error .durationOverflow := by
  rw [add, ofNanos?, dif_neg (by omega)]

/-- A sum of durations is the sum of their nanoseconds. -/
theorem nanos_of_add_eq_ok {a b d : Duration} (h : a.add b = .ok d) :
    d.nanos = a.nanos + b.nanos := by
  by_cases hlt : a.nanos + b.nanos < bound
  · rw [add_eq_ok hlt] at h
    cases h
    rfl
  · rw [add_eq_error_of_le (by omega)] at h
    cases h

theorem secs_mul_add_subsec (d : Duration) : d.secs * 1000000000 + d.subsec = d.nanos := by
  unfold secs subsec nanosPerSec
  omega

theorem secs_lt_pow (d : Duration) : d.secs < 2 ^ 64 := by
  have h := d.lt_bound
  unfold bound nanosPerSec at h
  unfold secs nanosPerSec
  rw [Nat.pow_eq] at h
  omega

end Duration

/-- The double `1e9` is a billion. -/
theorem exactValue_billion : exactValue 1000000000.0 = some 1000000000 := by
  unfold exactValue
  rw [show (1000000000.0 : Float).toModel.unpack =
    .finite .positive 8388608000000000 (-23) (by decide) by rfl]
  simp [Sign.apply]
  norm_num

/-- The whole seconds of a duration convert to within a factor of two. -/
theorem exactValue_secs (d : Duration) :
    ∃ a, exactValue d.secs.toUInt64.toFloat = some a ∧ (d.secs : ℚ) / 2 ≤ a ∧ a ≤ 2 * d.secs := by
  have hsecs := toNat_toUInt64 d.secs_lt_pow
  rcases Nat.eq_zero_or_pos d.secs with h0 | h0
  · have h := exactValue_toFloat_eq d.secs.toUInt64 (by omega)
    exact ⟨0, by rw [h, hsecs, h0, Nat.cast_zero], by simp [h0], by simp [h0]⟩
  · obtain ⟨a, ha, herr⟩ := exactValue_toFloat_near d.secs.toUInt64 (by omega)
    rw [hsecs] at herr
    exact ⟨a, ha, bounds_of_near (by norm_num) (by positivity) herr⟩

/-- The part of a second converts to within a factor of two: the nanoseconds exactly, and
their quotient by a billion within a `2^-50` part. -/
theorem exactValue_subsec (d : Duration) :
    ∃ g, exactValue (d.subsec.toUInt64.toFloat / 1000000000.0) = some g ∧
      (d.subsec : ℚ) / 2000000000 ≤ g ∧ g ≤ 2 * d.subsec := by
  have hlt : d.subsec < 1000000000 := Nat.mod_lt _ (by decide)
  have hsub := toNat_toUInt64 (show d.subsec < 2 ^ 64 by omega)
  have hF := exactValue_toFloat_eq d.subsec.toUInt64 (by omega)
  rw [hsub] at hF
  rcases Nat.eq_zero_or_pos d.subsec with h0 | h0
  · have hF0 : exactValue d.subsec.toUInt64.toFloat = some 0 := by rw [hF, h0, Nat.cast_zero]
    exact ⟨0, exactValue_zero_div hF0 exactValue_billion (by norm_num), by simp [h0], by simp [h0]⟩
  · have hpos : (0 : ℚ) < d.subsec / 1000000000 := by positivity
    have hle : (d.subsec : ℚ) ≤ 1000000000 := by exact_mod_cast hlt.le
    have hone : (1 : ℚ) ≤ d.subsec := by exact_mod_cast h0
    have h30 : (2 : ℚ) ^ (-30 : Int) ≤ d.subsec / 1000000000 := by
      have h1 : (1 : ℚ) / 1000000000 ≤ d.subsec / 1000000000 := by gcongr
      rw [show (2 : ℚ) ^ (-30 : Int) = 1 / 1073741824 by norm_num]
      linarith
    have hlo : (2 : ℚ) ^ (-1021 : Int) ≤ d.subsec / 1000000000 :=
      (zpow_le_zpow_right₀ (by norm_num) (by norm_num)).trans h30
    have hhi : (d.subsec : ℚ) / 1000000000 ≤ 2 ^ (1021 : Int) :=
      ((div_le_one (by norm_num)).mpr hle).trans (one_le_zpow₀ (by norm_num) (by norm_num))
    obtain ⟨g, hg, herr⟩ := exactValue_div_near hF exactValue_billion
      (hlo.trans_eq (abs_of_pos hpos).symm) ((abs_of_pos hpos).trans_le hhi)
    rw [abs_of_pos hpos] at herr
    obtain ⟨h1, h2⟩ := bounds_of_near (by norm_num) hpos.le herr
    exact ⟨g, hg, by linarith, by linarith⟩

/-- A positive duration reads as a double of seconds between `2^-32` and `2^67`. -/
theorem exactValue_toSeconds {d : Duration} (h : 0 < d.nanos) :
    ∃ v, exactValue d.toSeconds = some v ∧ 2 ^ (-32 : Int) ≤ v ∧ v ≤ 2 ^ (67 : Int) := by
  obtain ⟨a, ha, ha1, ha2⟩ := exactValue_secs d
  obtain ⟨g, hg, hg1, hg2⟩ := exactValue_subsec d
  have hsplit : (d.secs : ℚ) * 1000000000 + d.subsec = d.nanos := by
    exact_mod_cast d.secs_mul_add_subsec
  have hone : (1 : ℚ) ≤ d.nanos := by exact_mod_cast h
  have hsecs : (d.secs : ℚ) < 2 ^ 64 := by exact_mod_cast d.secs_lt_pow
  have hsub : (d.subsec : ℚ) < 1000000000 := by exact_mod_cast Nat.mod_lt d.nanos (by decide)
  have h31 : (2 : ℚ) ^ (-31 : Int) = 1 / 2147483648 := by norm_num
  have h32 : (2 : ℚ) ^ (-32 : Int) = 1 / 4294967296 := by norm_num
  have h66 : (2 : ℚ) ^ (66 : Int) = 73786976294838206464 := by norm_num
  have h67 : (2 : ℚ) ^ (67 : Int) = 147573952589676412928 := by norm_num
  -- the exact sum is at least half a nanosecond's worth and at most `2^66`
  have hlo : (2 : ℚ) ^ (-31 : Int) ≤ a + g := by
    rw [h31]
    nlinarith
  have hhi : a + g ≤ 2 ^ (66 : Int) := by
    rw [h66]
    nlinarith
  have hpos : 0 < a + g := lt_of_lt_of_le (by positivity) hlo
  obtain ⟨v, hv, herr⟩ := exactValue_add_near ha hg
    (by rw [abs_of_pos hpos]; exact (zpow_le_zpow_right₀ (by norm_num) (by norm_num)).trans hlo)
    (by rw [abs_of_pos hpos]; exact hhi.trans (zpow_le_zpow_right₀ (by norm_num) (by norm_num)))
  rw [abs_of_pos hpos] at herr
  obtain ⟨hv1, hv2⟩ := bounds_of_near (by norm_num) hpos.le herr
  rw [h31] at hlo
  rw [h66] at hhi
  refine ⟨v, hv, ?_, ?_⟩
  · rw [h32]
    linarith
  · rw [h67]
    linarith

/-- The ratio of two positive durations is a positive double: no underflow reaches it. -/
theorem toSeconds_div_pos {a b : Duration} (ha : 0 < a.nanos) (hb : 0 < b.nanos) :
    0.0 < a.toSeconds / b.toSeconds := by
  obtain ⟨x, hx, hx1, hx2⟩ := exactValue_toSeconds ha
  obtain ⟨y, hy, hy1, hy2⟩ := exactValue_toSeconds hb
  have hypos : 0 < y := lt_of_lt_of_le (by positivity) hy1
  have hq : 0 < x / y := div_pos (lt_of_lt_of_le (by positivity) hx1) hypos
  -- the quotient lies between `2^-99` and `2^99`
  have hlo : (2 : ℚ) ^ (-99 : Int) ≤ x / y := by
    rw [le_div_iff₀ hypos]
    calc (2 : ℚ) ^ (-99 : Int) * y ≤ 2 ^ (-99 : Int) * 2 ^ (67 : Int) := by gcongr
      _ = 2 ^ (-32 : Int) := by rw [← zpow_add₀ two_ne_zero]; norm_num
      _ ≤ x := hx1
  have hhi : x / y ≤ 2 ^ (99 : Int) := by
    rw [div_le_iff₀ hypos]
    calc x ≤ 2 ^ (67 : Int) := hx2
      _ = 2 ^ (99 : Int) * 2 ^ (-32 : Int) := by rw [← zpow_add₀ two_ne_zero]; norm_num
      _ ≤ 2 ^ (99 : Int) * y := by gcongr
  obtain ⟨q, hq', herr⟩ := exactValue_div_near hx hy
    (by rw [abs_of_pos hq]; exact (zpow_le_zpow_right₀ (by norm_num) (by norm_num)).trans hlo)
    (by rw [abs_of_pos hq]; exact hhi.trans (zpow_le_zpow_right₀ (by norm_num) (by norm_num)))
  rw [abs_of_pos hq] at herr
  rw [lt_iff exactValue_zero hq']
  obtain ⟨h1, -⟩ := bounds_of_near (by norm_num) hq.le herr
  linarith

end DogCourier
