import Mathlib
import DogCourier.Binary64.Basic

/-! # The exact value of a double

    A finite double denotes the rational `± m · 2^e` and a zero denotes `0`; a NaN or an
    infinity denotes nothing. Every operation on doubles unpacks its operands, works on
    the unpacked form and packs the result, so a fact about an operation's value crosses
    a packing and an unpacking. This module says which unpacked doubles the 64-bit layout
    holds (`Canonical`) and that those are exactly what comes back:

    * `unpack_canonical`: a finite double read from bits is canonical;
    * `unpack_pack`: a canonical double comes back from its bits;
    * `unpack_pack_ne_nan`: packing never turns a number into a NaN;
    * `pack_unpack`: a valid bit pattern comes back from what it unpacks to, so a double
      read back from its bit pattern is the same double (`Float.ofBits_toBits`). -/

namespace DogCourier

open Float.Model Float.Model.UnpackedFloat

/-- The value of an unpacked double: `± m · 2^e` for a finite one, `0` for a zero, nothing
for a NaN or an infinity. -/
def unpackedValue : UnpackedFloat → Option ℚ
  | .finite s m e _ => some ((s.apply m : ℚ) * 2 ^ e)
  | .zero _ => some 0
  | .infinity _ => none
  | .notANumber => none

/-- The unpacked form the 64-bit layout stores: a zero, or a significand below `2^53`
with an exponent from `-1074` to `971`, the significand full (at least `2^52`) unless
the exponent is the least. -/
def Canonical : UnpackedFloat → Prop
  | .finite _ m e _ => m < 2 ^ 53 ∧ -1074 ≤ e ∧ e ≤ 971 ∧ (2 ^ 52 ≤ m ∨ e = -1074)
  | .zero _ => True
  | .infinity _ => False
  | .notANumber => False

@[simp] theorem unpackedValue_zero (s : Sign) : unpackedValue (.zero s) = some 0 := rfl

@[simp] theorem unpackedValue_finite (s : Sign) (m : Nat) (e : Int) (hm : 0 < m) :
    unpackedValue (.finite s m e hm) = some ((s.apply m : ℚ) * 2 ^ e) := rfl

@[simp] theorem sign_ofBitVec_toBitVec (s : Sign) : Sign.ofBitVec s.toBitVec = s := by
  cases s <;> rfl

theorem toNat_one_append (v : BitVec 52) : (1#1 ++ v).toNat = 2 ^ 52 + v.toNat := by
  rw [BitVec.toNat_append, ← Nat.shiftLeft_add_eq_or_of_lt v.isLt]
  simp [Nat.shiftLeft_eq]

section Unpack

variable {b : BitVec 64} {s : Sign} {m : Nat} {e : Int} {hm : 0 < m}

/-- A finite double read from bits is canonical: the exponent field `0` gives a
subnormal at `-1074`, any other field below the top one a full significand. -/
theorem unpack_canonical (h : unpack .binary64 b = .finite s m e hm) :
    Canonical (.finite s m e hm) := by
  have hmv := (@unpackMantissa Format.binary64 b).isLt
  have hev := (@unpackExponent Format.binary64 b).isLt
  change _ < 2 ^ 52 at hmv
  change _ < 2 ^ 11 at hev
  unfold UnpackedFloat.unpack at h
  dsimp only at h
  split at h
  · split at h <;> cases h
  · rename_i htop
    have htop' : (@unpackExponent Format.binary64 b).toNat ≠ 2047 := fun h' =>
      htop (BitVec.eq_of_toNat_eq (by simpa using h'))
    split at h
    · rename_i hzero
      split at h
      · cases h
      · cases h
        have hz : (@unpackExponent Format.binary64 b).toNat = 0 := by simp [hzero]
        simp only [Format.exponentBias, Format.binary64] at *
        refine ⟨by omega, by omega, by omega, Or.inr ?_⟩
        norm_num [hz]
    · rename_i hzero
      have hz : (@unpackExponent Format.binary64 b).toNat ≠ 0 := fun h' =>
        hzero (BitVec.eq_of_toNat_eq (by simpa using h'))
      cases h
      have hsig := toNat_one_append (@unpackMantissa Format.binary64 b)
      simp only [Canonical, Format.exponentBias, Format.binary64]
      refine ⟨by omega, by norm_num; omega, by norm_num; omega, Or.inl (by omega)⟩

end Unpack

section Pack

/-- The exponent field `0` is not the top field `2047`. -/
theorem zero_ne_allOnes : (0#11 : BitVec 11) ≠ -1#11 := by decide

/-- The sign bit comes back from the packed components. -/
@[simp] theorem sign_packComponents (s : Sign) (ev : BitVec 11) (mv : BitVec 52) :
    Sign.ofBitVec (unpackSign (packComponents .binary64 s ev mv)) = s := by
  simp only [unpackSign, packComponents, BitVec.extractLsb]
  rw [BitVec.extractLsb'_append_eq_of_le (by omega), BitVec.extractLsb'_append_eq_of_le (by omega)]
  cases s <;> rfl

theorem unpack_packedZero (s : Sign) :
    unpack .binary64 (packedZero .binary64 s) = .zero s := by
  cases s <;> rfl

theorem unpack_packedInfinity (s : Sign) :
    unpack .binary64 (packedInfinity .binary64 s) = .infinity s := by
  cases s <;> rfl

/-- A full significand packs with its biased exponent in the field. -/
theorem unpack_pack_normal (s : Sign) (m : Nat) (e : Int) (hm : 0 < m) (hlo : 2 ^ 52 ≤ m)
    (hhi : m < 2 ^ 53) (he : -1074 ≤ e) (he' : e ≤ 971) :
    unpack .binary64 (UnpackedFloat.pack .binary64 (.finite s m e hm)) = .finite s m e hm := by
  have hlog : m.log2 = 52 := (Nat.log2_eq_iff (by omega)).mpr ⟨hlo, hhi⟩
  have hfield : (BitVec.ofNat 11 (e + 1023 + 52).toNat).toNat = (e + 1023 + 52).toNat := by
    rw [BitVec.toNat_ofNat, Nat.mod_eq_of_lt (by omega)]
  have hmant : (1#1 ++ BitVec.ofNat 52 m).toNat = m := by
    rw [toNat_one_append, BitVec.toNat_ofNat]
    omega
  have hnz : BitVec.ofNat 11 (e + 1023 + 52).toNat ≠ 0#11 := by
    intro h'
    have := congrArg BitVec.toNat h'
    rw [hfield] at this
    simp at this
    omega
  have hntop : BitVec.ofNat 11 (e + 1023 + 52).toNat ≠ -1#11 := by
    intro h'
    have := congrArg BitVec.toNat h'
    rw [hfield] at this
    simp at this
    omega
  unfold UnpackedFloat.pack
  simp only [Format.exponentBias, Format.binary64, Format.mantissaBits, hlog]
  norm_num
  rw [if_neg (by omega)]
  unfold UnpackedFloat.unpack
  simp only [unpackMantissa_packComponents, unpackExponent_packComponents,
    sign_packComponents, if_neg hntop, if_neg hnz, hmant, hfield, Format.exponentBias]
  congr 1
  omega

/-- A subnormal significand packs with the exponent field `0`. -/
theorem unpack_pack_subnormal (s : Sign) (m : Nat) (hm : 0 < m) (hhi : m < 2 ^ 52) :
    unpack .binary64 (UnpackedFloat.pack .binary64 (.finite s m (-1074) hm)) =
      .finite s m (-1074) hm := by
  have hlog : m.log2 < 52 := (Nat.log2_lt (by omega)).mpr hhi
  have hmant : (BitVec.ofNat 52 m).toNat = m := by
    rw [BitVec.toNat_ofNat, Nat.mod_eq_of_lt hhi]
  have hnz : BitVec.ofNat 52 m ≠ 0#52 := by
    intro h'
    have := congrArg BitVec.toNat h'
    rw [hmant] at this
    simp at this
    omega
  unfold UnpackedFloat.pack
  simp only [Format.exponentBias, Format.binary64, Format.mantissaBits]
  norm_num
  rw [if_neg (by omega)]
  unfold UnpackedFloat.unpack
  simp only [unpackMantissa_packComponents, unpackExponent_packComponents,
    sign_packComponents, zero_ne_allOnes, ↓reduceIte, hnz, ↓reduceDIte, hmant]
  rfl

/-- A canonical double comes back from its bits. -/
theorem unpack_pack {u : UnpackedFloat} (h : Canonical u) :
    unpack .binary64 (UnpackedFloat.pack .binary64 u) = u := by
  cases u with
  | zero s => exact unpack_packedZero s
  | finite s m e hm =>
    obtain ⟨hhi, he, he', hfull | hsub⟩ := h
    · exact unpack_pack_normal s m e hm hfull hhi he he'
    · subst hsub
      by_cases hlo : 2 ^ 52 ≤ m
      · exact unpack_pack_normal s m (-1074) hm hlo hhi le_rfl (by omega)
      · exact unpack_pack_subnormal s m hm (by omega)
  | infinity s => exact h.elim
  | notANumber => exact h.elim

/-- Packing keeps a number a number: what comes back is a zero, a finite double or an
infinity, never a NaN. -/
theorem unpack_pack_ne_nan {u : UnpackedFloat} (h : u ≠ .notANumber) :
    unpack .binary64 (UnpackedFloat.pack .binary64 u) ≠ .notANumber := by
  cases u with
  | notANumber => exact absurd rfl h
  | infinity s =>
    change unpack .binary64 (packedInfinity .binary64 s) ≠ _
    rw [unpack_packedInfinity]; simp
  | zero s =>
    change unpack .binary64 (packedZero .binary64 s) ≠ _
    rw [unpack_packedZero]; simp
  | finite s m e hm =>
    unfold UnpackedFloat.pack
    dsimp only
    split
    · rw [unpack_packedInfinity]; simp
    · rename_i hfit
      split <;>
      · unfold UnpackedFloat.unpack
        simp only [unpackMantissa_packComponents, unpackExponent_packComponents]
        intro h'
        split at h'
        · rename_i htop
          have := congrArg BitVec.toNat htop
          simp [Format.exponentBias] at this hfit <;> omega
        · split at h' <;> [split at h'; skip] <;> cases h'

end Pack

section Bits

theorem toBitVec_sign_ofBitVec (v : BitVec 1) : (Sign.ofBitVec v).toBitVec = v := by
  have hv : v = 0#1 ∨ v = 1#1 := by
    rcases v with ⟨⟨n, hn⟩⟩
    have : n = 0 ∨ n = 1 := by omega
    rcases this with rfl | rfl <;> simp
  rcases hv with rfl | rfl <;> rfl

theorem toNat_append_eq_add {v w : Nat} (x : BitVec v) (y : BitVec w) :
    (x ++ y).toNat = x.toNat * 2 ^ w + y.toNat := by
  rw [BitVec.toNat_append, ← Nat.shiftLeft_add_eq_or_of_lt y.isLt, Nat.shiftLeft_eq]

/-- A bit pattern is its sign, exponent and significand fields side by side. -/
theorem packComponents_unpack (b : BitVec 64) :
    packComponents .binary64 (Sign.ofBitVec (@unpackSign .binary64 b)) (@unpackExponent .binary64 b)
      (@unpackMantissa .binary64 b) = b := by
  rw [packComponents, toBitVec_sign_ofBitVec]
  apply BitVec.eq_of_toNat_eq
  have hb := b.isLt
  simp only [toNat_append_eq_add, unpackSign, unpackExponent, unpackMantissa, BitVec.toNat_cast,
    BitVec.extractLsb, BitVec.extractLsb'_toNat, Nat.shiftRight_eq_div_pow]
  norm_num
  omega

/-- Packing what a valid bit pattern unpacks to gives the pattern back: every field comes
back, and the one NaN a valid pattern may hold is the NaN that packing writes. -/
theorem pack_unpack {b : BitVec 64} (hv : Format.binary64.Valid b) :
    UnpackedFloat.pack .binary64 (unpack .binary64 b) = b := by
  have hm : (@unpackMantissa .binary64 b).toNat < 2 ^ 52 := (@unpackMantissa .binary64 b).isLt
  have he : (@unpackExponent .binary64 b).toNat < 2 ^ 11 := (@unpackExponent .binary64 b).isLt
  unfold UnpackedFloat.unpack
  dsimp only
  split
  · rename_i htop
    split
    · -- an infinity: all-ones exponent, zero significand
      rename_i hzero
      conv_rhs => rw [← packComponents_unpack b, htop, hzero]
      rfl
    · -- a NaN, which validity makes the canonical one
      rename_i hnz
      exact (hv.eq_packedNaN htop hnz).symm
  · rename_i hntop
    split
    · rename_i hzero
      split
      · -- a zero
        rename_i hmz
        conv_rhs => rw [← packComponents_unpack b, hzero, hmz]
        rfl
      · -- a subnormal number: the significand too short for the normal branch
        rename_i hmz
        have hlog : (@unpackMantissa .binary64 b).toNat.log2 < 52 :=
          (Nat.log2_lt (fun h => hmz (BitVec.eq_of_toNat_eq h))).mpr hm
        conv_rhs => rw [← packComponents_unpack b, hzero]
        rw [hzero]
        unfold UnpackedFloat.pack
        simp only [Format.exponentBias, Format.binary64, Format.mantissaBits]
        norm_num
        intro h
        omega
    · -- a normal number: the implicit bit set, the biased exponent in its field
      rename_i hzero
      have hE : (@unpackExponent .binary64 b).toNat ≠ 2047 := fun h => hntop (BitVec.eq_of_toNat_eq h)
      have hE0 : (@unpackExponent .binary64 b).toNat ≠ 0 := fun h => hzero (BitVec.eq_of_toNat_eq h)
      have hlog : (1#1 ++ @unpackMantissa .binary64 b).toNat.log2 = 52 := by
        rw [toNat_one_append]
        exact (Nat.log2_eq_iff (by omega)).mpr ⟨by omega, by omega⟩
      have hmant : BitVec.ofNat 52 (1#1 ++ @unpackMantissa .binary64 b).toNat =
          @unpackMantissa .binary64 b := by
        apply BitVec.eq_of_toNat_eq
        rw [BitVec.toNat_ofNat, toNat_one_append]
        omega
      have hexp : BitVec.ofNat 11 ((@unpackExponent .binary64 b).toNat - 1075 + 1023 + 52 : Int).toNat =
          @unpackExponent .binary64 b := by
        apply BitVec.eq_of_toNat_eq
        rw [BitVec.toNat_ofNat]
        omega
      conv_rhs => rw [← packComponents_unpack b]
      unfold UnpackedFloat.pack
      simp only [Format.exponentBias, Format.binary64, Format.mantissaBits, hlog, hmant, if_true]
      norm_num only
      rw [if_neg (by omega), hexp]

/-- A double read back from its bit pattern is the same double. -/
theorem Float.ofBits_toBits (x : Float) : Float.ofBits x.toBits = x := by
  obtain ⟨⟨bits, hv⟩⟩ := x
  show Float.ofModel (Float.Model.pack (unpack .binary64 bits.toBitVec)) = ⟨⟨bits, hv⟩⟩
  congr 1
  rw [Float.Model.mk.injEq]
  show UInt64.ofBitVec (UnpackedFloat.pack .binary64 (unpack .binary64 bits.toBitVec)) = bits
  rw [pack_unpack hv]

@[simp] theorem Binary64.toFloat_ofFloat (x : Float) : (Binary64.ofFloat x).toFloat = x :=
  Float.ofBits_toBits x

end Bits

end DogCourier
