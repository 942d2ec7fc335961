import DogCourier.Proofs.Float.Convert

/-! # Arithmetic on bit patterns, read as doubles

    `Binary64` runs each operation on `Float` and then fixes the NaN that comes out, so
    that the sign of a NaN survives. Read back as a `Float`, the fix is invisible: `Float`
    has a single NaN, every NaN pattern reads as it, and every operation gives a NaN
    when an operand is one. So an expression over `Binary64` reads as the same expression
    over `Float` (`Binary64.toFloat_add`, `toFloat_sub`, `toFloat_mul`, `toFloat_div`),
    and whatever a program decides by comparing such values, it decides as IEEE
    arithmetic does; only the total order, which reads the bits, tells the NaNs apart. -/

namespace DogCourier

open Float.Model Float.Model.UnpackedFloat

section OneNaN

/-- A double is the packing of its own unpacked form. -/
theorem Float.eq_ofModel_pack (a : Float) : a = .ofModel (Float.Model.pack a.toModel.unpack) :=
  (Float.ofBits_toBits a).symm

/-- `Float` has one NaN. -/
theorem Float.eq_of_unpack_nan {a b : Float} (ha : a.toModel.unpack = .notANumber)
    (hb : b.toModel.unpack = .notANumber) : a = b := by
  rw [Float.eq_ofModel_pack a, Float.eq_ofModel_pack b, ha, hb]

theorem Float.unpack_of_isNaN {a : Float} (h : a.isNaN = true) : a.toModel.unpack = .notANumber := by
  change a.toModel.unpack.isNaN = true at h
  cases hu : a.toModel.unpack <;> simp_all [UnpackedFloat.isNaN]

theorem unpack_pack_nan : unpack .binary64 (UnpackedFloat.pack .binary64 .notANumber) = .notANumber :=
  rfl

/-- An operation on doubles that gives a NaN whenever an operand is one. -/
structure PropagatesNaN (op : Float → Float → Float) : Prop where
  left : ∀ a b : Float, a.toModel.unpack = .notANumber → (op a b).toModel.unpack = .notANumber
  right : ∀ a b : Float, b.toModel.unpack = .notANumber → (op a b).toModel.unpack = .notANumber

/-- An operation computed on unpacked forms propagates NaN when the unpacked operation
does. -/
theorem PropagatesNaN.of_unpacked {op : Float → Float → Float}
    (f : UnpackedFloat → UnpackedFloat → UnpackedFloat)
    (hop : ∀ a b : Float, op a b = .ofModel (Float.Model.pack (f a.toModel.unpack b.toModel.unpack)))
    (hl : ∀ u, f .notANumber u = .notANumber) (hr : ∀ u, f u .notANumber = .notANumber) :
    PropagatesNaN op where
  left a b h := by
    rw [hop, h, hl]
    exact unpack_pack_nan
  right a b h := by
    rw [hop, h, hr]
    exact unpack_pack_nan

theorem propagatesNaN_add : PropagatesNaN (· + ·) :=
  .of_unpacked (UnpackedFloat.add .binary64) (fun _ _ => rfl) (fun _ => by rw [UnpackedFloat.add])
    fun u => by cases u <;> simp only [UnpackedFloat.add]

theorem propagatesNaN_sub : PropagatesNaN (· - ·) :=
  .of_unpacked (UnpackedFloat.sub .binary64) (fun _ _ => rfl) (fun _ => by rw [UnpackedFloat.sub])
    fun u => by cases u <;> simp only [UnpackedFloat.sub]

theorem propagatesNaN_mul : PropagatesNaN (· * ·) :=
  .of_unpacked (UnpackedFloat.mul .binary64) (fun _ _ => rfl) (fun _ => by rw [UnpackedFloat.mul])
    fun u => by cases u <;> simp only [UnpackedFloat.mul]

theorem propagatesNaN_div : PropagatesNaN (· / ·) :=
  .of_unpacked (UnpackedFloat.div .binary64) (fun _ _ => rfl) (fun _ => by rw [UnpackedFloat.div])
    fun u => by cases u <;> simp only [UnpackedFloat.div]

theorem PropagatesNaN.swap {op : Float → Float → Float} (h : PropagatesNaN op) :
    PropagatesNaN fun x y => op y x :=
  ⟨fun a b ha => h.right b a ha, fun a b hb => h.left b a hb⟩

end OneNaN

namespace Binary64

/-- A NaN pattern is one whose unpacked form is a NaN. -/
theorem isNaN_iff (x : Binary64) :
    x.isNaN = true ↔ unpack .binary64 x.bits.toBitVec = .notANumber := by
  obtain ⟨b⟩ := x
  unfold Binary64.isNaN
  rw [expField_mk, fracField_mk]
  unfold UnpackedFloat.unpack
  simp only [Bool.and_eq_true, beq_iff_eq, bne_iff_ne, ne_eq]
  split
  · rename_i htop
    have h1 : (@unpackExponent .binary64 b.toBitVec).toNat = 2047 := by
      rw [htop]
      rfl
    split
    · rename_i hz
      simp [h1, hz]
    · rename_i hz
      simp only [h1, true_and, iff_true]
      intro h0
      exact hz (BitVec.eq_of_toNat_eq h0)
  · rename_i htop
    have h1 : (@unpackExponent .binary64 b.toBitVec).toNat ≠ 2047 := by
      intro h
      apply htop
      apply BitVec.eq_of_toNat_eq
      rw [h]
      rfl
    split
    · split <;> simp [h1]
    · simp [h1]

/-- Every NaN pattern reads as the NaN of `Float`. -/
theorem toFloat_unpack_of_isNaN {x : Binary64} (h : x.isNaN = true) :
    x.toFloat.toModel.unpack = .notANumber := by
  show unpack .binary64 (UnpackedFloat.pack .binary64 (unpack .binary64 x.bits.toBitVec)) = _
  rw [(isNaN_iff x).mp h]
  exact unpack_pack_nan

/-- Setting the quiet bit keeps a NaN a NaN: the bit lies in the significand field, below
the exponent. -/
theorem isNaN_quiet {x : Binary64} (h : x.isNaN = true) : x.quiet.isNaN = true := by
  simp only [isNaN, expField, fracField, quiet, Bool.and_eq_true, beq_iff_eq, bne_iff_ne, ne_eq,
    UInt64.toNat_shiftRight, UInt64.toNat_or] at h ⊢
  have hq : (0x0008000000000000 : UInt64).toNat = 2 ^ 51 := rfl
  have h52 : UInt64.toNat 52 % 64 = 52 := rfl
  rw [hq, h52, Nat.pow_eq] at ⊢
  rw [h52, Nat.pow_eq] at h
  generalize x.bits.toNat = n at h ⊢
  have hexp : (n ||| 2 ^ 51) >>> 52 = n >>> 52 := by
    rw [Nat.shiftRight_or_distrib, Nat.shiftRight_eq_div_pow (2 ^ 51)]
    simp
  have hbit : ((n ||| 2 ^ 51) % 2 ^ 52).testBit 51 = true := by
    rw [Nat.testBit_mod_two_pow, Nat.testBit_or, Nat.testBit_two_pow_self]
    simp
  refine ⟨hexp ▸ h.1, fun h0 => ?_⟩
  rw [h0, Nat.zero_testBit] at hbit
  cases hbit

theorem isNaN_defaultNaN : defaultNaN.isNaN = true := by
  decide

/-- An operation under the NaN rule reads as the operation on doubles. -/
theorem toFloat_lift {op : Float → Float → Float} (hop : PropagatesNaN op) (a b : Binary64) :
    (lift op a b).toFloat = op a.toFloat b.toFloat := by
  unfold lift
  split
  · rename_i ha
    exact Float.eq_of_unpack_nan (toFloat_unpack_of_isNaN (isNaN_quiet ha))
      (hop.left _ _ (toFloat_unpack_of_isNaN ha))
  · split
    · rename_i hb
      exact Float.eq_of_unpack_nan (toFloat_unpack_of_isNaN (isNaN_quiet hb))
        (hop.right _ _ (toFloat_unpack_of_isNaN hb))
    · -- a NaN made from two numbers reads as the NaN that `Float` made
      dsimp only
      split
      · rename_i hr
        exact Float.eq_of_unpack_nan (toFloat_unpack_of_isNaN isNaN_defaultNaN) (Float.unpack_of_isNaN hr)
      · exact toFloat_ofFloat _

@[simp] theorem toFloat_add (a b : Binary64) : (a + b).toFloat = a.toFloat + b.toFloat :=
  toFloat_lift propagatesNaN_add.swap b a

@[simp] theorem toFloat_sub (a b : Binary64) : (a - b).toFloat = a.toFloat - b.toFloat :=
  toFloat_lift propagatesNaN_sub a b

@[simp] theorem toFloat_mul (a b : Binary64) : (a * b).toFloat = a.toFloat * b.toFloat :=
  toFloat_lift propagatesNaN_mul.swap b a

@[simp] theorem toFloat_div (a b : Binary64) : (a / b).toFloat = a.toFloat / b.toFloat :=
  toFloat_lift propagatesNaN_div a b

end Binary64

end DogCourier
