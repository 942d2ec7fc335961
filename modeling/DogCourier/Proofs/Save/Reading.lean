import Mathlib
import DogCourier.Save.Codec

/-! # Reading back what is written

    The save format's readers run over a byte string from a position. Two properties
    relate a reader `d` to a writer `w`:

    * `ReadsAll`: from the bytes `w` writes for a value that fits the format's widths,
      `d` reads that value back, whatever bytes follow, and stops right after them;
    * `ReadsOnly`: whatever `d` reads fits those widths, and `d` stops inside the input,
      as many bytes on as `w` writes for the value; where the format has one spelling,
      the bytes it passed are the ones `w` writes.

    Both are proved here for fixed-width integers, bit patterns, points, strings,
    directions and lists, and for durations. Durations are the field with two
    spellings: `duration` carries nanoseconds of a second or more into the seconds, so
    it passes bytes that `putDuration` never writes, while `exactDuration` refuses
    them. Readers built from these by `>>=` are handled with `ReadsAll.bind` and
    `ReadsOnly.bind`, one step per field. -/

namespace DogCourier

namespace Duration

/-- Whole seconds stay below `2^64`. -/
theorem secs_lt (d : Duration) : d.secs < 2 ^ 64 := by
  have h := d.lt_bound
  simp only [bound] at h
  exact Nat.div_lt_of_lt_mul h

theorem subsec_lt (d : Duration) : d.subsec < nanosPerSec :=
  Nat.mod_lt _ (by decide)

/-- A duration is rebuilt from its seconds and nanoseconds. -/
theorem ofParts?_secs_subsec (d : Duration) : ofParts? d.secs d.subsec = some d := by
  have h : d.secs * nanosPerSec + d.subsec = d.nanos := Nat.div_add_mod' d.nanos nanosPerSec
  simp only [ofParts?, ofNanos?, h, dif_pos d.lt_bound]

theorem nanos_of_ofParts? {s n : Nat} {d : Duration} (h : ofParts? s n = some d) :
    d.nanos = s * nanosPerSec + n := by
  simp only [ofParts?, ofNanos?] at h
  split at h
  · cases h; rfl
  · cases h

/-- Below a second, the nanoseconds a duration is built from are its own. -/
theorem parts_of_ofParts? {s n : Nat} {d : Duration} (h : ofParts? s n = some d)
    (hn : n < nanosPerSec) : d.secs = s ∧ d.subsec = n := by
  have hd := nanos_of_ofParts? h
  simp only [secs, subsec, hd]
  simp only [nanosPerSec] at hn ⊢
  omega

end Duration

namespace Codec

section Run

variable {α β : Type} {b : ByteArray} {p p' : Nat}

theorem run_bind_ok {d : Decoder α} {f : α → Decoder β} {a : α}
    (h : (d.run b).run p = .ok (a, p')) :
    ((d >>= f).run b).run p = ((f a).run b).run p' := by
  simp only [ReaderT.run_bind, StateT.run_bind, h]
  rfl

theorem run_bind_error {d : Decoder α} {f : α → Decoder β} {e : CodecError}
    (h : (d.run b).run p = .error e) :
    ((d >>= f).run b).run p = .error e := by
  simp only [ReaderT.run_bind, StateT.run_bind, h]
  rfl

/-- A sequenced read succeeds only through a success of its first part. -/
theorem run_bind_eq_ok {d : Decoder α} {f : α → Decoder β} {y : β}
    (h : ((d >>= f).run b).run p = .ok (y, p')) :
    ∃ a q, (d.run b).run p = .ok (a, q) ∧ ((f a).run b).run q = .ok (y, p') := by
  cases hd : (d.run b).run p with
  | error e => rw [run_bind_error hd] at h; cases h
  | ok r => rw [run_bind_ok hd] at h; exact ⟨r.1, r.2, rfl, h⟩

theorem run_read : ((read : Decoder ByteArray).run b).run p = .ok (b, p) := rfl

theorem run_get : ((get : Decoder Nat).run b).run p = .ok (p, p) := rfl

theorem run_set : ((set p' : Decoder PUnit).run b).run p = .ok (⟨⟩, p') := rfl

theorem run_throw (e : CodecError) : ((throw e : Decoder α).run b).run p = .error e := rfl

theorem run_pure (a : α) : ((pure a : Decoder α).run b).run p = .ok (a, p) := rfl

theorem run_pure_eq_ok {a x : α} (h : ((pure a : Decoder α).run b).run p = .ok (x, p')) :
    a = x ∧ p = p' := by
  rw [run_pure] at h
  cases h
  exact ⟨rfl, rfl⟩

theorem take_run (n : Nat) (e : CodecError) :
    ((take n e).run b).run p =
      if b.size < p + n then .error e else .ok (b.extract p (p + n), p + n) := by
  simp only [take]
  rw [run_bind_ok run_read, run_bind_ok run_get]
  split
  · rw [run_bind_error (run_throw e)]
  · rw [run_bind_ok run_set, run_pure]

theorem take_run_of_le {n : Nat} {e : CodecError} (h : p + n ≤ b.size) :
    ((take n e).run b).run p = .ok (b.extract p (p + n), p + n) := by
  rw [take_run, if_neg (Nat.not_lt.mpr h)]

theorem take_eq_ok {n : Nat} {e : CodecError} {bytes : ByteArray}
    (h : ((take n e).run b).run p = .ok (bytes, p')) :
    p + n ≤ b.size ∧ bytes = b.extract p (p + n) ∧ p' = p + n := by
  rw [take_run] at h
  split at h
  · cases h
  · cases h
    exact ⟨by omega, rfl, rfl⟩

end Run

section Bytes

theorem toList_loop (b : ByteArray) (i : Nat) (r : List UInt8) :
    ByteArray.toList.loop b i r = r.reverse ++ b.data.toList.drop i := by
  -- `toList` walks the array from the front, consing onto an accumulator it reverses
  fun_induction ByteArray.toList.loop b i r with
  | case1 i r hlt ih =>
    have hlen : i < b.data.toList.length := by simpa using hlt
    have hget : b.get! i = b.data.toList[i] := by
      simp [ByteArray.get!, getElem!_pos b.data i hlt]
    rw [ih, List.drop_eq_getElem_cons hlen, hget]
    simp
  | case2 i r hge =>
    have hnil : b.data.toList.drop i = [] := List.drop_eq_nil_of_le (by simpa using hge)
    simp [hnil]

/-- A byte string lists the bytes of its array. -/
theorem byteArray_toList (b : ByteArray) : b.toList = b.data.toList := by
  show ByteArray.toList.loop b 0 [] = _
  simp [toList_loop]

theorem extract_toList (b : ByteArray) (p n : Nat) :
    (b.extract p (p + n)).data.toList = (b.data.toList.drop p).take n := by
  rw [ByteArray.data_extract, Array.toList_extract, List.extract_eq_take_drop,
    Nat.add_sub_cancel_left]

theorem length_toList (b : ByteArray) : b.data.toList.length = b.size := by
  simp only [Array.length_toList, ByteArray.size_data]

/-- What follows a written part is what stands after it. -/
theorem drop_of_eq_append {l u rest : List UInt8} (h : l.drop p = u ++ rest) :
    l.drop (p + u.length) = rest := by
  rw [← List.drop_drop, h, List.drop_left]

/-- The number little-endian bytes spell. -/
def leValue (bytes : List UInt8) : Nat := bytes.foldr (fun x acc => acc * 256 + x.toNat) 0

@[simp] theorem le_length (w n : Nat) : (le w n).length = w := by
  simp [le]

@[simp] theorem putU32_length (n : Nat) : (putU32 n).length = 4 := le_length 4 n

@[simp] theorem putU64_length (n : Nat) : (putU64 n).length = 8 := le_length 8 n

@[simp] theorem putBits_length (x : Binary64) : (putBits x).length = 8 := le_length 8 _

@[simp] theorem putCoords_length (c : Coords) : (putCoords c).length = 16 := by
  simp [putCoords]

@[simp] theorem putDuration_length (d : Duration) : (putDuration d).length = 12 := by
  simp [putDuration]

theorem le_succ (w n : Nat) : le (w + 1) n = UInt8.ofNat (n % 256) :: le w (n / 256) := by
  simp only [le, Nat.pow_eq, List.range_succ_eq_map, List.map_cons, List.map_map, Nat.pow_zero,
    Nat.div_one]
  congr 2
  funext k
  simp [Function.comp, Nat.pow_succ', Nat.div_div_eq_div_mul]

/-- Reading `w` written bytes gives the number modulo what `w` bytes hold. -/
theorem leValue_le (w n : Nat) : leValue (le w n) = n % 256 ^ w := by
  induction w generalizing n with
  | zero => simp [le, leValue, Nat.mod_one]
  | succ w ih =>
    have ih' : leValue (le w (n / 256)) = n / 256 % 256 ^ w := ih (n / 256)
    simp only [leValue] at ih'
    rw [le_succ, leValue, List.foldr_cons, ih', Nat.pow_succ', Nat.mod_mul]
    simp only [UInt8.toNat_ofNat']
    omega

/-- Writing the number of some bytes, as wide as they are, gives them back. -/
theorem le_leValue (bytes : List UInt8) : le bytes.length (leValue bytes) = bytes := by
  induction bytes with
  | nil => rfl
  | cons x xs ih =>
    have hx := x.toNat_lt
    simp only [leValue] at ih
    rw [List.length_cons, le_succ, leValue, List.foldr_cons]
    have hmod : (xs.foldr (fun x acc => acc * 256 + x.toNat) 0 * 256 + x.toNat) % 256 =
        x.toNat := by omega
    have hdiv : (xs.foldr (fun x acc => acc * 256 + x.toNat) 0 * 256 + x.toNat) / 256 =
        xs.foldr (fun x acc => acc * 256 + x.toNat) 0 := by omega
    rw [hmod, hdiv, ih, UInt8.ofNat_toNat]

theorem leValue_lt (bytes : List UInt8) : leValue bytes < 256 ^ bytes.length := by
  induction bytes with
  | nil => simp [leValue]
  | cons x xs ih =>
    have hx := x.toNat_lt
    simp only [leValue] at ih ⊢
    rw [List.foldr_cons, List.length_cons, Nat.pow_succ]
    omega

end Bytes

section Spec

variable {α β : Type}

/-- From the bytes `w` writes for a value that fits, `d` reads the value back, whatever
follows, and stops right after them. -/
def ReadsAll (d : Decoder α) (w : α → List UInt8) (fits : α → Prop) : Prop :=
  ∀ b p x rest, fits x → b.data.toList.drop p = w x ++ rest →
    (d.run b).run p = .ok (x, p + (w x).length)

/-- Whatever `d` reads fits, and `d` stops inside the input, as many bytes on as `w`
writes for the value; when `exact` holds, the bytes it passed are the ones `w` writes. -/
def ReadsOnly (d : Decoder α) (w : α → List UInt8) (fits : α → Prop) (exact : Prop) : Prop :=
  ∀ b p x p', (d.run b).run p = .ok (x, p') →
    fits x ∧ p' = p + (w x).length ∧ p' ≤ b.size ∧
      (exact → b.data.toList.drop p = w x ++ b.data.toList.drop p')

variable {d : Decoder α} {w : α → List UInt8} {fits : α → Prop} {b : ByteArray} {p : Nat}

/-- A read that starts with `d` goes on right after the bytes `w` wrote. -/
theorem ReadsAll.bind (hd : ReadsAll d w fits) {x : α} {rest : List UInt8} (hx : fits x)
    (h : b.data.toList.drop p = w x ++ rest) {f : α → Decoder β}
    {r : Except CodecError (β × Nat)}
    (k : b.data.toList.drop (p + (w x).length) = rest →
      ((f x).run b).run (p + (w x).length) = r) :
    ((d >>= f).run b).run p = r := by
  rw [run_bind_ok (hd b p x rest hx h)]
  exact k (drop_of_eq_append h)

/-- A read that starts with `d` and succeeds went on right after a value `d` read. -/
theorem ReadsOnly.bind {E : Prop} (hd : ReadsOnly d w fits E) {f : α → Decoder β} {y : β}
    {p' : Nat} (h : ((d >>= f).run b).run p = .ok (y, p')) :
    ∃ x, fits x ∧ p + (w x).length ≤ b.size ∧
      (E → b.data.toList.drop p = w x ++ b.data.toList.drop (p + (w x).length)) ∧
      ((f x).run b).run (p + (w x).length) = .ok (y, p') := by
  obtain ⟨x, q, hx, hf⟩ := run_bind_eq_ok h
  obtain ⟨hfits, rfl, hle, he⟩ := hd b p x q hx
  exact ⟨x, hfits, hle, he, hf⟩

end Spec

section Primitives

variable {b : ByteArray} {p : Nat}

theorem fixed_run (n : Nat) : ((fixed n).run b).run p =
    if b.size < p + n then .error .endOfInput
    else .ok (leValue ((b.data.toList.drop p).take n), p + n) := by
  simp only [fixed]
  by_cases h : b.size < p + n
  · rw [run_bind_error (by rw [take_run, if_pos h]), if_pos h]
  · rw [run_bind_ok (take_run_of_le (by omega)), run_pure, if_neg h, byteArray_toList,
      extract_toList]
    rfl

/-- A number that fits `n` bytes reads back from its `n` little-endian bytes. -/
theorem fixed_readsAll (n : Nat) (hn : 0 < n) : ReadsAll (fixed n) (le n) (· < 256 ^ n) := by
  intro b p x rest hx h
  -- the bytes are there: none of them lies past the end
  have hlen : p + n ≤ b.size := by
    have := congrArg List.length h
    simp only [List.length_drop, length_toList, List.length_append, le_length] at this
    omega
  rw [fixed_run, if_neg (by omega), h, List.take_left' (le_length n x), leValue_le,
    Nat.mod_eq_of_lt hx, le_length]

theorem fixed_readsOnly (n : Nat) : ReadsOnly (fixed n) (le n) (· < 256 ^ n) True := by
  intro b p x p' h
  rw [fixed_run] at h
  split at h
  · cases h
  · cases h
    have hlen : ((b.data.toList.drop p).take n).length = n := by
      simp only [List.length_take, List.length_drop, length_toList]
      omega
    have hback := le_leValue ((b.data.toList.drop p).take n)
    rw [hlen] at hback
    have hlt : leValue ((b.data.toList.drop p).take n) < 256 ^ n := by
      simpa only [hlen] using leValue_lt ((b.data.toList.drop p).take n)
    refine ⟨hlt, by simp, by omega, fun _ => ?_⟩
    rw [hback, ← List.drop_drop, List.take_append_drop]

theorem u32_readsAll : ReadsAll u32 putU32 (· < 2 ^ 32) := fixed_readsAll 4 (by decide)

theorem u32_readsOnly : ReadsOnly u32 putU32 (· < 2 ^ 32) True := fixed_readsOnly 4

theorem u64_readsAll : ReadsAll u64 putU64 (· < 2 ^ 64) := fixed_readsAll 8 (by decide)

theorem u64_readsOnly : ReadsOnly u64 putU64 (· < 2 ^ 64) True := fixed_readsOnly 8

theorem bits_readsAll : ReadsAll bits putBits (fun _ => True) := by
  rintro b p ⟨x⟩ rest - h
  rw [bits]
  refine u64_readsAll.bind x.toNat_lt h fun _ => ?_
  rw [run_pure, UInt64.ofNat_toNat]
  rfl

theorem bits_readsOnly : ReadsOnly bits putBits (fun _ => True) True := by
  intro b p x p' h
  rw [bits] at h
  obtain ⟨n, hn, hle, e, h⟩ := u64_readsOnly.bind h
  obtain ⟨rfl, rfl⟩ := run_pure_eq_ok h
  have hbits : putBits ⟨UInt64.ofNat n⟩ = putU64 n := by
    show le 8 (UInt64.ofNat n).toNat = le 8 n
    rw [UInt64.toNat_ofNat', Nat.mod_eq_of_lt hn]
  exact ⟨trivial, by rw [hbits], hle, by rw [hbits]; exact e⟩

theorem coords_readsAll : ReadsAll coords putCoords (fun _ => True) := by
  rintro b p ⟨x, y⟩ rest - h
  simp only [putCoords, List.append_assoc] at h
  rw [coords]
  refine bits_readsAll.bind trivial h fun h => bits_readsAll.bind trivial h fun _ => ?_
  rw [run_pure]
  simp [putCoords, Nat.add_assoc]

theorem coords_readsOnly : ReadsOnly coords putCoords (fun _ => True) True := by
  intro b p c p' h
  rw [coords] at h
  obtain ⟨x, -, -, e₁, h⟩ := bits_readsOnly.bind h
  obtain ⟨y, -, hle, e₂, h⟩ := bits_readsOnly.bind h
  obtain ⟨rfl, rfl⟩ := run_pure_eq_ok h
  refine ⟨trivial, by simp [putCoords, Nat.add_assoc], hle, fun _ => ?_⟩
  rw [e₁ trivial, e₂ trivial]
  simp [putCoords]

theorem fromUTF8_toByteArray (s : String) : String.fromUTF8? s.toByteArray = some s := by
  simp [String.fromUTF8?, s.isValidUTF8, String.fromUTF8]

theorem toByteArray_of_fromUTF8 {bytes : ByteArray} {s : String}
    (h : String.fromUTF8? bytes = some s) : s.toByteArray = bytes := by
  simp only [String.fromUTF8?] at h
  split at h
  · cases h; rfl
  · cases h

theorem str_readsAll : ReadsAll str putStr (·.utf8ByteSize < 2 ^ 64) := by
  intro b p s rest hs h
  simp only [putStr, String.toUTF8_eq_toByteArray, List.append_assoc] at h
  have hbytes : s.toByteArray.toList.length = s.utf8ByteSize := by
    simp [byteArray_toList, String.size_toByteArray]
  -- the string's bytes are all there
  have hlen : p + 8 + s.utf8ByteSize ≤ b.size := by
    have := congrArg List.length h
    simp only [List.length_drop, length_toList, List.length_append, putU64_length, hbytes] at this
    omega
  rw [str]
  refine u64_readsAll.bind hs h fun hrest => ?_
  simp only [putU64_length] at hrest ⊢
  -- and they are the ones taken
  have htaken : b.extract (p + 8) (p + 8 + s.utf8ByteSize) = s.toByteArray := by
    apply ByteArray.ext
    apply Array.ext'
    rw [extract_toList, hrest, ← hbytes, List.take_left]
    simp [byteArray_toList]
  rw [run_bind_ok (take_run_of_le hlen), htaken, fromUTF8_toByteArray, run_pure]
  simp [putStr, hbytes, Nat.add_assoc]

theorem str_readsOnly : ReadsOnly str putStr (·.utf8ByteSize < 2 ^ 64) True := by
  intro b p s p' h
  rw [str] at h
  obtain ⟨n, hn, -, e₁, h⟩ := u64_readsOnly.bind h
  simp only [putU64_length] at e₁ h
  obtain ⟨bytes, q, ht, h⟩ := run_bind_eq_ok h
  obtain ⟨hle, rfl, rfl⟩ := take_eq_ok ht
  split at h
  · next s' hs' =>
    obtain ⟨rfl, rfl⟩ := run_pure_eq_ok h
    -- the string is the bytes taken, so it is as long as the length read
    have hbytes := toByteArray_of_fromUTF8 hs'
    have hsize : s'.utf8ByteSize = n := by
      rw [← String.size_toByteArray, hbytes, ByteArray.size_extract]
      omega
    have hlist : s'.toByteArray.toList = (b.data.toList.drop (p + 8)).take n := by
      rw [hbytes, byteArray_toList, extract_toList]
    have hlen : s'.toByteArray.toList.length = n := by
      rw [hlist, List.length_take, List.length_drop, length_toList]
      omega
    refine ⟨show s'.utf8ByteSize < 2 ^ 64 by omega, by simp [putStr, hsize, hlen]; omega, hle,
      fun _ => ?_⟩
    rw [e₁ trivial, putStr, String.toUTF8_eq_toByteArray, hsize, hlist, List.append_assoc,
      ← List.drop_drop (i := n) (j := p + 8), List.take_append_drop]
  · rw [run_throw] at h
    cases h

theorem direction_readsAll :
    ReadsAll direction (fun d => putU32 (Direction.index d)) (fun _ => True) := by
  rintro b p d rest - h
  have hlt : Direction.index d < 2 ^ 32 := by cases d <;> decide
  rw [direction]
  refine u32_readsAll.bind hlt h fun _ => ?_
  cases d <;> rfl

theorem direction_readsOnly :
    ReadsOnly direction (fun d => putU32 (Direction.index d)) (fun _ => True) True := by
  intro b p d p' h
  rw [direction] at h
  obtain ⟨i, -, hle, e, h⟩ := u32_readsOnly.bind h
  -- the number read names the direction; one above 3 is refused
  have hd : Direction.index d = i ∧ p + (putU32 i).length = p' := by
    rcases i with _ | _ | _ | _ | i
    iterate 4 (obtain ⟨rfl, rfl⟩ := run_pure_eq_ok h; exact ⟨rfl, rfl⟩)
    cases h
  obtain ⟨rfl, rfl⟩ := hd
  exact ⟨trivial, rfl, hle, e⟩

end Primitives

section Lists

variable {α : Type} {item : Decoder α} {w : α → List UInt8} {fits : α → Prop} {b : ByteArray}

/-- A list fits when its length fits 8 bytes and every item fits. -/
def ListFits (fits : α → Prop) (xs : List α) : Prop := xs.length < 2 ^ 64 ∧ ∀ x ∈ xs, fits x

instance (fits : α → Prop) [DecidablePred fits] (xs : List α) : Decidable (ListFits fits xs) :=
  inferInstanceAs (Decidable (_ ∧ ∀ x ∈ xs, fits x))

/-- Items that each write a byte write at least as many bytes as there are items. -/
theorem length_le_flatten (hw : ∀ x, w x ≠ []) (xs : List α) :
    xs.length ≤ (xs.map w).flatten.length := by
  induction xs with
  | nil => simp
  | cons x xs ih =>
    have := List.length_pos_iff.mpr (hw x)
    simp only [List.length_cons, List.map_cons, List.flatten_cons, List.length_append]
    omega

theorem items_readsAll (h : ReadsAll item w fits) (xs : List α) (hxs : ∀ x ∈ xs, fits x) :
    ∀ p rest, b.data.toList.drop p = (xs.map w).flatten ++ rest →
      ((items item xs.length).run b).run p = .ok (xs, p + (xs.map w).flatten.length) := by
  induction xs with
  | nil => intro p rest _; rfl
  | cons x xs ih =>
    intro p rest hd
    simp only [List.map_cons, List.flatten_cons, List.append_assoc] at hd
    rw [List.length_cons, items]
    refine h.bind (hxs x List.mem_cons_self) hd fun hd => ?_
    rw [run_bind_ok (ih (fun y hy => hxs y (List.mem_cons_of_mem x hy)) _ rest hd), run_pure]
    simp [Nat.add_assoc]

theorem list_readsAll (h : ReadsAll item w fits) (hw : ∀ x, w x ≠ []) :
    ReadsAll (list item) (putList w) (ListFits fits) := by
  rintro b p xs rest ⟨hlen, hxs⟩ hd
  simp only [putList, List.append_assoc] at hd
  -- every item takes a byte, so there are no more items than the input holds bytes
  have hsize : xs.length ≤ b.size := by
    have := congrArg List.length hd
    simp only [List.length_drop, length_toList, List.length_append, putU64_length] at this
    have := length_le_flatten hw xs
    omega
  rw [list]
  refine u64_readsAll.bind hlen hd fun hd => ?_
  rw [run_bind_ok run_read]
  simp only [Nat.min_eq_left (Nat.le_succ_of_le hsize)]
  rw [items_readsAll h xs hxs _ rest hd]
  simp [putList, Nat.add_assoc]

theorem items_readsOnly {E : Prop} (h : ReadsOnly item w fits E) :
    ∀ (k p : Nat) (xs : List α) (p' : Nat), ((items item k).run b).run p = .ok (xs, p') →
      xs.length = k ∧ (∀ x ∈ xs, fits x) ∧ p' = p + (xs.map w).flatten.length ∧
      (p ≤ b.size → p' ≤ b.size) ∧
      (E → b.data.toList.drop p = (xs.map w).flatten ++ b.data.toList.drop p') := by
  intro k
  induction k with
  | zero =>
    intro p xs p' hr
    obtain ⟨rfl, rfl⟩ := run_pure_eq_ok hr
    simp
  | succ k ih =>
    intro p xs p' hr
    rw [items] at hr
    obtain ⟨x, hx, hle, e₁, hr⟩ := h.bind hr
    obtain ⟨ys, q, hys, hr⟩ := run_bind_eq_ok hr
    obtain ⟨rfl, rfl⟩ := run_pure_eq_ok hr
    obtain ⟨hlen, hf, rfl, hq, e₂⟩ := ih _ ys _ hys
    refine ⟨by simp [hlen], ?_, by simp [Nat.add_assoc], fun _ => hq hle, fun e => ?_⟩
    · simp only [List.mem_cons, forall_eq_or_imp]
      exact ⟨hx, hf⟩
    · rw [e₁ e, e₂ e]
      simp

theorem list_readsOnly {E : Prop} (h : ReadsOnly item w fits E) (hw : ∀ x, w x ≠ []) :
    ReadsOnly (list item) (putList w) (ListFits fits) E := by
  intro b p xs p' hr
  rw [list] at hr
  obtain ⟨n, hn, hle, e₁, hr⟩ := u64_readsOnly.bind hr
  rw [run_bind_ok run_read] at hr
  obtain ⟨hlen, hxs, rfl, hq, e₂⟩ := items_readsOnly h _ _ xs p' hr
  -- the items end inside the input and each took a byte, so all `n` of them were read
  have hend := hq hle
  have hk : xs.length = n := by
    have := length_le_flatten hw xs
    simp only [putU64_length] at hend
    omega
  refine ⟨⟨hk ▸ hn, hxs⟩, by simp [putList, hk, Nat.add_assoc], hend, fun e => ?_⟩
  rw [e₁ trivial, e₂ e]
  simp [putList, hk]

end Lists

section Durations

variable {b : ByteArray} {p : Nat}

/-- A duration as it is written: nanoseconds below a second. Bytes that spell a duration
with a second or more of nanoseconds are refused. -/
def exactDuration : Decoder Duration := do
  let secs ← u64
  let nanos ← u32
  if nanosPerSec ≤ nanos then throw .durationOverflow
  match Duration.ofParts? secs nanos with
  | some d => return d
  | none => throw .durationOverflow

theorem subsec_lt_u32 (d : Duration) : d.subsec < 2 ^ 32 :=
  Nat.lt_trans d.subsec_lt (by decide)

theorem duration_readsAll : ReadsAll duration putDuration (fun _ => True) := by
  rintro b p d rest - h
  simp only [putDuration, List.append_assoc] at h
  rw [duration, Nat.pow_eq]
  refine u64_readsAll.bind d.secs_lt h fun h =>
    u32_readsAll.bind (subsec_lt_u32 d) h fun _ => ?_
  -- the nanoseconds carry nothing into the seconds
  have hcarry : ¬ d.secs + d.subsec / nanosPerSec ≥ 2 ^ 64 := by
    rw [Nat.div_eq_of_lt d.subsec_lt]
    exact Nat.not_le.mpr (by simpa using d.secs_lt)
  rw [if_neg hcarry, Duration.ofParts?_secs_subsec]
  show Except.ok _ = _
  simp [putDuration, Nat.add_assoc]

theorem duration_readsOnly : ReadsOnly duration putDuration (fun _ => True) False := by
  intro b p d p' h
  rw [duration] at h
  obtain ⟨secs, -, -, -, h⟩ := u64_readsOnly.bind h
  obtain ⟨nanos, -, hle, -, h⟩ := u32_readsOnly.bind h
  -- the rest of the read moves no further: it fails, or gives the duration where it is
  have hend : p + (putU64 secs).length + (putU32 nanos).length = p' := by
    split at h
    · split at h
      · cases h
      · exact (run_pure_eq_ok h).2
    · split at h <;> cases h
  simp only [putU64_length, putU32_length] at hend hle
  exact ⟨trivial, by simp; omega, by omega, False.elim⟩

theorem exactDuration_readsAll : ReadsAll exactDuration putDuration (fun _ => True) := by
  rintro b p d rest - h
  simp only [putDuration, List.append_assoc] at h
  rw [exactDuration]
  refine u64_readsAll.bind d.secs_lt h fun h =>
    u32_readsAll.bind (subsec_lt_u32 d) h fun _ => ?_
  rw [if_neg (Nat.not_le.mpr d.subsec_lt), Duration.ofParts?_secs_subsec]
  show Except.ok _ = _
  simp [putDuration, Nat.add_assoc]

theorem exactDuration_readsOnly : ReadsOnly exactDuration putDuration (fun _ => True) True := by
  intro b p d p' h
  rw [exactDuration] at h
  obtain ⟨secs, -, -, e₁, h⟩ := u64_readsOnly.bind h
  obtain ⟨nanos, -, hle, e₂, h⟩ := u32_readsOnly.bind h
  split at h
  · next d' hd =>
    split at h
    · cases h
    · next hlt =>
      obtain ⟨rfl, rfl⟩ := run_pure_eq_ok h
      -- the duration read writes back as the seconds and nanoseconds it was read from
      have hparts := Duration.parts_of_ofParts? hd (Nat.lt_of_not_le hlt)
      have hw : putDuration d' = putU64 secs ++ putU32 nanos := by
        rw [putDuration, hparts.1, hparts.2]
      refine ⟨trivial, by simp [Nat.add_assoc], hle, fun _ => ?_⟩
      rw [hw, e₁ trivial, e₂ trivial, List.append_assoc]
  · split at h <;> cases h

end Durations

end Codec

end DogCourier
