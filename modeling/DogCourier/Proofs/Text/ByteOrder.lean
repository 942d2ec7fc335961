import Mathlib
import DogCourier.Proofs.Save.Reading

/-! # Strings compare as their UTF-8 bytes

    A string compares as the list of its characters, each by its code point. UTF-8 writes
    a code point as one to four bytes: the first byte shows how many follow, its ranges
    rising with the count, and within one count the bytes are the code point's base-64
    digits behind fixed markers. So a smaller code point is written as smaller bytes, the
    first difference lying inside both, and a code with that property keeps the order of
    whole texts.

    * `utf8EncodeChar_append_lt`: a smaller code point is written as smaller bytes,
      whatever follows each;
    * `flatMap_lt_flatMap`: such a code keeps the lexicographic order of lists;
    * `String.lt_iff_toUTF8_lt`: strings compare as their UTF-8 bytes. -/

namespace DogCourier

section Lex

variable {α : Type} [LT α]

/-- Lists of one length that compare keep comparing whatever follows each: their first
difference lies within both. -/
theorem append_lt_append_of_length_eq :
    ∀ {l₁ l₂ : List α}, l₁.length = l₂.length → l₁ < l₂ → ∀ u v : List α, l₁ ++ u < l₂ ++ v
  | [], _, hlen, h, _, _ => by
    cases h
    simp at hlen
  | a :: l₁, b :: l₂, hlen, h, u, v => by
    rcases List.cons_lt_cons_iff.mp h with hab | ⟨rfl, hl⟩
    · exact List.Lex.rel hab
    · exact List.Lex.cons (append_lt_append_of_length_eq (by simpa using hlen) hl u v)
  | _ :: _, [], _, h, _, _ => by cases h

/-- A code that writes each letter as a non-empty word, and a smaller letter as a word
smaller whatever follows it, keeps the order of texts. -/
theorem flatMap_lt_flatMap {β : Type} [LT β] (f : α → List β) (hne : ∀ a, f a ≠ [])
    (hf : ∀ a b, a < b → ∀ u v, f a ++ u < f b ++ v) :
    ∀ {l₁ l₂ : List α}, l₁ < l₂ → l₁.flatMap f < l₂.flatMap f := by
  intro l₁ l₂ h
  induction h with
  | @nil b l =>
    obtain ⟨y, t, hy⟩ := List.exists_cons_of_ne_nil (hne b)
    simp only [List.flatMap_nil, List.flatMap_cons, hy, List.cons_append]
    exact List.Lex.nil
  | cons _ ih =>
    simp only [List.flatMap_cons]
    exact List.append_left_lt ih
  | rel hab =>
    simp only [List.flatMap_cons]
    exact hf _ _ hab _ _

end Lex

section Utf8

/-- UTF-8 spends one byte on a code point up to `0x7f`, two up to `0x7ff`, three up to
`0xffff` and four beyond. -/
theorem utf8EncodeChar_length (c : Char) :
    (String.utf8EncodeChar c).length =
      if c.val.toNat ≤ 0x7f then 1 else if c.val.toNat ≤ 0x7ff then 2
      else if c.val.toNat ≤ 0xffff then 3 else 4 := by
  unfold String.utf8EncodeChar
  dsimp only
  split_ifs <;> rfl

/-- The first byte tells how many follow: none below `0x80`, one from `0xc0`, two from
`0xe0`, three from `0xf0`. -/
theorem utf8EncodeChar_head (c : Char) :
    ∃ x s, String.utf8EncodeChar c = x :: s ∧
      (s.length = 0 ∧ x.toNat < 0x80 ∨ s.length = 1 ∧ 0xc0 ≤ x.toNat ∧ x.toNat < 0xe0 ∨
        s.length = 2 ∧ 0xe0 ≤ x.toNat ∧ x.toNat < 0xf0 ∨
        s.length = 3 ∧ 0xf0 ≤ x.toNat ∧ x.toNat < 0xf8) := by
  have hc := c.valid
  unfold String.utf8EncodeChar
  dsimp only
  split_ifs <;> refine ⟨_, _, rfl, ?_⟩ <;>
    simp (disch := simp only [UInt8.size]; omega) only [UInt8.toNat_ofNat_of_lt', List.length_cons,
      List.length_nil, true_and] <;>
    omega

/-- Two code points written with as many bytes compare as their bytes: within one count
the bytes are the base-64 digits behind fixed markers. -/
theorem utf8EncodeChar_lt_of_length_eq {c d : Char} (h : c < d)
    (hw : (String.utf8EncodeChar c).length = (String.utf8EncodeChar d).length) :
    String.utf8EncodeChar c < String.utf8EncodeChar d := by
  have hcd : c.val.toNat < d.val.toNat := h
  have hc := c.valid
  have hd := d.valid
  rw [utf8EncodeChar_length, utf8EncodeChar_length] at hw
  unfold String.utf8EncodeChar
  dsimp only
  -- the digits, most significant first, as repeated division by 64
  have h4096 : ∀ n : Nat, n / 4096 = n / 64 / 64 := fun n => (Nat.div_div_eq_div_mul n 64 64).symm
  have h262144 : ∀ n : Nat, n / 262144 = n / 64 / 64 / 64 := fun n => by
    rw [Nat.div_div_eq_div_mul, Nat.div_div_eq_div_mul]
  split_ifs at hw ⊢ <;>
    simp (disch := simp only [UInt8.size]; omega) only [List.cons_lt_cons_iff, List.not_lt_nil,
      UInt8.lt_iff_toNat_lt, ← UInt8.toNat_inj, UInt8.toNat_ofNat_of_lt', or_false, and_false,
      h4096, h262144] at hw ⊢ <;>
    omega

/-- A smaller code point is written as smaller bytes, whatever follows each. -/
theorem utf8EncodeChar_append_lt {c d : Char} (h : c < d) (u v : List UInt8) :
    String.utf8EncodeChar c ++ u < String.utf8EncodeChar d ++ v := by
  by_cases hw : (String.utf8EncodeChar c).length = (String.utf8EncodeChar d).length
  · exact append_lt_append_of_length_eq hw (utf8EncodeChar_lt_of_length_eq h hw) u v
  · -- more bytes start with a larger first byte
    have hcd : c.val.toNat < d.val.toNat := h
    obtain ⟨x, s, hx, hxs⟩ := utf8EncodeChar_head c
    obtain ⟨y, t, hy, hyt⟩ := utf8EncodeChar_head d
    have hlc := utf8EncodeChar_length c
    have hld := utf8EncodeChar_length d
    rw [hx, List.length_cons] at hlc
    rw [hy, List.length_cons] at hld
    rw [hx, hy] at hw ⊢
    simp only [List.length_cons] at hw
    have hxy : x < y := by
      rw [UInt8.lt_iff_toNat_lt]
      split_ifs at hlc hld <;> omega
    exact List.Lex.rel hxy

end Utf8

/-- A string's UTF-8 bytes are its characters written one after another. -/
theorem toUTF8_toList (s : String) :
    s.toUTF8.toList = s.toList.flatMap String.utf8EncodeChar := by
  rw [Codec.byteArray_toList, String.toUTF8_eq_toByteArray]
  conv => lhs; rw [← String.ofList_toList (s := s)]
  rw [String.toByteArray_ofList]
  simp [List.utf8Encode]

/-- Strings compare as their UTF-8 bytes. -/
theorem String.lt_iff_toUTF8_lt (s t : String) : s < t ↔ s.toUTF8.toList < t.toUTF8.toList := by
  have hmono : ∀ {a b : List Char},
      a < b → a.flatMap String.utf8EncodeChar < b.flatMap String.utf8EncodeChar :=
    flatMap_lt_flatMap _ (fun _ => String.utf8EncodeChar_ne_nil) fun _ _ h => utf8EncodeChar_append_lt h
  rw [toUTF8_toList, toUTF8_toList]
  constructor
  · exact hmono
  · -- the other way round by trichotomy: the code cannot reverse or merge two texts
    intro h
    by_contra hst
    rcases List.le_iff_lt_or_eq.mp hst with hts | hts
    · exact List.lt_asymm h (hmono hts)
    · rw [hts] at h
      exact List.lt_irrefl _ h

end DogCourier
