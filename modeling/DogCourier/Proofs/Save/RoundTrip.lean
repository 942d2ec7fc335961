import DogCourier.Proofs.Save.Reading

/-! # Saved games read back

    A saved game is written field by field (`SaveData.encode`) and read back by
    `Codec.saveData` with a duration reader. Every number of a save is one of fixed width,
    so what can be written and read back is a game whose numbers fit their widths
    (`SaveData.Fits`): the version 4 bytes, ids, counters, scores, kinds and lengths 8.

    * Reading the bytes of a game that fits gives the game back, every double with its
      bit pattern (`decode_encode_and_reencode_iff_exact`, first half).
    * Bytes that read as a game are the game's own bytes exactly when every duration in
      them was written with nanoseconds below a second, that is, when the reader that
      refuses other nanoseconds reads the same game from them (second half).

    Both come from the two properties of `Proofs.Save.Reading`, proved here for loot,
    dogs, sessions, records and whole games, the last three for any duration reader
    that has them. -/

namespace DogCourier

/-- Loot's id and kind fit 8 bytes. -/
def Loot.Fits (l : Loot) : Prop := l.id < 2 ^ 64 ∧ l.kind < 2 ^ 64

instance (l : Loot) : Decidable l.Fits := inferInstanceAs (Decidable (_ ∧ _))

/-- A saved dog's id, name length and score fit 8 bytes, and so does its bag. -/
def SavedDog.Fits (d : SavedDog) : Prop :=
  d.id < 2 ^ 64 ∧ d.name.utf8ByteSize < 2 ^ 64 ∧ d.score < 2 ^ 64 ∧
    Codec.ListFits Loot.Fits d.bag

instance (d : SavedDog) : Decidable d.Fits := inferInstanceAs (Decidable (_ ∧ _))

/-- A saved session's map id length and counters fit 8 bytes, and so do its loot and its
dogs. -/
def SavedSession.Fits (s : SavedSession) : Prop :=
  s.mapId.utf8ByteSize < 2 ^ 64 ∧ s.nextDogId < 2 ^ 64 ∧ s.nextLootId < 2 ^ 64 ∧
    Codec.ListFits Loot.Fits s.loot ∧ Codec.ListFits SavedDog.Fits s.dogs

instance (s : SavedSession) : Decidable s.Fits := inferInstanceAs (Decidable (_ ∧ _))

/-- A record's name length and score fit 8 bytes. -/
def Record.Fits (r : Record) : Prop := r.name.utf8ByteSize < 2 ^ 64 ∧ r.score < 2 ^ 64

instance (r : Record) : Decidable r.Fits := inferInstanceAs (Decidable (_ ∧ _))

/-- A saved game's version fits 4 bytes, and its sessions and records fit. -/
def SaveData.Fits (s : SaveData) : Prop :=
  s.version < 2 ^ 32 ∧ Codec.ListFits SavedSession.Fits s.sessions ∧
    Codec.ListFits Record.Fits s.leaderboard

instance (s : SaveData) : Decidable s.Fits := inferInstanceAs (Decidable (_ ∧ _))

namespace Codec

section Records

theorem putLoot_ne_nil (l : Loot) : putLoot l ≠ [] :=
  List.ne_nil_of_length_pos (by simp only [putLoot, List.length_append, putU64_length]; omega)

theorem putDog_ne_nil (d : SavedDog) : putDog d ≠ [] :=
  List.ne_nil_of_length_pos (by simp only [putDog, List.length_append, putU64_length]; omega)

theorem putSession_ne_nil (s : SavedSession) : putSession s ≠ [] :=
  List.ne_nil_of_length_pos (by simp only [putSession, putStr, List.length_append, putU64_length]; omega)

theorem putRecord_ne_nil (r : Record) : putRecord r ≠ [] :=
  List.ne_nil_of_length_pos (by simp only [putRecord, putStr, List.length_append, putU64_length]; omega)

theorem loot_readsAll : ReadsAll loot putLoot Loot.Fits := by
  rintro b p ⟨id, kind, c⟩ rest ⟨hid, hkind⟩ h
  simp only [putLoot, List.append_assoc] at h
  rw [loot]
  refine u64_readsAll.bind hid h fun h => u64_readsAll.bind hkind h fun h =>
    coords_readsAll.bind trivial h fun _ => ?_
  rw [run_pure]
  simp [putLoot, Nat.add_assoc]

theorem loot_readsOnly : ReadsOnly loot putLoot Loot.Fits True := by
  intro b p l p' h
  rw [loot] at h
  obtain ⟨id, hid, -, e₁, h⟩ := u64_readsOnly.bind h
  obtain ⟨kind, hkind, -, e₂, h⟩ := u64_readsOnly.bind h
  obtain ⟨c, -, hle, e₃, h⟩ := coords_readsOnly.bind h
  obtain ⟨rfl, rfl⟩ := run_pure_eq_ok h
  refine ⟨⟨hid, hkind⟩, by simp [putLoot, Nat.add_assoc], hle, fun _ => ?_⟩
  rw [e₁ trivial, e₂ trivial, e₃ trivial]
  simp [putLoot]

variable {dur : Decoder Duration}

theorem dog_readsAll (hdur : ReadsAll dur putDuration (fun _ => True)) :
    ReadsAll (dog dur) putDog SavedDog.Fits := by
  rintro b p ⟨id, name, pos, prev, vel, dir, score, bag, alive, moved⟩ rest
    ⟨hid, hname, hscore, hbag⟩ h
  simp only [putDog, List.append_assoc] at h
  rw [dog]
  refine u64_readsAll.bind hid h fun h => str_readsAll.bind hname h fun h =>
    coords_readsAll.bind trivial h fun h => coords_readsAll.bind trivial h fun h =>
    coords_readsAll.bind trivial h fun h => direction_readsAll.bind trivial h fun h =>
    u64_readsAll.bind hscore h fun h =>
    (list_readsAll loot_readsAll putLoot_ne_nil).bind hbag h fun h =>
    hdur.bind trivial h fun h => hdur.bind trivial h fun _ => ?_
  rw [run_pure]
  simp [putDog]
  omega

theorem dog_readsOnly {E : Prop} (hdur : ReadsOnly dur putDuration (fun _ => True) E) :
    ReadsOnly (dog dur) putDog SavedDog.Fits E := by
  intro b p d p' h
  rw [dog] at h
  obtain ⟨id, hid, -, e₁, h⟩ := u64_readsOnly.bind h
  obtain ⟨name, hname, -, e₂, h⟩ := str_readsOnly.bind h
  obtain ⟨pos, -, -, e₃, h⟩ := coords_readsOnly.bind h
  obtain ⟨prev, -, -, e₄, h⟩ := coords_readsOnly.bind h
  obtain ⟨vel, -, -, e₅, h⟩ := coords_readsOnly.bind h
  obtain ⟨dir, -, -, e₆, h⟩ := direction_readsOnly.bind h
  obtain ⟨score, hscore, -, e₇, h⟩ := u64_readsOnly.bind h
  obtain ⟨bag, hbag, -, e₈, h⟩ := (list_readsOnly loot_readsOnly putLoot_ne_nil).bind h
  obtain ⟨alive, -, -, e₉, h⟩ := hdur.bind h
  obtain ⟨moved, -, hle, e₁₀, h⟩ := hdur.bind h
  obtain ⟨rfl, rfl⟩ := run_pure_eq_ok h
  refine ⟨⟨hid, hname, hscore, hbag⟩, by simp [putDog]; omega, hle, fun e => ?_⟩
  rw [e₁ trivial, e₂ trivial, e₃ trivial, e₄ trivial, e₅ trivial, e₆ trivial, e₇ trivial,
    e₈ trivial, e₉ e, e₁₀ e]
  simp [putDog]

theorem session_readsAll (hdur : ReadsAll dur putDuration (fun _ => True)) :
    ReadsAll (session dur) putSession SavedSession.Fits := by
  rintro b p ⟨mapId, nextDog, nextLoot, l, ds⟩ rest ⟨hmap, hdog, hloot, hl, hds⟩ h
  simp only [putSession, List.append_assoc] at h
  rw [session]
  refine str_readsAll.bind hmap h fun h => u64_readsAll.bind hdog h fun h =>
    u64_readsAll.bind hloot h fun h =>
    (list_readsAll loot_readsAll putLoot_ne_nil).bind hl h fun h =>
    (list_readsAll (dog_readsAll hdur) putDog_ne_nil).bind hds h fun _ => ?_
  rw [run_pure]
  simp [putSession]
  omega

theorem session_readsOnly {E : Prop} (hdur : ReadsOnly dur putDuration (fun _ => True) E) :
    ReadsOnly (session dur) putSession SavedSession.Fits E := by
  intro b p s p' h
  rw [session] at h
  obtain ⟨mapId, hmap, -, e₁, h⟩ := str_readsOnly.bind h
  obtain ⟨nextDog, hdog, -, e₂, h⟩ := u64_readsOnly.bind h
  obtain ⟨nextLoot, hloot, -, e₃, h⟩ := u64_readsOnly.bind h
  obtain ⟨l, hl, -, e₄, h⟩ := (list_readsOnly loot_readsOnly putLoot_ne_nil).bind h
  obtain ⟨ds, hds, hle, e₅, h⟩ := (list_readsOnly (dog_readsOnly hdur) putDog_ne_nil).bind h
  obtain ⟨rfl, rfl⟩ := run_pure_eq_ok h
  refine ⟨⟨hmap, hdog, hloot, hl, hds⟩, by simp [putSession]; omega, hle, fun e => ?_⟩
  rw [e₁ trivial, e₂ trivial, e₃ trivial, e₄ trivial, e₅ e]
  simp [putSession]

theorem record_readsAll (hdur : ReadsAll dur putDuration (fun _ => True)) :
    ReadsAll (record dur) putRecord Record.Fits := by
  rintro b p ⟨name, score, t⟩ rest ⟨hname, hscore⟩ h
  simp only [putRecord, List.append_assoc] at h
  rw [record]
  refine str_readsAll.bind hname h fun h => u64_readsAll.bind hscore h fun h =>
    hdur.bind trivial h fun _ => ?_
  rw [run_pure]
  simp [putRecord, Nat.add_assoc]

theorem record_readsOnly {E : Prop} (hdur : ReadsOnly dur putDuration (fun _ => True) E) :
    ReadsOnly (record dur) putRecord Record.Fits E := by
  intro b p r p' h
  rw [record] at h
  obtain ⟨name, hname, -, e₁, h⟩ := str_readsOnly.bind h
  obtain ⟨score, hscore, -, e₂, h⟩ := u64_readsOnly.bind h
  obtain ⟨t, -, hle, e₃, h⟩ := hdur.bind h
  obtain ⟨rfl, rfl⟩ := run_pure_eq_ok h
  refine ⟨⟨hname, hscore⟩, by simp [putRecord, Nat.add_assoc], hle, fun e => ?_⟩
  rw [e₁ trivial, e₂ trivial, e₃ e]
  simp [putRecord]

theorem encode_toList (s : SaveData) :
    s.encode.data.toList =
      putU32 s.version ++ putList putSession s.sessions ++ putList putRecord s.leaderboard := by
  simp [SaveData.encode]

theorem saveData_readsAll (hdur : ReadsAll dur putDuration (fun _ => True)) :
    ReadsAll (saveData dur) (fun s => s.encode.data.toList) SaveData.Fits := by
  rintro b p ⟨version, sessions, records⟩ rest ⟨hversion, hsessions, hrecords⟩ h
  simp only [encode_toList, List.append_assoc] at h ⊢
  rw [saveData]
  refine u32_readsAll.bind hversion h fun h =>
    (list_readsAll (session_readsAll hdur) putSession_ne_nil).bind hsessions h fun h =>
    (list_readsAll (record_readsAll hdur) putRecord_ne_nil).bind hrecords h fun _ => ?_
  rw [run_pure]
  simp [Nat.add_assoc]

theorem saveData_readsOnly {E : Prop} (hdur : ReadsOnly dur putDuration (fun _ => True) E) :
    ReadsOnly (saveData dur) (fun s => s.encode.data.toList) SaveData.Fits E := by
  intro b p s p' h
  rw [saveData] at h
  obtain ⟨version, hversion, -, e₁, h⟩ := u32_readsOnly.bind h
  obtain ⟨sessions, hsessions, -, e₂, h⟩ :=
    (list_readsOnly (session_readsOnly hdur) putSession_ne_nil).bind h
  obtain ⟨records, hrecords, hle, e₃, h⟩ :=
    (list_readsOnly (record_readsOnly hdur) putRecord_ne_nil).bind h
  obtain ⟨rfl, rfl⟩ := run_pure_eq_ok h
  simp only [encode_toList]
  refine ⟨⟨hversion, hsessions, hrecords⟩, by simp [Nat.add_assoc], hle, fun e => ?_⟩
  rw [e₁ trivial, e₂ e, e₃ e]
  simp

end Records

end Codec

open Codec in
/-- A saved game whose numbers fit their widths reads back from its bytes, doubles
bit for bit; and bytes that read as a game are exactly that game's bytes, up to where
reading stopped, if and only if every duration in them has nanoseconds below a second:
the reader that refuses other nanoseconds reads the same game from them. -/
theorem decode_encode_and_reencode_iff_exact :
    (∀ s : SaveData, s.Fits → SaveData.decode s.encode = .ok s) ∧
    (∀ (b : ByteArray) (s : SaveData) (n : Nat),
      ((saveData duration).run b).run 0 = .ok (s, n) →
        (s.encode = b.extract 0 n ↔ ((saveData exactDuration).run b).run 0 = .ok (s, n))) := by
  refine ⟨fun s hs => ?_, fun b s n h => ?_⟩
  · have hread := saveData_readsAll duration_readsAll s.encode 0 s [] hs (by simp)
    simp [SaveData.decode, hread, Except.map]
  · -- a read from the start passes the first `n` bytes, as many as the game writes
    have hfront : (b.extract 0 n).data.toList = b.data.toList.take n := by
      simp
    obtain ⟨hfits, hn, -, -⟩ := saveData_readsOnly duration_readsOnly b 0 s n h
    simp only [Nat.zero_add] at hn
    constructor
    · intro he
      -- they are the game's bytes, so the exact reader passes them too
      have hpassed : b.data.toList.drop 0 = s.encode.data.toList ++ b.data.toList.drop n := by
        rw [he, hfront, List.drop_zero, List.take_append_drop]
      have hexact := saveData_readsAll exactDuration_readsAll b 0 s _ hfits hpassed
      rwa [Nat.zero_add, ← hn] at hexact
    · intro hx
      obtain ⟨-, -, -, hpassed⟩ := saveData_readsOnly exactDuration_readsOnly b 0 s n hx
      simp only [List.drop_zero] at hpassed
      apply ByteArray.ext
      apply Array.ext'
      rw [hfront, hpassed trivial, List.take_left' hn.symm]

/-- A game with one session, one dog whose position is a NaN with a payload, and one
record reads back from its bytes. -/
theorem decode_encode_one_dog :
    let s : SaveData := ⟨1, [⟨"town", 1, 0, [], [⟨0, "rex", ⟨⟨0x7FF8000000000001⟩, ⟨0⟩⟩,
      ⟨⟨0⟩, ⟨0⟩⟩, ⟨⟨0⟩, ⟨0⟩⟩, .north, 0, [], Duration.zero, Duration.zero⟩]⟩],
      [⟨"rex", 3, Duration.zero⟩]⟩
    s.Fits ∧ SaveData.decode s.encode = .ok s := by
  intro s
  have hs : s.Fits := by decide
  exact ⟨hs, decode_encode_and_reencode_iff_exact.1 s hs⟩

end DogCourier
