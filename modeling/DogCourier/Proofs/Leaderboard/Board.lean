import DogCourier.Proofs.Leaderboard.Rank
import DogCourier.Proofs.Text.ByteOrder

/-! # What a leaderboard holds

    The rank order, said without `Record.rank`: the higher score first, then the shorter
    play time, then the name by its UTF-8 bytes (`Record.rank_isLE_iff`). A board built
    from records and then given more, in any number of calls, is the board built from all
    of them at once (`Leaderboard.foldl_extend_ofRecords`), so its records are all of them
    in rank order, and the only such order since only equal records tie.

    Inserting scans for the first record ranked after the new one. On a ranked board the
    records not ranked after it come first, so the scan stops where a binary search over
    the partitioned list stops: after exactly those records (`takeWhile_length_eq_countP`).

    * `Leaderboard.page_eq_extract`: a page is the slice between its clamped ends;
    * `Leaderboard.page_append`: consecutive pages join into the longer one;
    * `Leaderboard.ranked_records_and_pages`: all of it for every board that calls build. -/

namespace DogCourier

namespace Record

/-- `a` ranks no later than `b`: a higher score, or the same score and a play time no
longer, the name breaking a tie by its UTF-8 bytes. -/
def RanksBefore (a b : Record) : Prop :=
  b.score < a.score ∨ b.score = a.score ∧
    (a.playTime < b.playTime ∨ a.playTime = b.playTime ∧ a.name.toUTF8.toList ≤ b.name.toUTF8.toList)

theorem then_isLE_iff (o₁ o₂ : Ordering) : (o₁.then o₂).isLE ↔ o₁ = .lt ∨ o₁ = .eq ∧ o₂.isLE := by
  cases o₁ <;> cases o₂ <;> decide

/-- The rank comparison is the rank order. -/
theorem rank_isLE_iff {a b : Record} : (a.rank b).isLE ↔ a.RanksBefore b := by
  have hname : (compare a.name b.name).isLE ↔ a.name.toUTF8.toList ≤ b.name.toUTF8.toList := by
    rw [Ordering.isLE_iff_ne_gt, compare_gt_iff_gt, String.lt_iff_toUTF8_lt]
    rfl
  have htime : a.playTime = b.playTime ↔ a.playTime.nanos = b.playTime.nanos :=
    ⟨congrArg Duration.nanos, Duration.ext_nanos⟩
  simp only [rank, then_isLE_iff, Nat.compare_eq_lt, Nat.compare_eq_eq, hname, RanksBefore, htime]
  rfl

end Record

/-- On a list where `p` never holds after an element where it fails, the elements before
the first failure are all those where `p` holds. -/
theorem takeWhile_length_eq_countP {α : Type} {p : α → Bool} :
    ∀ {l : List α}, l.Pairwise (fun x y => p y → p x) → (l.takeWhile p).length = l.countP p
  | [], _ => rfl
  | x :: l, h => by
    obtain ⟨hx, hl⟩ := List.pairwise_cons.mp h
    by_cases px : p x
    · simp [px, takeWhile_length_eq_countP hl]
    · have hnone : l.countP p = 0 := List.countP_eq_zero.mpr fun y hy hpy => px (hx y hy hpy)
      simp [px, hnone]

/-- Dropping past the end leaves nothing, so a start clamped to the length drops as much. -/
theorem drop_min_length {α : Type} (l : List α) (k : Nat) : l.drop (min k l.length) = l.drop k := by
  rcases Nat.le_total k l.length with h | h
  · rw [Nat.min_eq_left h]
  · rw [Nat.min_eq_right h, List.drop_length, List.drop_eq_nil_of_le h]

namespace Leaderboard

/-- A board built from records and then given more is the board built from all of them. -/
theorem extend_ofRecords (L rs : List Record) : (ofRecords L).extend rs = ofRecords (L ++ rs) := by
  apply ext_records
  refine List.Perm.eq_of_pairwise (fun a b _ _ hab hba => Record.eq_of_rank_isLE hab hba)
    (extend_ranked (ofRecords_ranked L) rs) (ofRecords_ranked (L ++ rs)) ?_
  have hsorted : ((ofRecords L).records ++ rs).Perm (L ++ rs) :=
    (List.mergeSort_perm _ _).append_right rs
  exact (extend_perm _ rs).trans (hsorted.trans (List.mergeSort_perm _ _).symm)

/-- Any sequence of calls that add records gives the board built from all of them at once. -/
theorem foldl_extend_ofRecords :
    ∀ (L : List Record) (calls : List (List Record)),
      calls.foldl extend (ofRecords L) = ofRecords (L ++ calls.flatten)
  | L, [] => by simp
  | L, rs :: calls => by
    rw [List.foldl_cons, extend_ofRecords, foldl_extend_ofRecords, List.flatten_cons, List.append_assoc]

theorem Ranked.pairwise_ranksBefore {lb : Leaderboard} (h : lb.Ranked) :
    lb.records.Pairwise Record.RanksBefore :=
  h.imp Record.rank_isLE_iff.mp

/-- On a ranked board, the records that do not rank after `r` all come first. -/
theorem Ranked.partitioned {lb : Leaderboard} (h : lb.Ranked) (r : Record) :
    lb.records.Pairwise fun x y => (y.rank r != .gt) → (x.rank r != .gt) := by
  refine h.imp fun {x y} hxy hyr => ?_
  rw [Record.ne_gt_eq_isLE] at hyr ⊢
  exact Record.rank_isLE_trans hxy hyr

/-- A page is the slice from the start, both clamped to the board. -/
theorem page_eq (lb : Leaderboard) (s m : Nat) : lb.page s m = (lb.records.drop s).take m := by
  simp only [page, size, drop_min_length]

theorem page_eq_extract (lb : Leaderboard) (s m : Nat) :
    lb.page s m = lb.records.extract (min s lb.size) (min (min s lb.size + m) lb.size) := by
  rw [List.extract_eq_take_drop, page, List.take_eq_take_iff, List.length_drop]
  simp only [size]
  omega

/-- Consecutive pages make up the longer page. -/
theorem page_append (lb : Leaderboard) (s m m' : Nat) :
    lb.page s m ++ lb.page (s + m) m' = lb.page s (m + m') := by
  rw [page_eq, page_eq, page_eq, List.take_add, List.drop_drop]

/-- The records of a board built from `L` and then given `calls`, one batch per call, are
`L` and the batches sorted by rank: the one such order, since only equal records tie. The
insertion point of a record, which `insert` finds by scanning, is the number of records
not ranked after it, as a search over a partitioned list finds it. A page is the slice
between its clamped ends, and consecutive pages join. -/
theorem ranked_records_and_pages (L : List Record) (calls : List (List Record)) :
    let lb := calls.foldl extend (ofRecords L)
    (lb.records.Perm (L ++ calls.flatten) ∧ lb.records.Pairwise Record.RanksBefore ∧
      ∀ l : List Record, l.Perm (L ++ calls.flatten) → l.Pairwise Record.RanksBefore → l = lb.records) ∧
    (∀ r : Record, (lb.records.takeWhile fun x => x.rank r != .gt).length =
      lb.records.countP fun x => x.rank r != .gt) ∧
    (∀ s m, lb.page s m = lb.records.extract (min s lb.size) (min (min s lb.size + m) lb.size)) ∧
    ∀ s m m', lb.page s m ++ lb.page (s + m) m' = lb.page s (m + m') := by
  intro lb
  have hlb : lb = ofRecords (L ++ calls.flatten) := foldl_extend_ofRecords L calls
  have hranked : lb.Ranked := hlb ▸ ofRecords_ranked _
  have hperm : lb.records.Perm (L ++ calls.flatten) := hlb ▸ List.mergeSort_perm _ _
  refine ⟨⟨hperm, hranked.pairwise_ranksBefore, fun l hl hsorted => ?_⟩,
    fun r => takeWhile_length_eq_countP (hranked.partitioned r), page_eq_extract lb,
    page_append lb⟩
  -- two orders of the same records agree when only equal records tie
  refine List.Perm.eq_of_pairwise (fun a b _ _ hab hba => ?_) hsorted
    hranked.pairwise_ranksBefore (hl.trans hperm.symm)
  exact Record.eq_of_rank_isLE (Record.rank_isLE_iff.mpr hab) (Record.rank_isLE_iff.mpr hba)

end Leaderboard

end DogCourier
