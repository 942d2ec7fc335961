import Mathlib
import DogCourier.Leaderboard.Basic

/-! # The rank order of retired dogs

    `Record.rank` compares the score downward, then the play time upward, then the
    name: a lexicographic order in which only equal records tie. A leaderboard is
    `Ranked` when its records are in that order.

    * Building a board sorts it (`ofRecords_ranked`), and a ranked board is built back
      unchanged from its own records (`ofRecords_records`).
    * Inserting keeps a board ranked and adds exactly the new record (`insert_ranked`,
      `insert_perm`).
    * A ranked board's records are the one ranked permutation of what went in, so the
      order in which records are inserted is forgotten (`extend_eq_of_perm`). -/

namespace DogCourier

/-- Equal nanoseconds are equal durations. -/
theorem Duration.ext_nanos {a b : Duration} (h : a.nanos = b.nanos) : a = b := by
  cases a
  cases b
  simp_all

namespace Record

/-- The score comparison, the higher score first. -/
def byScore (a b : Record) : Ordering := compare b.score a.score

instance : Std.TransCmp byScore where
  eq_swap {a b} := show compare b.score a.score = (compare a.score b.score).swap from
    Std.OrientedCmp.eq_swap
  isLE_trans {a _ c} hab hbc := show (compare c.score a.score).isLE from
    Std.TransCmp.isLE_trans hbc hab

theorem rank_eq_compareLex :
    rank = compareLex byScore (compareLex (compareOn (·.playTime.nanos)) (compareOn (·.name))) :=
  rfl

instance : Std.TransCmp rank := by
  rw [rank_eq_compareLex]
  infer_instance

theorem rank_swap (a b : Record) : b.rank a = (a.rank b).swap :=
  Std.OrientedCmp.eq_swap

theorem rank_isLE_trans {a b c : Record} (hab : (a.rank b).isLE) (hbc : (b.rank c).isLE) :
    (a.rank c).isLE :=
  Std.TransCmp.isLE_trans hab hbc

/-- Only equal records tie. -/
theorem rank_eq_eq_iff {a b : Record} : a.rank b = .eq ↔ a = b := by
  constructor
  · intro h
    simp only [rank_eq_compareLex, compareLex_eq_eq, byScore, compareOn] at h
    obtain ⟨hs, ht, hn⟩ := h
    have hscore : a.score = b.score := (Std.LawfulEqOrd.eq_of_compare hs).symm
    have htime : a.playTime = b.playTime := Duration.ext_nanos (Std.LawfulEqOrd.eq_of_compare ht)
    have hname : a.name = b.name := Std.LawfulEqOrd.eq_of_compare hn
    cases a
    cases b
    simp_all
  · rintro rfl
    exact Std.ReflCmp.compare_self

/-- Of two records, one ranks no later than the other. -/
theorem rank_isLE_total (a b : Record) : (a.rank b).isLE ∨ (b.rank a).isLE := by
  rw [rank_swap a b]
  cases a.rank b <;> simp

theorem eq_of_rank_isLE {a b : Record} (hab : (a.rank b).isLE) (hba : (b.rank a).isLE) :
    a = b := by
  rw [rank_swap a b] at hba
  apply rank_eq_eq_iff.mp
  revert hab hba
  cases a.rank b <;> simp

theorem ne_gt_eq_isLE (o : Ordering) : (o != .gt) = o.isLE := by
  cases o <;> rfl

end Record

namespace Leaderboard

/-- The records are in rank order. -/
def Ranked (lb : Leaderboard) : Prop :=
  lb.records.Pairwise fun a b => (a.rank b).isLE

/-- Leaderboards with the same records are equal. -/
theorem ext_records {a b : Leaderboard} (h : a.records = b.records) : a = b := by
  cases a
  cases b
  simp_all

theorem ofRecords_ranked (rs : List Record) : (ofRecords rs).Ranked := by
  have hsorted : (rs.mergeSort fun a b => Record.rank a b != .gt).Pairwise
      (fun a b => Record.rank a b != .gt) := List.pairwise_mergeSort
    (fun a b c hab hbc => by
      simp only [Record.ne_gt_eq_isLE] at *
      exact Record.rank_isLE_trans hab hbc)
    (fun a b => by
      simp only [Record.ne_gt_eq_isLE, Bool.or_eq_true]
      exact Record.rank_isLE_total a b)
    rs
  simpa [Ranked, ofRecords, Record.ne_gt_eq_isLE] using hsorted

/-- Sorting a ranked board's records gives the board back. -/
theorem ofRecords_records {lb : Leaderboard} (h : lb.Ranked) : ofRecords lb.records = lb := by
  apply ext_records
  apply List.mergeSort_of_pairwise
  simpa [Ranked, Record.ne_gt_eq_isLE] using h

theorem drop_length_takeWhile {α : Type} (p : α → Bool) :
    ∀ l : List α, l.drop (l.takeWhile p).length = l.dropWhile p
  | [] => rfl
  | x :: xs => by
    by_cases hx : p x
    · simp [List.takeWhile, List.dropWhile, hx, drop_length_takeWhile p xs]
    · simp [List.takeWhile, List.dropWhile, hx]

/-- An insertion splits the board at the first record ranked after the new one. -/
theorem insert_records (lb : Leaderboard) (r : Record) :
    (lb.insert r).records =
      lb.records.takeWhile (fun x => x.rank r != .gt) ++
        r :: lb.records.dropWhile (fun x => x.rank r != .gt) := by
  simp [insert, drop_length_takeWhile]

theorem insert_perm (lb : Leaderboard) (r : Record) : (lb.insert r).records.Perm (r :: lb.records) := by
  rw [insert_records]
  have hsplit : lb.records.takeWhile (fun x => x.rank r != .gt) ++
      lb.records.dropWhile (fun x => x.rank r != .gt) = lb.records :=
    List.takeWhile_append_dropWhile
  refine List.perm_middle.trans ?_
  rw [hsplit]

/-- A record that is not ranked before `r` comes strictly after it, and so do all the
records behind it on a ranked board. -/
theorem rank_isLE_dropWhile {r : Record} :
    ∀ {l : List Record}, l.Pairwise (fun a b => (a.rank b).isLE) →
      ∀ y ∈ l.dropWhile (fun x => x.rank r != .gt), (r.rank y).isLE
  | [], _ => by simp
  | x :: xs, h => by
    intro y hy
    obtain ⟨hx, hxs⟩ := List.pairwise_cons.mp h
    by_cases hp : (x.rank r != .gt) = true
    · simp only [List.dropWhile, hp] at hy
      exact rank_isLE_dropWhile hxs y hy
    · simp only [List.dropWhile, hp] at hy
      have hrx : (r.rank x).isLE := by
        rw [Record.rank_swap x r]
        simp only [bne_iff_ne, ne_eq, Decidable.not_not] at hp
        simp [hp]
      rcases List.mem_cons.mp hy with rfl | hy
      · exact hrx
      · exact Record.rank_isLE_trans hrx (hx y hy)

theorem insert_ranked {lb : Leaderboard} (h : lb.Ranked) (r : Record) : (lb.insert r).Ranked := by
  unfold Ranked at *
  rw [insert_records]
  have hsplit : (lb.records.takeWhile (fun x => x.rank r != .gt) ++
      lb.records.dropWhile (fun x => x.rank r != .gt)).Pairwise (fun a b => (a.rank b).isLE) := by
    rw [List.takeWhile_append_dropWhile]
    exact h
  obtain ⟨hbefore, hafter, hacross⟩ := List.pairwise_append.mp hsplit
  refine List.pairwise_append.mpr ⟨hbefore, ?_, ?_⟩
  · exact List.pairwise_cons.mpr ⟨rank_isLE_dropWhile h, hafter⟩
  · intro a ha b hb
    rcases List.mem_cons.mp hb with rfl | hb
    · have hp := List.mem_takeWhile_imp ha
      simpa [Record.ne_gt_eq_isLE] using hp
    · exact hacross a ha b hb

theorem extend_ranked {lb : Leaderboard} (h : lb.Ranked) (rs : List Record) : (lb.extend rs).Ranked := by
  induction rs generalizing lb with
  | nil => exact h
  | cons r rs ih => exact ih (insert_ranked h r)

theorem extend_perm (lb : Leaderboard) (rs : List Record) :
    (lb.extend rs).records.Perm (lb.records ++ rs) := by
  induction rs generalizing lb with
  | nil => simp [extend]
  | cons r rs ih =>
    have hstep : ((lb.insert r).records ++ rs).Perm ((r :: lb.records) ++ rs) :=
      (insert_perm lb r).append_right rs
    exact ((ih (lb.insert r)).trans hstep).trans List.perm_middle.symm

theorem extend_append (lb : Leaderboard) (rs rs' : List Record) :
    lb.extend (rs ++ rs') = (lb.extend rs).extend rs' := by
  simp [extend, List.foldl_append]

/-- On a ranked board the order of insertion is forgotten. -/
theorem extend_eq_of_perm {lb : Leaderboard} (h : lb.Ranked) {rs rs' : List Record}
    (hp : rs.Perm rs') : lb.extend rs = lb.extend rs' := by
  apply ext_records
  refine List.Perm.eq_of_pairwise (fun a b _ _ hab hba => Record.eq_of_rank_isLE hab hba)
    (extend_ranked h rs) (extend_ranked h rs') ?_
  exact (extend_perm lb rs).trans ((hp.append_left lb.records).trans (extend_perm lb rs').symm)

end Leaderboard

end DogCourier
