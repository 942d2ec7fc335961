import DogCourier.Road.Network
import Mathlib.Data.List.Nodup

/-! # The cell index as its loop fills it

    A road lists the cells of its centre line once each, and exactly the cells `hasCell`
    accepts (`mem_cells`, `nodup_cells`). Registering a road appends its index once to each
    of those cells' entries and leaves every other entry alone (`registerRoad_apply`), so
    filling the index road by road leaves at each cell the indices of the roads
    registered there, in road order (`cellIndex_apply`). The look-ups read that off:
    `mem_roadsAt`, `roadsAt_increasing` and `mem_rectsAt`. -/

namespace DogCourier

namespace Road

/-- The `k`-th entry of a span is `k` past its lower end: every entry is in range. -/
theorem toInt_span_entry {a b : Int32} {k : Nat}
    (hk : k < (max a.toInt b.toInt - min a.toInt b.toInt + 1).toNat) :
    (Int32.ofInt (min a.toInt b.toInt + k)).toInt = min a.toInt b.toInt + k := by
  have ha := Int32.le_toInt a
  have ha' := Int32.toInt_lt a
  have hb := Int32.le_toInt b
  have hb' := Int32.toInt_lt b
  exact Int32.toInt_ofInt_of_le (by omega) (by omega)

theorem mem_span {a b x : Int32} :
    x ∈ span a b ↔ min a.toInt b.toInt ≤ x.toInt ∧ x.toInt ≤ max a.toInt b.toInt := by
  unfold span
  simp only [List.mem_map, List.mem_range]
  constructor
  · rintro ⟨k, hk, rfl⟩
    rw [toInt_span_entry hk]
    omega
  · rintro ⟨hlo, hhi⟩
    refine ⟨(x.toInt - min a.toInt b.toInt).toNat, by omega, Int32.toInt_inj.mp ?_⟩
    rw [toInt_span_entry (by omega)]
    omega

theorem nodup_span (a b : Int32) : (span a b).Nodup := by
  unfold span
  refine List.nodup_range.map_on fun k hk j hj hkj => ?_
  rw [List.mem_range] at hk hj
  have h := congrArg Int32.toInt hkj
  rw [toInt_span_entry hk, toInt_span_entry hj] at h
  omega

variable {r : Road}

/-- A road lists exactly the cells it is registered at. -/
theorem mem_cells {c : Cell} : c ∈ r.cells ↔ r.hasCell c = true := by
  unfold cells hasCell
  split
  · simp only [List.mem_map, mem_span, Bool.and_eq_true, beq_iff_eq, decide_eq_true_eq]
    constructor
    · rintro ⟨x, hx, rfl⟩
      exact ⟨⟨rfl, hx.1⟩, hx.2⟩
    · rintro ⟨⟨hy, hlo⟩, hhi⟩
      exact ⟨c.x, ⟨hlo, hhi⟩, by rw [← hy]⟩
  · simp only [List.mem_map, mem_span, Bool.and_eq_true, beq_iff_eq, decide_eq_true_eq]
    constructor
    · rintro ⟨y, hy, rfl⟩
      exact ⟨⟨rfl, hy.1⟩, hy.2⟩
    · rintro ⟨⟨hx, hlo⟩, hhi⟩
      exact ⟨c.y, ⟨hlo, hhi⟩, by rw [← hx]⟩

/-- A road lists each cell once. -/
theorem nodup_cells : r.cells.Nodup := by
  unfold cells
  split
  · exact (nodup_span _ _).map fun _ _ h => (Cell.mk.inj h).1
  · exact (nodup_span _ _).map fun _ _ h => (Cell.mk.inj h).2

end Road

namespace RoadNet

/-- Road `i` exists and is registered at `c`. -/
def registers (roads : Array Road) (c : Cell) (i : Nat) : Bool :=
  match roads[i]? with
  | some r => r.hasCell c
  | none => false

/-- Registering a road at its cells, one after another, appends its index to the entry of
each of them once. -/
theorem foldl_register (i : Nat) (c : Cell) :
    ∀ (cs : List Cell), cs.Nodup → ∀ index : Cell → List Nat,
      cs.foldl (fun index c => register index i c) index c = index c ++ if c ∈ cs then [i] else []
  | [], _, index => by simp
  | c' :: cs, hcs, index => by
    obtain ⟨hnew, hcs⟩ := List.nodup_cons.mp hcs
    rw [List.foldl_cons, foldl_register i c cs hcs]
    unfold register
    by_cases h : c = c'
    · subst h
      simp [hnew]
    · simp [h]

theorem registerRoad_apply (roads : Array Road) (index : Cell → List Nat) (i : Nat) (c : Cell) :
    registerRoad roads index i c = index c ++ if registers roads c i then [i] else [] := by
  unfold registerRoad registers
  cases roads[i]? with
  | none => simp
  | some r =>
    dsimp only
    rw [foldl_register i c _ Road.nodup_cells, if_congr Road.mem_cells rfl rfl]

/-- Filling the index road by road appends to each cell's entry the roads registered there,
in the order they are filled. -/
theorem foldl_registerRoad (roads : Array Road) (c : Cell) :
    ∀ (is : List Nat) (index : Cell → List Nat),
      is.foldl (registerRoad roads) index c = index c ++ is.filter (registers roads c)
  | [], index => by simp
  | i :: is, index => by
    rw [List.foldl_cons, foldl_registerRoad roads c is, registerRoad_apply, List.filter_cons]
    split <;> simp [*]

/-- A cell's entry is the list of the roads registered there, in road order. -/
theorem cellIndex_apply (roads : Array Road) (c : Cell) :
    cellIndex roads c = (List.range roads.size).filter (registers roads c) := by
  rw [cellIndex, foldl_registerRoad]
  rfl

variable {net : RoadNet} {c : Cell}

theorem mem_roadsAt {i : Nat} :
    i ∈ net.roadsAt c ↔ ∃ r, net.roads[i]? = some r ∧ r.hasCell c = true := by
  rw [roadsAt, cellIndex_apply, List.mem_filter, List.mem_range]
  unfold registers
  cases h : net.roads[i]? with
  | none => simp
  | some r => simp [(Array.getElem?_eq_some_iff.mp h).1]

/-- Every index a cell registers is the index of a road. -/
theorem lt_of_mem_roadsAt {i : Nat} (h : i ∈ net.roadsAt c) : i < net.roads.size := by
  rw [roadsAt, cellIndex_apply] at h
  exact List.mem_range.mp (List.mem_filter.mp h).1

/-- A cell lists its roads in increasing order, so each at most once. -/
theorem roadsAt_increasing (c : Cell) : (net.roadsAt c).Pairwise (· < ·) := by
  rw [roadsAt, cellIndex_apply]
  exact List.pairwise_lt_range.filter _

/-- The rectangles at a cell are those of the roads at the indices the cell registers, in
road order. -/
theorem rectsAt_eq (net : RoadNet) (c : Cell) :
    net.rectsAt c = (net.roadsAt c).map fun i => (net.roads[i]!).rect net.offset := rfl

theorem mem_rectsAt {q : Rect} :
    q ∈ net.rectsAt c ↔ ∃ r ∈ net.roads, r.hasCell c = true ∧ r.rect net.offset = q := by
  rw [rectsAt, List.mem_map]
  constructor
  · rintro ⟨i, hi, rfl⟩
    obtain ⟨r, hr, hc⟩ := mem_roadsAt.mp hi
    obtain ⟨hlt, rfl⟩ := Array.getElem?_eq_some_iff.mp hr
    exact ⟨_, Array.getElem_mem hlt, hc, by rw [getElem!_pos net.roads i hlt]⟩
  · rintro ⟨r, hr, hc, rfl⟩
    obtain ⟨i, hlt, rfl⟩ := Array.getElem_of_mem hr
    exact ⟨i, mem_roadsAt.mpr ⟨_, Array.getElem?_eq_getElem hlt, hc⟩, by rw [getElem!_pos net.roads i hlt]⟩

end RoadNet

end DogCourier
