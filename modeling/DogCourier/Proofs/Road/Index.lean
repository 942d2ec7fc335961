import DogCourier.Proofs.Road.Surface
import Mathlib.Analysis.Convex.Segment

/-! # The cell index of a road network

    A network looks a point up only among the roads registered at the point's cell. This
    module says which roads those are and that the look-up loses nothing.

    * `hasCell_iff`: a road along a row or a column is registered exactly at the integer
      cells of its centre line, the closed segment between its ends;
    * `cellIndex_eq_scan`: the index its loop fills registers each road at exactly those
      cells and lists each cell's roads in increasing order (`RoadNet.mem_roadsAt`,
      `RoadNet.roadsAt_increasing`), and, with `contains_iff`, the indexed test is the
      plain scan over every road's rectangle. -/

namespace DogCourier

section CentreLine

/-- A grid cell as a point of the rational plane. -/
def Cell.toQ (c : Cell) : ℚ × ℚ := (c.x.toInt, c.y.toInt)

/-- The cell lies on the road's centre line, the closed segment between its two ends. -/
def Road.OnCentreLine (r : Road) (c : Cell) : Prop :=
  c.toQ ∈ segment ℚ r.start.toQ r.finish.toQ

theorem mem_uIcc_intCast {a b x : Int} :
    (x : ℚ) ∈ Set.uIcc (a : ℚ) b ↔ min a b ≤ x ∧ x ≤ max a b := by
  simp only [Set.mem_uIcc, Int.cast_le]
  omega

variable {r : Road}

/-- On a road along a row, the centre line's cells are the row's cells between the ends. -/
theorem onCentreLine_of_row (h : r.start.y = r.finish.y) (c : Cell) :
    r.OnCentreLine c ↔ c.y = r.start.y ∧ min r.start.x.toInt r.finish.x.toInt ≤ c.x.toInt ∧
      c.x.toInt ≤ max r.start.x.toInt r.finish.x.toInt := by
  unfold Road.OnCentreLine Cell.toQ
  -- the segment is the row's interval of columns, placed on the row
  rw [← h, ← Prod.image_mk_segment_left, segment_eq_uIcc]
  constructor
  · rintro ⟨x, hx, hxc⟩
    obtain ⟨rfl, hy⟩ := Prod.mk.inj hxc
    exact ⟨Int32.toInt_inj.mp (by exact_mod_cast hy.symm), mem_uIcc_intCast.mp hx⟩
  · rintro ⟨hy, hx⟩
    exact ⟨_, mem_uIcc_intCast.mpr hx, by rw [hy]⟩

/-- On a road along a column, the centre line's cells are the column's cells between the
ends. -/
theorem onCentreLine_of_column (h : r.start.x = r.finish.x) (c : Cell) :
    r.OnCentreLine c ↔ c.x = r.start.x ∧ min r.start.y.toInt r.finish.y.toInt ≤ c.y.toInt ∧
      c.y.toInt ≤ max r.start.y.toInt r.finish.y.toInt := by
  unfold Road.OnCentreLine Cell.toQ
  rw [← h, ← Prod.image_mk_segment_right, segment_eq_uIcc]
  constructor
  · rintro ⟨y, hy, hyc⟩
    obtain ⟨hx, rfl⟩ := Prod.mk.inj hyc
    exact ⟨Int32.toInt_inj.mp (by exact_mod_cast hx.symm), mem_uIcc_intCast.mp hy⟩
  · rintro ⟨hx, hy⟩
    exact ⟨_, mem_uIcc_intCast.mpr hy, by rw [hx]⟩

/-- A road along a row or a column is registered exactly at the cells of its centre
line, both ends included. -/
theorem hasCell_iff (hr : r.isHorizontal = true ∨ r.isVertical = true) (c : Cell) :
    r.hasCell c = true ↔ r.OnCentreLine c := by
  unfold Road.hasCell
  by_cases hh : r.isHorizontal = true
  · rw [if_pos hh, onCentreLine_of_row (by simpa [Road.isHorizontal] using hh)]
    simp [and_assoc]
  · rw [if_neg hh, onCentreLine_of_column (by simpa [Road.isVertical] using hr.resolve_left hh)]
    simp [and_assoc]

end CentreLine

section Index

variable {net : RoadNet}

/-- The indexed test is the scan over every road's rectangle. -/
theorem contains_eq_any (hnet : net.Narrow) (p : Point) :
    net.contains p = net.roads.any fun r => (r.rect net.offset).contains p := by
  rw [Bool.eq_iff_iff, contains_iff hnet, Array.any_eq_true']

/-- For roads along rows and columns and any offset from `0` to the road half-width, road
`i` is registered at exactly the cells of its centre line, each cell lists its roads in
increasing order, and a point is on the surface, by the look-up at its own cell, exactly
when some road's rectangle holds it. -/
theorem cellIndex_eq_scan (hnet : net.Narrow) :
    (∀ c i, i ∈ net.roadsAt c ↔ ∃ r, net.roads[i]? = some r ∧ r.OnCentreLine c) ∧
    (∀ c, (net.roadsAt c).Pairwise (· < ·)) ∧
    ∀ p, net.contains p = net.roads.any fun r => (r.rect net.offset).contains p := by
  refine ⟨fun c i => ?_, RoadNet.roadsAt_increasing, contains_eq_any hnet⟩
  rw [RoadNet.mem_roadsAt]
  constructor
  · rintro ⟨r, hr, hc⟩
    exact ⟨r, hr, (hasCell_iff (hnet.aligned r (Array.mem_of_getElem? hr)) c).mp hc⟩
  · rintro ⟨r, hr, hc⟩
    exact ⟨r, hr, (hasCell_iff (hnet.aligned r (Array.mem_of_getElem? hr)) c).mpr hc⟩

/-- The index of a corner of two roads, `(0, 0)` to `(10, 0)` and on to `(10, 10)`, agrees
with the scan. -/
theorem cellIndex_eq_scan_corner :
    let net : RoadNet := ⟨#[Road.horizontal ⟨0, 0⟩ 10, Road.vertical ⟨10, 0⟩ 10], roadHalfWidth⟩
    net.Narrow ∧
      (∀ c i, i ∈ net.roadsAt c ↔ ∃ r, net.roads[i]? = some r ∧ r.OnCentreLine c) ∧
      (∀ c, (net.roadsAt c).Pairwise (· < ·)) ∧
      ∀ p, net.contains p = net.roads.any fun r => (r.rect net.offset).contains p := by
  intro net
  have hnet : net.Narrow := RoadNet.Sound.narrow ⟨rfl, by decide, by decide⟩
  exact ⟨hnet, cellIndex_eq_scan hnet⟩

end Index

end DogCourier
