import DogCourier.Proofs.Float.Integers
import DogCourier.Proofs.Road.Cells

/-! # The road surface

    A map's roads run along rows and columns, and each is widened by an offset into a
    rectangle. A point is on the surface when a rectangle registered at the point's own
    cell holds it. Registration is by the centre line's cells, and for any offset from
    `0` to the road half-width a rectangle reaches less than a half beyond its centre
    line, so the grid rounds every point of the rectangle onto a cell of that line: the
    surface is exactly the union of the rectangles. The sides are built in doubles; their
    error is below `2^-20`, and since rounding crosses no integer a side never falls
    inside the extent, however small the offset.

    Everything that places a point keeps it on the surface:

    * `contains_iff`: the surface is the union of the road rectangles;
    * `clamp_lands_on_surface`: a clamped move from the surface ends on it, at the
      target, where it started, or at an edge point a rectangle offers;
    * `pointAt_contains`, `start_contains`: points of a centre line are on it. -/

namespace DogCourier

open Float.Model Float.Model.UnpackedFloat

section Extent

/-- The road half-width is the double nearest `2/5`, a little above it. -/
theorem exactValue_roadHalfWidth :
    exactValue roadHalfWidth = some (7205759403792794 * 2 ^ (-54 : Int)) := by
  unfold exactValue
  rw [show roadHalfWidth.toModel.unpack =
    .finite .positive 7205759403792794 (-54) (by decide) by rfl]
  simp [Sign.apply]

theorem abs_toInt_le (n : Int32) : |(n.toInt : Int)| ≤ 2 ^ 31 := by
  have h₁ := Int32.minValue_le_toInt n
  have h₂ := Int32.toInt_le n
  rw [abs_le]
  constructor <;> [exact le_trans (by decide) h₁; exact le_trans h₂ (by decide)]

/-- The ends of a 32-bit extent are within `2^31`. -/
theorem abs_min_toInt_le (a b : Int32) : |min a.toInt b.toInt| ≤ 2 ^ 31 := by
  rcases min_choice a.toInt b.toInt with h | h <;> rw [h] <;> exact abs_toInt_le _

theorem abs_max_toInt_le (a b : Int32) : |max a.toInt b.toInt| ≤ 2 ^ 31 := by
  rcases max_choice a.toInt b.toInt with h | h <;> rw [h] <;> exact abs_toInt_le _

/-- A rectangle's sides: `n - 2/5` and `n + 2/5`, each to within `2^-18`. -/
theorem exactValue_widen (n : Int) (hn : |n| ≤ 2 ^ 31) :
    (∃ v, exactValue (Float.ofInt n - roadHalfWidth) = some v ∧
      |v - (n - 2 / 5)| ≤ 2 ^ (-18 : Int)) ∧
    (∃ v, exactValue (Float.ofInt n + roadHalfWidth) = some v ∧
      |v - (n + 2 / 5)| ≤ 2 ^ (-18 : Int)) := by
  obtain ⟨q, hq, herr⟩ := exactValue_ofInt n hn
  have hn' : |(n : ℚ)| ≤ 2 ^ 31 := by exact_mod_cast hn
  rw [abs_le] at herr hn'
  norm_num at herr hn'
  constructor
  · obtain ⟨v, hv, herr'⟩ := exactValue_sub hq exactValue_roadHalfWidth (by norm_num) (by norm_num)
      (show |q - _| ≤ 2 ^ (32 : Int) by rw [abs_le]; constructor <;> norm_num <;> linarith)
    refine ⟨v, hv, ?_⟩
    rw [abs_le] at herr' ⊢
    constructor <;> norm_num at herr' ⊢ <;> linarith
  · obtain ⟨v, hv, herr'⟩ := exactValue_add hq exactValue_roadHalfWidth (by norm_num) (by norm_num)
      (show |q + _| ≤ 2 ^ (32 : Int) by rw [abs_le]; constructor <;> norm_num <;> linarith)
    refine ⟨v, hv, ?_⟩
    rw [abs_le] at herr' ⊢
    constructor <;> norm_num at herr' ⊢ <;> linarith

/-- A point of the segment from `a` to `b` at a fraction in `[0, 1]`, computed in doubles,
is within `2^-15` of the segment. -/
theorem exactValue_lerp {a b : Int} (ha : |a| ≤ 2 ^ 31) (hb : |b| ≤ 2 ^ 31) {t : Float} {τ : ℚ}
    (ht : exactValue t = some τ) (h0 : 0 ≤ τ) (h1 : τ ≤ 1) :
    ∃ v, exactValue (Float.ofInt a + (Float.ofInt b - Float.ofInt a) * t) = some v ∧
      ((min a b : Int) : ℚ) - 2 ^ (-15 : Int) ≤ v ∧ v ≤ ((max a b : Int) : ℚ) + 2 ^ (-15 : Int) := by
  obtain ⟨qa, hqa, ea⟩ := exactValue_ofInt a ha
  obtain ⟨qb, hqb, eb⟩ := exactValue_ofInt b hb
  have ha' : |(a : ℚ)| ≤ 2 ^ 31 := by exact_mod_cast ha
  have hb' : |(b : ℚ)| ≤ 2 ^ 31 := by exact_mod_cast hb
  have hscale : ∀ x : ℚ, |x * τ| ≤ |x| := fun x => by
    rw [abs_mul, abs_of_nonneg h0]
    exact mul_le_of_le_one_right (abs_nonneg x) h1
  rw [abs_le] at ea eb ha' hb'
  norm_num at ea eb ha' hb'
  -- the difference, the product and the sum each round once
  obtain ⟨qd, hqd, ed⟩ := exactValue_sub hqb hqa (by norm_num) (by norm_num)
    (show |qb - qa| ≤ 2 ^ (33 : Int) by rw [abs_le]; constructor <;> norm_num <;> linarith)
  have hdτ := (hscale (qd - (qb - qa))).trans ed
  have hd : |qd * τ| ≤ 2 ^ (34 : Int) := by
    refine (hscale qd).trans ?_
    rw [abs_le] at ed ⊢
    constructor <;> norm_num at ed ⊢ <;> linarith
  obtain ⟨qp, hqp, ep⟩ := exactValue_mul hqd ht (by norm_num) (by norm_num) hd
  rw [abs_le] at hd ep
  norm_num at hd ep
  obtain ⟨v, hv, ev⟩ := exactValue_add hqa hqp (by norm_num) (by norm_num)
    (show |qa + qp| ≤ 2 ^ (35 : Int) by rw [abs_le]; constructor <;> norm_num <;> linarith)
  rw [sub_mul, abs_le] at hdτ
  rw [abs_le] at ev
  norm_num at hdτ ev
  -- the exact point `qa + (qb - qa) τ` lies between `qa` and `qb`
  have hlo : min (a : ℚ) b - 1 / 524288 ≤ qa + (qb - qa) * τ := by
    have h₁ : min (a : ℚ) b - 1 / 524288 ≤ qa := by linarith only [ea.1, min_le_left (a : ℚ) b]
    have h₂ : min (a : ℚ) b - 1 / 524288 ≤ qb := by linarith only [eb.1, min_le_right (a : ℚ) b]
    have e₁ := mul_le_mul_of_nonneg_right h₁ (sub_nonneg.mpr h1)
    have e₂ := mul_le_mul_of_nonneg_right h₂ h0
    linarith only [e₁, e₂]
  have hhi : qa + (qb - qa) * τ ≤ max (a : ℚ) b + 1 / 524288 := by
    have h₁ : qa ≤ max (a : ℚ) b + 1 / 524288 := by linarith only [ea.2, le_max_left (a : ℚ) b]
    have h₂ : qb ≤ max (a : ℚ) b + 1 / 524288 := by linarith only [eb.2, le_max_right (a : ℚ) b]
    have e₁ := mul_le_mul_of_nonneg_right h₁ (sub_nonneg.mpr h1)
    have e₂ := mul_le_mul_of_nonneg_right h₂ h0
    linarith only [e₁, e₂]
  have e15 : (2 : ℚ) ^ (-15 : Int) = 1 / 32768 := by norm_num
  refine ⟨v, hv, ?_, ?_⟩
  · push_cast
    rw [e15]
    linarith only [ev.1, ep.1, hdτ.1, hlo]
  · push_cast
    rw [e15]
    linarith only [ev.2, ep.2, hdτ.2, hhi]

/-- An offset from `0` to the road half-width is a number in that range. -/
theorem exactValue_offset {o : Float} (h₀ : 0.0 ≤ o) (h₁ : o ≤ roadHalfWidth) :
    ∃ w, exactValue o = some w ∧ 0 ≤ w ∧ w ≤ 7205759403792794 * 2 ^ (-54 : Int) :=
  exactValue_of_le_of_le exactValue_zero exactValue_roadHalfWidth h₀ h₁

/-- The low side of an extent widened by `w`: within `2^-20` of `n - w`, and never above
`n`, since the rounding crosses no integer. -/
theorem exactValue_lowSide (n : Int) (hn : |n| ≤ 2 ^ 31) {o : Float} {w : ℚ}
    (ho : exactValue o = some w) (hw₀ : 0 ≤ w) (hw₁ : w ≤ 1) :
    ∃ l, exactValue (Float.ofInt n - o) = some l ∧ n - w - 2 ^ (-20 : Int) ≤ l ∧ l ≤ n := by
  have hn' : |(n : ℚ)| ≤ 2 ^ 31 := by exact_mod_cast hn
  have hb : |(n : ℚ) - w| ≤ 2 ^ (32 : Int) := by
    rw [abs_le] at hn' ⊢
    constructor <;> norm_num <;> linarith [hn'.1, hn'.2]
  have hn_eq := exactValue_ofInt_eq n hn
  obtain ⟨l, hl, herr⟩ := exactValue_sub hn_eq ho (by norm_num) (by norm_num) hb
  obtain ⟨l', hl', hkeep⟩ := exactValue_sub_keepsInts hn_eq ho (le_trans hb (by norm_num))
  obtain rfl : l = l' := Option.some.inj (hl.symm.trans hl')
  refine ⟨l, hl, ?_, (hkeep n).1 (by linarith)⟩
  rw [abs_le] at herr
  norm_num at herr ⊢
  linarith [herr.1]

/-- The high side of an extent widened by `w`: within `2^-20` of `n + w`, and never below
`n`. -/
theorem exactValue_highSide (n : Int) (hn : |n| ≤ 2 ^ 31) {o : Float} {w : ℚ}
    (ho : exactValue o = some w) (hw₀ : 0 ≤ w) (hw₁ : w ≤ 1) :
    ∃ h, exactValue (Float.ofInt n + o) = some h ∧ (n : ℚ) ≤ h ∧ h ≤ n + w + 2 ^ (-20 : Int) := by
  have hn' : |(n : ℚ)| ≤ 2 ^ 31 := by exact_mod_cast hn
  have hb : |(n : ℚ) + w| ≤ 2 ^ (32 : Int) := by
    rw [abs_le] at hn' ⊢
    constructor <;> norm_num <;> linarith [hn'.1, hn'.2]
  have hn_eq := exactValue_ofInt_eq n hn
  obtain ⟨h, hh, herr⟩ := exactValue_add hn_eq ho (by norm_num) (by norm_num) hb
  obtain ⟨h', hh', hkeep⟩ := exactValue_add_keepsInts hn_eq ho (le_trans hb (by norm_num))
  obtain rfl : h = h' := Option.some.inj (hh.symm.trans hh')
  refine ⟨h, hh, (hkeep n).2 (by linarith), ?_⟩
  rw [abs_le] at herr
  norm_num at herr ⊢
  linarith [herr.2]

end Extent

section Spans

/-- Along one axis a road's rectangle runs from `lo` to `hi`: numbers within `2^-18` of
the road's extent `[a, b]` widened by `2/5` on each side. -/
def Spans (lo hi : Float) (a b : Int) : Prop :=
  ∃ l h, exactValue lo = some l ∧ exactValue hi = some h ∧
    |l - (a - 2 / 5)| ≤ 2 ^ (-18 : Int) ∧ |h - (b + 2 / 5)| ≤ 2 ^ (-18 : Int)

/-- The sides a road's rectangle gets from two 32-bit ends. -/
theorem spans_widen (a b : Int32) :
    Spans (Float.ofInt (min a.toInt b.toInt) - roadHalfWidth)
      (Float.ofInt (max a.toInt b.toInt) + roadHalfWidth) (min a.toInt b.toInt)
      (max a.toInt b.toInt) := by
  obtain ⟨l, hl, el⟩ := (exactValue_widen _ (abs_min_toInt_le a b)).1
  obtain ⟨h, hh, eh⟩ := (exactValue_widen _ (abs_max_toInt_le a b)).2
  exact ⟨l, h, hl, hh, el, eh⟩

variable {lo hi x : Float} {a b : Int}

/-- A number within `2^-15` of the extent lies between the sides. -/
theorem Spans.mem (hs : Spans lo hi a b) {v : ℚ} (hx : exactValue x = some v)
    (ha : (a : ℚ) - 2 ^ (-15 : Int) ≤ v) (hb : v ≤ b + 2 ^ (-15 : Int)) : lo ≤ x ∧ x ≤ hi := by
  obtain ⟨l, h, hl, hh, el, eh⟩ := hs
  rw [le_iff hl hx, le_iff hx hh]
  rw [abs_le] at el eh
  norm_num at el eh ha hb
  constructor <;> linarith

end Spans

section Encloses

/-- Along one axis a rectangle runs from `lo` to `hi` around the integer extent `[a, b]`:
each side lies past its end of the extent, by less than a half. -/
def Encloses (lo hi : Float) (a b : Int) : Prop :=
  ∃ l h, exactValue lo = some l ∧ exactValue hi = some h ∧
    (a : ℚ) - 1 / 2 < l ∧ l ≤ a ∧ (b : ℚ) ≤ h ∧ h < b + 1 / 2

/-- The sides a rectangle gets from the ends `a` and `b` of an extent and an offset from
`0` to the road half-width. -/
theorem encloses_widen {a b : Int} (ha : |a| ≤ 2 ^ 31) (hb : |b| ≤ 2 ^ 31) {o : Float}
    (h₀ : 0.0 ≤ o) (h₁ : o ≤ roadHalfWidth) : Encloses (Float.ofInt a - o) (Float.ofInt b + o) a b := by
  obtain ⟨w, hw, hw₀, hw₁⟩ := exactValue_offset h₀ h₁
  have hw₁' : w ≤ 1 := le_trans hw₁ (by norm_num)
  obtain ⟨l, hl, hl₁, hl₂⟩ := exactValue_lowSide a ha hw hw₀ hw₁'
  obtain ⟨h, hh, hh₁, hh₂⟩ := exactValue_highSide b hb hw hw₀ hw₁'
  refine ⟨l, h, hl, hh, ?_, hl₂, hh₁, ?_⟩ <;> norm_num at hw₁ hl₁ hh₂ ⊢ <;> linarith

variable {lo hi x : Float} {a b : Int}

/-- Each side lies on itself, and the low side below the high one. -/
theorem Encloses.sides (hs : Encloses lo hi a b) (hab : a ≤ b) : lo ≤ lo ∧ lo ≤ hi ∧ hi ≤ hi := by
  obtain ⟨l, h, hl, hh, -, hla, hbh, -⟩ := hs
  have hab' : (a : ℚ) ≤ b := by exact_mod_cast hab
  rw [le_iff hl hl, le_iff hl hh, le_iff hh hh]
  exact ⟨le_rfl, by linarith, le_rfl⟩

/-- A double between the sides rounds to a cell of the extent. -/
theorem Encloses.toGrid_mem (hs : Encloses lo hi a b) (ha : Int32.minValue.toInt ≤ a)
    (hb : b ≤ Int32.maxValue.toInt) (h₁ : lo ≤ x) (h₂ : x ≤ hi) :
    a ≤ (Binary64.ofFloat x).toGrid.toInt ∧ (Binary64.ofFloat x).toGrid.toInt ≤ b := by
  obtain ⟨l, h, hl, hh, hal, -, -, hhb⟩ := hs
  obtain ⟨v, hv, hlv, hvh⟩ := exactValue_of_le_of_le hl hh h₁ h₂
  exact DogCourier.toGrid_mem hv ha hb (by linarith) (by linarith)

/-- A double equal to one between the sides is between them too. -/
theorem Encloses.of_beq {x' : Float} (hs : Encloses lo hi a b) (h₁ : lo ≤ x) (h₂ : x ≤ hi)
    (he : (x == x') = true) : lo ≤ x' ∧ x' ≤ hi := by
  obtain ⟨l, h, hl, hh, -, -, -, -⟩ := hs
  obtain ⟨v, hv, hlv, hvh⟩ := exactValue_of_le_of_le hl hh h₁ h₂
  have hv' := exactValue_of_beq hv he
  rw [le_iff hl hv', le_iff hv' hh]
  exact ⟨hlv, hvh⟩

end Encloses

section Road

variable {r : Road} {p : Point}

theorem rect_spans_x (r : Road) :
    Spans (r.rect roadHalfWidth).x0 (r.rect roadHalfWidth).x1
      (min r.start.x.toInt r.finish.x.toInt) (max r.start.x.toInt r.finish.x.toInt) :=
  spans_widen _ _

theorem rect_spans_y (r : Road) :
    Spans (r.rect roadHalfWidth).y0 (r.rect roadHalfWidth).y1
      (min r.start.y.toInt r.finish.y.toInt) (max r.start.y.toInt r.finish.y.toInt) :=
  spans_widen _ _

theorem Rect.contains_iff {q : Rect} :
    q.contains p = true ↔ q.x0 ≤ p.x ∧ p.x ≤ q.x1 ∧ q.y0 ≤ p.y ∧ p.y ≤ q.y1 := by
  simp [Rect.contains, and_assoc]

/-- A cell within both extents of a road along a row or a column lies on its centre
line. -/
theorem hasCell_of_extent {c : Cell} (hr : r.isHorizontal = true ∨ r.isVertical = true)
    (hx : min r.start.x.toInt r.finish.x.toInt ≤ c.x.toInt ∧
      c.x.toInt ≤ max r.start.x.toInt r.finish.x.toInt)
    (hy : min r.start.y.toInt r.finish.y.toInt ≤ c.y.toInt ∧
      c.y.toInt ≤ max r.start.y.toInt r.finish.y.toInt) :
    r.hasCell c = true := by
  unfold Road.hasCell
  by_cases hh : r.isHorizontal = true
  · rw [if_pos hh]
    have hrow : r.start.y = r.finish.y := by simpa [Road.isHorizontal] using hh
    rw [← hrow, min_self, max_self] at hy
    have : c.y = r.start.y := Int32.toInt_inj.mp (le_antisymm hy.2 hy.1)
    simp [this, hx.1, hx.2]
  · rw [if_neg hh]
    have hcol : r.start.x = r.finish.x := by simpa [Road.isVertical] using hr.resolve_left hh
    rw [← hcol, min_self, max_self] at hx
    have : c.x = r.start.x := Int32.toInt_inj.mp (le_antisymm hx.2 hx.1)
    simp [this, hy.1, hy.2]

/-- The rectangle of a road under an offset from `0` to the road half-width, axis by
axis. -/
theorem rect_encloses_x (r : Road) {o : Float} (h₀ : 0.0 ≤ o) (h₁ : o ≤ roadHalfWidth) :
    Encloses (r.rect o).x0 (r.rect o).x1
      (min r.start.x.toInt r.finish.x.toInt) (max r.start.x.toInt r.finish.x.toInt) :=
  encloses_widen (abs_min_toInt_le _ _) (abs_max_toInt_le _ _) h₀ h₁

theorem rect_encloses_y (r : Road) {o : Float} (h₀ : 0.0 ≤ o) (h₁ : o ≤ roadHalfWidth) :
    Encloses (r.rect o).y0 (r.rect o).y1
      (min r.start.y.toInt r.finish.y.toInt) (max r.start.y.toInt r.finish.y.toInt) :=
  encloses_widen (abs_min_toInt_le _ _) (abs_max_toInt_le _ _) h₀ h₁

/-- A point of the rectangle of a road along a row or a column lies in a cell of the
road's centre line: the rectangle reaches less than a half beyond it. -/
theorem hasCell_ofPoint (hr : r.isHorizontal = true ∨ r.isVertical = true) {o : Float}
    (h₀ : 0.0 ≤ o) (h₁ : o ≤ roadHalfWidth) (hp : (r.rect o).contains p = true) :
    r.hasCell (Cell.ofPoint p) = true := by
  obtain ⟨hx₁, hx₂, hy₁, hy₂⟩ := Rect.contains_iff.mp hp
  have hlo (a b : Int32) : Int32.minValue.toInt ≤ min a.toInt b.toInt :=
    le_min (Int32.minValue_le_toInt a) (Int32.minValue_le_toInt b)
  have hhi (a b : Int32) : max a.toInt b.toInt ≤ Int32.maxValue.toInt :=
    max_le (Int32.toInt_le a) (Int32.toInt_le b)
  exact hasCell_of_extent hr ((rect_encloses_x r h₀ h₁).toGrid_mem (hlo _ _) (hhi _ _) hx₁ hx₂)
    ((rect_encloses_y r h₀ h₁).toGrid_mem (hlo _ _) (hhi _ _) hy₁ hy₂)

end Road

section Network

/-- A network as maps build it: at least one road, each along a row or a column, widened
by the road half-width. -/
structure RoadNet.Sound (net : RoadNet) : Prop where
  offset : net.offset = roadHalfWidth
  aligned : ∀ r ∈ net.roads, r.isHorizontal = true ∨ r.isVertical = true
  nonempty : 0 < net.roads.size

/-- A network whose roads each run along a row or a column, as `Road.horizontal` and
`Road.vertical` build them, widened by an offset from `0` to the road half-width. -/
structure RoadNet.Narrow (net : RoadNet) : Prop where
  aligned : ∀ r ∈ net.roads, r.isHorizontal = true ∨ r.isVertical = true
  offset_nonneg : 0.0 ≤ net.offset
  offset_le : net.offset ≤ roadHalfWidth

theorem RoadNet.Sound.narrow {net : RoadNet} (h : net.Sound) : net.Narrow where
  aligned := h.aligned
  offset_nonneg := h.offset ▸ (le_iff exactValue_zero exactValue_roadHalfWidth).mpr (by norm_num)
  offset_le := h.offset ▸ (le_iff exactValue_roadHalfWidth exactValue_roadHalfWidth).mpr le_rfl

variable {net : RoadNet} {c : Cell} {p : Point}

theorem cellContains_iff : net.cellContains c p = true ↔
    ∃ r ∈ net.roads, r.hasCell c = true ∧ (r.rect net.offset).contains p = true := by
  simp [RoadNet.cellContains, RoadNet.mem_rectsAt, and_assoc]

/-- The surface is the union of the road rectangles. -/
theorem contains_iff (hnet : net.Narrow) :
    net.contains p = true ↔ ∃ r ∈ net.roads, (r.rect net.offset).contains p = true := by
  unfold RoadNet.contains
  rw [cellContains_iff]
  constructor
  · rintro ⟨r, hr, -, hp⟩
    exact ⟨r, hr, hp⟩
  · rintro ⟨r, hr, hp⟩
    exact ⟨r, hr, hasCell_ofPoint (hnet.aligned r hr) hnet.offset_nonneg hnet.offset_le hp, hp⟩

/-- A point that a rectangle registered at any cell holds is on the surface. -/
theorem contains_of_cellContains (hnet : net.Narrow) (h : net.cellContains c p = true) :
    net.contains p = true := by
  obtain ⟨r, hr, -, hp⟩ := cellContains_iff.mp h
  exact (contains_iff hnet).mpr ⟨r, hr, hp⟩

end Network

section Boundary

/-- One offer of `Rect.boundaryToward`: made when `c` holds, it replaces the best offer
so far when strictly nearer. -/
def offerIf (c : Bool) (best : Option (Point × Float)) (p : Point) (d : Float) :
    Option (Point × Float) :=
  if c then
    match best with
    | some (_, bd) => if d < bd then some (p, d) else best
    | none => some (p, d)
  else best

/-- The nearest edge point toward a target is the last of four offers, one per side. -/
theorem boundaryToward_eq (q : Rect) (target : Point) :
    q.boundaryToward target =
      let inX := target.x ≥ q.x0 && target.x ≤ q.x1
      let inY := target.y ≥ q.y0 && target.y ≤ q.y1
      offerIf (inY && target.x ≥ q.x1)
        (offerIf (inY && target.x ≤ q.x0)
          (offerIf (inX && target.y ≥ q.y1)
            (offerIf (inX && target.y ≤ q.y0) none ⟨target.x, q.y0⟩ (q.y0 - target.y))
            ⟨target.x, q.y1⟩ (target.y - q.y1))
          ⟨q.x0, target.y⟩ (q.x0 - target.x))
        ⟨q.x1, target.y⟩ (target.x - q.x1) := by
  rfl

/-- An offer keeps the best so far or is the one made, under its condition. -/
theorem offerIf_mem {c : Bool} {best : Option (Point × Float)} {p : Point} {d : Float}
    {o : Point × Float} (h : offerIf c best p d = some o) :
    (c = true ∧ o = (p, d)) ∨ best = some o := by
  unfold offerIf at h
  split at h
  · rename_i hc
    split at h
    · split at h
      · exact .inl ⟨hc, (Option.some.inj h).symm⟩
      · exact .inr h
    · exact .inl ⟨hc, (Option.some.inj h).symm⟩
  · exact .inr h

/-- The edge point a rectangle offers lies in it, when the rectangle holds its two
corners. -/
theorem boundaryToward_contains {q : Rect} {target p : Point} {d : Float}
    (hq : q.contains ⟨q.x0, q.y0⟩ = true ∧ q.contains ⟨q.x1, q.y1⟩ = true)
    (h : q.boundaryToward target = some (p, d)) : q.contains p = true := by
  obtain ⟨hx0, hx01, hy0, hy01⟩ := Rect.contains_iff.mp hq.1
  obtain ⟨-, hx1, -, hy1⟩ := Rect.contains_iff.mp hq.2
  rw [boundaryToward_eq] at h
  rw [Rect.contains_iff]
  -- peel the offers from the last side to the first; each is made under its own condition
  rcases offerIf_mem h with ⟨hc, he⟩ | h
  · obtain ⟨rfl, -⟩ := Prod.mk.inj he
    simp only [Bool.and_eq_true, decide_eq_true_eq] at hc
    exact ⟨hx01, hx1, hc.1.1, hc.1.2⟩
  rcases offerIf_mem h with ⟨hc, he⟩ | h
  · obtain ⟨rfl, -⟩ := Prod.mk.inj he
    simp only [Bool.and_eq_true, decide_eq_true_eq] at hc
    exact ⟨hx0, hx01, hc.1.1, hc.1.2⟩
  rcases offerIf_mem h with ⟨hc, he⟩ | h
  · obtain ⟨rfl, -⟩ := Prod.mk.inj he
    simp only [Bool.and_eq_true, decide_eq_true_eq] at hc
    exact ⟨hc.1.1, hc.1.2, hy01, hy1⟩
  rcases offerIf_mem h with ⟨hc, he⟩ | h
  · obtain ⟨rfl, -⟩ := Prod.mk.inj he
    simp only [Bool.and_eq_true, decide_eq_true_eq] at hc
    exact ⟨hc.1.1, hc.1.2, hy0, hy01⟩
  cases h

end Boundary

section Movement

variable {net : RoadNet} {target : Point}

/-- A road's rectangle holds its two corners. -/
theorem rect_corners (r : Road) {o : Float} (h₀ : 0.0 ≤ o) (h₁ : o ≤ roadHalfWidth) :
    (r.rect o).contains ⟨(r.rect o).x0, (r.rect o).y0⟩ ∧
      (r.rect o).contains ⟨(r.rect o).x1, (r.rect o).y1⟩ := by
  obtain ⟨hx0, hx01, hx1⟩ := (rect_encloses_x r h₀ h₁).sides min_le_max
  obtain ⟨hy0, hy01, hy1⟩ := (rect_encloses_y r h₀ h₁).sides min_le_max
  simp only [Rect.contains_iff]
  exact ⟨⟨hx0, hx01, hy0, hy01⟩, ⟨hx01, hx1, hy01, hy1⟩⟩

/-- A road's rectangle holds every point equal to one it holds. -/
theorem rect_contains_of_beq (r : Road) {o : Float} (h₀ : 0.0 ≤ o) (h₁ : o ≤ roadHalfWidth)
    {p p' : Point} (hp : (r.rect o).contains p = true) (he : (p == p') = true) :
    (r.rect o).contains p' = true := by
  change (p.x == p'.x && p.y == p'.y) = true at he
  rw [Bool.and_eq_true] at he
  obtain ⟨hx₁, hx₂, hy₁, hy₂⟩ := Rect.contains_iff.mp hp
  obtain ⟨hx₁', hx₂'⟩ := (rect_encloses_x r h₀ h₁).of_beq hx₁ hx₂ he.1
  obtain ⟨hy₁', hy₂'⟩ := (rect_encloses_y r h₀ h₁).of_beq hy₁ hy₂ he.2
  exact Rect.contains_iff.mpr ⟨hx₁', hx₂', hy₁', hy₂'⟩

/-- A point equal to one on the surface is on the surface. -/
theorem contains_of_beq (hnet : net.Narrow) {p p' : Point} (hp : net.contains p = true)
    (he : (p == p') = true) : net.contains p' = true := by
  obtain ⟨r, hr, hrp⟩ := (contains_iff hnet).mp hp
  exact (contains_iff hnet).mpr
    ⟨r, hr, rect_contains_of_beq r hnet.offset_nonneg hnet.offset_le hrp he⟩

/-- A point of the surface kept by its bit patterns is read back on the surface. -/
theorem contains_toPoint_ofPoint (hnet : net.Narrow) {p : Point} (hp : net.contains p = true) :
    net.contains (Coords.ofPoint p).toPoint = true := by
  obtain ⟨r, hr, hrp⟩ := (contains_iff hnet).mp hp
  obtain ⟨h₁, h₂, h₃, h₄⟩ := Rect.contains_iff.mp hrp
  obtain ⟨l, h, hl, hh, -⟩ := rect_encloses_x r hnet.offset_nonneg hnet.offset_le
  obtain ⟨vx, hvx, -, -⟩ := exactValue_of_le_of_le hl hh h₁ h₂
  obtain ⟨l', h', hl', hh', -⟩ := rect_encloses_y r hnet.offset_nonneg hnet.offset_le
  obtain ⟨vy, hvy, -, -⟩ := exactValue_of_le_of_le hl' hh' h₃ h₄
  -- each coordinate read back is the same number
  have he : (p == (Coords.ofPoint p).toPoint) = true := by
    change (p.x == Float.ofBits p.x.toBits && p.y == Float.ofBits p.y.toBits) = true
    rw [Bool.and_eq_true, beq_iff hvx (exactValue_ofBits_toBits hvx),
      beq_iff hvy (exactValue_ofBits_toBits hvy)]
    exact ⟨rfl, rfl⟩
  exact contains_of_beq hnet hp he

theorem foldl_nearer_mem :
    ∀ (os : List (Point × Float)) (o : Point × Float), os.foldl RoadNet.nearer o ∈ o :: os
  | [], o => by simp
  | o' :: os, o => by
    have hn : RoadNet.nearer o o' = o' ∨ RoadNet.nearer o o' = o := by
      unfold RoadNet.nearer
      split <;> simp
    rw [List.foldl_cons]
    rcases List.mem_cons.mp (foldl_nearer_mem os (RoadNet.nearer o o')) with h | h
    · rw [h]
      rcases hn with e | e <;> simp [e]
    · exact List.mem_cons_of_mem _ (List.mem_cons_of_mem _ h)

/-- The nearest edge point at a cell is offered by a rectangle registered there. -/
theorem nearestBoundary_mem {c : Cell} {p : Point} (h : net.nearestBoundary c target = some p) :
    ∃ q ∈ net.rectsAt c, ∃ d, q.boundaryToward target = some (p, d) := by
  unfold RoadNet.nearestBoundary at h
  dsimp only at h
  split at h
  · cases h
  · rename_i o os hoffers
    have hmem : os.foldl RoadNet.nearer o ∈ (net.rectsAt c).filterMap (·.boundaryToward target) :=
      hoffers ▸ foldl_nearer_mem os o
    obtain ⟨q, hq, hb⟩ := List.mem_filterMap.mp hmem
    cases h
    exact ⟨q, hq, _, hb⟩

/-- The nearest edge point at any cell is on the surface. -/
theorem nearestBoundary_contains (hnet : net.Narrow) {c : Cell} {p : Point}
    (h : net.nearestBoundary c target = some p) : net.contains p = true := by
  obtain ⟨q, hq, d, hb⟩ := nearestBoundary_mem h
  obtain ⟨r, hr, -, rfl⟩ := RoadNet.mem_rectsAt.mp hq
  exact (contains_iff hnet).mpr
    ⟨r, hr, boundaryToward_contains (rect_corners r hnet.offset_nonneg hnet.offset_le) hb⟩

/-- Hopping from a point of the surface ends on the surface. -/
theorem hop_contains (hnet : net.Narrow) (fuel : Nat) {current p : Point}
    (hc : net.contains current = true) (h : net.hop target fuel current = .ok p) :
    net.contains p = true := by
  induction fuel generalizing current with
  | zero => cases h
  | succ fuel ih =>
    unfold RoadNet.hop at h
    dsimp only at h
    split at h
    · rename_i hin
      cases h
      exact contains_of_cellContains hnet hin
    · -- the next position is an offered edge point, or the current one when none is offered
      have hnext : net.contains ((net.nearestBoundary (Cell.ofPoint current) target).getD current)
          = true := by
        cases hb : net.nearestBoundary (Cell.ofPoint current) target with
        | none => exact hc
        | some b => exact nearestBoundary_contains hnet hb
      split at h
      · cases h
        exact hc
      · exact ih hnext h

/-- A clamped move from a point of the surface ends on the surface. -/
theorem clamp_contains (hnet : net.Narrow) {source p : Point} (hs : net.contains source = true)
    (h : net.clamp source target = .ok p) : net.contains p = true := by
  unfold RoadNet.clamp at h
  split at h
  · rename_i heq
    cases h
    exact contains_of_beq hnet hs heq
  · exact hop_contains hnet _ hs h

/-- Every point a hop ends at is the target, the point it started from, or an edge point
that a road's rectangle offers toward the target. -/
theorem hop_origin (fuel : Nat) {current p : Point} (h : net.hop target fuel current = .ok p) :
    p = target ∨ p = current ∨
      ∃ r ∈ net.roads, ∃ d, (r.rect net.offset).boundaryToward target = some (p, d) := by
  induction fuel generalizing current with
  | zero => cases h
  | succ fuel ih =>
    unfold RoadNet.hop at h
    dsimp only at h
    split at h
    · cases h
      exact .inl rfl
    split at h
    · cases h
      exact .inr (.inl rfl)
    rcases ih h with hp | hp | hp
    · exact .inl hp
    · -- the hop moved to an offered edge point, or stayed where no edge point was offered
      cases hb : net.nearestBoundary (Cell.ofPoint current) target with
      | none => exact .inr (.inl (by rw [hp, hb]; rfl))
      | some b =>
        obtain ⟨q, hq, d, hbt⟩ := nearestBoundary_mem hb
        obtain ⟨r, hr, -, rfl⟩ := RoadNet.mem_rectsAt.mp hq
        exact .inr (.inr ⟨r, hr, d, by rw [hp, hb]; exact hbt⟩)
    · exact .inr (.inr hp)

/-- Every point a clamped move ends at is the target, the source, or an offered edge
point. -/
theorem clamp_origin {source p : Point} (h : net.clamp source target = .ok p) :
    p = target ∨ p = source ∨
      ∃ r ∈ net.roads, ∃ d, (r.rect net.offset).boundaryToward target = some (p, d) := by
  unfold RoadNet.clamp at h
  split at h
  · cases h
    exact .inl rfl
  · exact hop_origin _ h

/-- A clamped move from a point of the surface, toward any target, ends on the surface,
for every offset from `0` to the road half-width: at the target when a rectangle at the
current cell holds it, at the point where no hop moves it further, or at an edge point a
rectangle offers toward the target. -/
theorem clamp_lands_on_surface (hnet : net.Narrow) {source p : Point}
    (hs : net.contains source = true) (h : net.clamp source target = .ok p) :
    net.contains p = true ∧ (p = target ∨ p = source ∨
      ∃ r ∈ net.roads, ∃ d, (r.rect net.offset).boundaryToward target = some (p, d)) :=
  ⟨clamp_contains hnet hs h, clamp_origin h⟩

/-- On a single road from `(0, 0)` to `(10, 0)`, a move from its start toward `(5, 3)`,
off the road, succeeds and ends on the surface. -/
theorem clamp_lands_on_surface_edge :
    let net : RoadNet := ⟨#[Road.horizontal ⟨0, 0⟩ 10], roadHalfWidth⟩
    ∃ p, net.clamp ⟨0.0, 0.0⟩ ⟨5.0, 3.0⟩ = .ok p ∧ net.contains p = true := by
  intro net
  have hnet : net.Sound := ⟨rfl, by decide, by decide⟩
  have hs : net.contains ⟨0.0, 0.0⟩ = true := by decide +kernel
  have hok : (net.clamp ⟨0.0, 0.0⟩ ⟨5.0, 3.0⟩).isOk = true := by decide +kernel
  cases h : net.clamp ⟨0.0, 0.0⟩ ⟨5.0, 3.0⟩ with
  | ok p => exact ⟨p, rfl, (clamp_lands_on_surface hnet.narrow hs h).1⟩
  | error e => simp [h, Except.isOk, Except.toBool] at hok

end Movement

section CentreLine

variable {net : RoadNet} {r : Road}

/-- The fraction `pointAt` clamps into `[0, 1]` is a number there, unless it was a NaN. -/
theorem exactValue_clampUnit {t : Float} (ht : t.toModel.unpack ≠ .notANumber) :
    ∃ τ, exactValue (if t < 0.0 then 0.0 else if t > 1.0 then 1.0 else t) = some τ ∧
      0 ≤ τ ∧ τ ≤ 1 := by
  split
  · exact ⟨0, exactValue_zero, le_rfl, zero_le_one⟩
  · split
    · exact ⟨1, exactValue_one, zero_le_one, le_rfl⟩
    · rename_i h0 h1
      exact unit_of_not_lt ht h0 h1

/-- A point of a road's centre line, at a fraction that is no NaN, lies in its rectangle. -/
theorem pointAt_mem_rect (r : Road) {t : Float} (ht : t.toModel.unpack ≠ .notANumber) :
    (r.rect roadHalfWidth).contains (r.pointAt t) = true := by
  obtain ⟨τ, hτ, h0, h1⟩ := exactValue_clampUnit ht
  unfold Road.pointAt
  dsimp only
  generalize (if t < 0.0 then 0.0 else if t > 1.0 then 1.0 else t) = t' at hτ
  obtain ⟨vx, hvx, hx₁, hx₂⟩ :=
    exactValue_lerp (abs_toInt_le r.start.x) (abs_toInt_le r.finish.x) hτ h0 h1
  obtain ⟨vy, hvy, hy₁, hy₂⟩ :=
    exactValue_lerp (abs_toInt_le r.start.y) (abs_toInt_le r.finish.y) hτ h0 h1
  obtain ⟨h₁, h₂⟩ := (rect_spans_x r).mem hvx hx₁ hx₂
  obtain ⟨h₃, h₄⟩ := (rect_spans_y r).mem hvy hy₁ hy₂
  exact Rect.contains_iff.mpr ⟨h₁, h₂, h₃, h₄⟩

/-- A road's start lies in its rectangle. -/
theorem start_mem_rect (r : Road) : (r.rect roadHalfWidth).contains r.start.toPoint = true := by
  -- each coordinate converts to within `2^-19` of an end of the extent
  have hend (a b : Int32) : ∃ v, exactValue (Float.ofInt a.toInt) = some v ∧
      ((min a.toInt b.toInt : Int) : ℚ) - 2 ^ (-15 : Int) ≤ v ∧
      v ≤ ((max a.toInt b.toInt : Int) : ℚ) + 2 ^ (-15 : Int) := by
    obtain ⟨v, hv, herr⟩ := exactValue_ofInt a.toInt (abs_toInt_le a)
    have hmin : ((min a.toInt b.toInt : Int) : ℚ) ≤ a.toInt := by exact_mod_cast min_le_left _ _
    have hmax : (a.toInt : ℚ) ≤ ((max a.toInt b.toInt : Int) : ℚ) := by
      exact_mod_cast le_max_left _ _
    have e15 : (2 : ℚ) ^ (-15 : Int) = 1 / 32768 := by norm_num
    rw [abs_le] at herr
    norm_num at herr
    rw [e15]
    exact ⟨v, hv, by linarith, by linarith⟩
  obtain ⟨vx, hvx, hx₁, hx₂⟩ := hend r.start.x r.finish.x
  obtain ⟨vy, hvy, hy₁, hy₂⟩ := hend r.start.y r.finish.y
  obtain ⟨h₁, h₂⟩ := (rect_spans_x r).mem hvx hx₁ hx₂
  obtain ⟨h₃, h₄⟩ := (rect_spans_y r).mem hvy hy₁ hy₂
  exact Rect.contains_iff.mpr ⟨h₁, h₂, h₃, h₄⟩

/-- A point of a road's centre line is on the surface. -/
theorem pointAt_contains (hnet : net.Sound) (hr : r ∈ net.roads) {t : Float}
    (ht : t.toModel.unpack ≠ .notANumber) : net.contains (r.pointAt t) = true :=
  (contains_iff hnet.narrow).mpr ⟨r, hr, hnet.offset ▸ pointAt_mem_rect r ht⟩

/-- A road's start is on the surface. -/
theorem start_contains (hnet : net.Sound) (hr : r ∈ net.roads) :
    net.contains r.start.toPoint = true :=
  (contains_iff hnet.narrow).mpr ⟨r, hr, hnet.offset ▸ start_mem_rect r⟩

end CentreLine

end DogCourier
