import DogCourier.Proofs.Road.Index
import DogCourier.Proofs.Session.Safety
import DogCourier.Proofs.Float.Total
import Mathlib.Data.Prod.Lex

/-! # How many hops a clamped move takes

    `clamp` hops from edge point to edge point toward its target and gives up after
    `maxHops` hops. On roads along rows and columns, widened by at most the road
    half-width, a move that starts at a point equal to itself settles within one hop per
    road:

    * a road's offer toward the target does not depend on where the hop starts
      (`RoadNet.offerOf`), and the road that made an offer is registered at the cell of
      the point it offered (`mem_roadsAt_of_offer`);
    * the nearest offer at a cell is the least in distance, by the total order of
      doubles, and then in road order (`nearestBoundary_least`);
    * so a hop that moves lands on an offer strictly before the one it left
      (`hop_moves_to_earlier_offer`), the number of offers before the current one falls
      at every hop (`offersBefore_lt_of_lt`), and a move settles within one hop per road
      (`hop_settles`).

    A start with a NaN coordinate is the exception: where no offer is made at its cell
    the hop finds no change of position, yet the start is not equal to itself, so the
    loop stays put until the limit (`hop_stuck`). -/

namespace DogCourier

namespace RoadNet

variable (net : RoadNet) (target : Point)

/-- The edge point road `i` offers toward `target`, with its distance: the same at every
cell the road is registered at. -/
def offerOf (i : Nat) : Option (Point × Float) :=
  ((net.roads[i]!).rect net.offset).boundaryToward target

/-- The offers made at a cell, each with the road that made it, in road order. -/
def offersAt (c : Cell) : List (Nat × (Point × Float)) :=
  (net.roadsAt c).filterMap fun i => (net.offerOf target i).map (i, ·)

end RoadNet

/-- Where an offer of distance `d` from road `i` stands in the order the nearest offer is
chosen by: its distance in the total order of doubles, then its road. -/
def offerKey (d : Float) (i : Nat) : Lex (Nat × Nat) :=
  toLex ((Binary64.ofFloat d).totalKey.toNat, i)

/-- The number of roads whose offer toward `target` comes strictly before `k`. -/
def RoadNet.offersBefore (net : RoadNet) (target : Point) (k : Lex (Nat × Nat)) : Nat :=
  ((Finset.range net.roads.size).filter fun j =>
    (net.offerOf target j).any fun o => decide (offerKey o.2 j < k)).card

namespace RoadNet

variable {net : RoadNet} {target : Point}

section Offers

theorem mem_offersAt {c : Cell} {i : Nat} {o : Point × Float} :
    (i, o) ∈ net.offersAt target c ↔ i ∈ net.roadsAt c ∧ net.offerOf target i = some o := by
  simp [offersAt, Option.map_eq_some_iff]

/-- The offers at a cell are those its rectangles make, in the same order. -/
theorem offersAt_map_snd (c : Cell) :
    (net.offersAt target c).map (·.2) = (net.rectsAt c).filterMap (·.boundaryToward target) := by
  rw [rectsAt_eq, List.filterMap_map, offersAt, List.map_filterMap]
  simp [offerOf, Function.comp_def]

theorem offersAt_increasing (c : Cell) :
    (net.offersAt target c).Pairwise fun a b => a.1 < b.1 := by
  refine (roadsAt_increasing c).filterMap _ ?_
  intro i j hij a ha b hb
  obtain ⟨o, -, rfl⟩ := Option.map_eq_some_iff.mp ha
  obtain ⟨o', -, rfl⟩ := Option.map_eq_some_iff.mp hb
  exact hij

end Offers

section Least

/-- `nearer` on offers that carry the road that made them. -/
def nearerOf (a b : Nat × (Point × Float)) : Nat × (Point × Float) :=
  if Binary64.totalLt (Binary64.ofFloat b.2.2) (Binary64.ofFloat a.2.2) then b else a

theorem nearerOf_snd (a b : Nat × (Point × Float)) : (nearerOf a b).2 = nearer a.2 b.2 := by
  unfold nearerOf nearer
  split <;> rfl

theorem nearerOf_eq (a b : Nat × (Point × Float)) : nearerOf a b = a ∨ nearerOf a b = b := by
  unfold nearerOf
  split
  · exact .inr rfl
  · exact .inl rfl

/-- Of two offers from roads in order, `nearerOf` keeps the one with the smaller key. -/
theorem offerKey_nearerOf {a b : Nat × (Point × Float)} (hab : a.1 < b.1) :
    offerKey (nearerOf a b).2.2 (nearerOf a b).1 ≤ offerKey a.2.2 a.1 ∧
      offerKey (nearerOf a b).2.2 (nearerOf a b).1 ≤ offerKey b.2.2 b.1 := by
  unfold nearerOf offerKey
  simp only [Binary64.totalLt, decide_eq_true_eq, UInt64.lt_iff_toNat_lt]
  split
  · rename_i hlt
    exact ⟨le_of_lt (Prod.Lex.toLex_lt_toLex.mpr (.inl hlt)), le_rfl⟩
  · rename_i hge
    refine ⟨le_rfl, Prod.Lex.toLex_le_toLex.mpr ?_⟩
    -- as near in the total order: the earlier road is kept
    rcases Nat.lt_or_eq_of_le (Nat.not_lt.mp hge) with hlt | heq
    · exact .inl hlt
    · exact .inr ⟨heq, le_of_lt hab⟩

/-- Folding `nearer` over offers from roads in increasing order gives the offer with the
least key. -/
theorem foldl_nearer_least : ∀ (os : List (Nat × (Point × Float))) (a : Nat × (Point × Float)),
    (a :: os).Pairwise (fun x y => x.1 < y.1) →
      ∃ b ∈ a :: os, (os.map (·.2)).foldl nearer a.2 = b.2 ∧
        ∀ o ∈ a :: os, offerKey b.2.2 b.1 ≤ offerKey o.2.2 o.1
  | [], a, _ => ⟨a, List.mem_singleton_self a, rfl, fun o ho => by rw [List.mem_singleton.mp ho]⟩
  | x :: os, a, hp => by
    obtain ⟨hax, hrest⟩ := List.pairwise_cons.mp hp
    have hxos := List.pairwise_cons.mp hrest
    -- the offer kept after the first comparison starts the rest of the fold
    have hwle := offerKey_nearerOf (hax x List.mem_cons_self)
    have hpw : (nearerOf a x :: os).Pairwise (fun x y => x.1 < y.1) := by
      refine List.pairwise_cons.mpr ⟨fun o ho => ?_, hxos.2⟩
      rcases nearerOf_eq a x with h | h <;> rw [h]
      · exact hax o (List.mem_cons_of_mem _ ho)
      · exact hxos.1 o ho
    obtain ⟨b, hb, hfold, hmin⟩ := foldl_nearer_least os (nearerOf a x) hpw
    refine ⟨b, ?_, by rw [List.map_cons, List.foldl_cons, ← nearerOf_snd, hfold], ?_⟩
    · rcases List.mem_cons.mp hb with rfl | hb
      · rcases nearerOf_eq a x with h | h <;> rw [h] <;> simp
      · exact List.mem_cons_of_mem _ (List.mem_cons_of_mem _ hb)
    · intro o ho
      have hbw := hmin (nearerOf a x) List.mem_cons_self
      rcases List.mem_cons.mp ho with rfl | ho
      · exact le_trans hbw hwle.1
      rcases List.mem_cons.mp ho with rfl | ho
      · exact le_trans hbw hwle.2
      · exact hmin o (List.mem_cons_of_mem _ ho)

/-- The nearest edge point at a cell is offered by a road registered there, and its offer
has the least key of all offers made there. -/
theorem nearestBoundary_least {c : Cell} {next : Point}
    (h : net.nearestBoundary c target = some next) :
    ∃ i d, (i, (next, d)) ∈ net.offersAt target c ∧
      ∀ o ∈ net.offersAt target c, offerKey d i ≤ offerKey o.2.2 o.1 := by
  unfold nearestBoundary at h
  dsimp only at h
  rw [← offersAt_map_snd] at h
  have hinc : (net.offersAt target c).Pairwise fun a b => a.1 < b.1 := offersAt_increasing c
  cases hoff : net.offersAt target c with
  | nil => simp [hoff] at h
  | cons a os =>
    rw [hoff] at hinc
    simp only [hoff, List.map_cons, Option.some.injEq] at h
    obtain ⟨b, hb, hfold, hmin⟩ := foldl_nearer_least os a hinc
    rw [hfold] at h
    subst h
    exact ⟨b.1, b.2.2, hb, hmin⟩

/-- A cell where some offer is made has a nearest edge point. -/
theorem exists_nearestBoundary {c : Cell} {a : Nat × (Point × Float)}
    (ha : a ∈ net.offersAt target c) : ∃ next, net.nearestBoundary c target = some next := by
  unfold nearestBoundary
  dsimp only
  rw [← offersAt_map_snd]
  cases hoff : net.offersAt target c with
  | nil => simp [hoff] at ha
  | cons b os => exact ⟨_, rfl⟩

end Least

section Step

/-- A point of a road's rectangle has no NaN coordinate, so it equals itself. -/
theorem beq_self_of_rect (r : Road) {o : Float} (h₀ : 0.0 ≤ o) (h₁ : o ≤ roadHalfWidth)
    {p : Point} (hp : (r.rect o).contains p = true) : (p == p) = true := by
  obtain ⟨hx₁, hx₂, hy₁, hy₂⟩ := Rect.contains_iff.mp hp
  obtain ⟨l, h, hl, hh, -⟩ := rect_encloses_x r h₀ h₁
  obtain ⟨vx, hvx, -, -⟩ := exactValue_of_le_of_le hl hh hx₁ hx₂
  obtain ⟨l', h', hl', hh', -⟩ := rect_encloses_y r h₀ h₁
  obtain ⟨vy, hvy, -, -⟩ := exactValue_of_le_of_le hl' hh' hy₁ hy₂
  change (p.x == p.x && p.y == p.y) = true
  rw [Bool.and_eq_true, beq_iff hvx hvx, beq_iff hvy hvy]
  exact ⟨rfl, rfl⟩

variable {i : Nat} {p : Point} {d : Float}

theorem rect_contains_of_offer (hnet : net.Narrow) (h : net.offerOf target i = some (p, d)) :
    ((net.roads[i]!).rect net.offset).contains p = true :=
  boundaryToward_contains (rect_corners _ hnet.offset_nonneg hnet.offset_le) h

theorem beq_self_of_offer (hnet : net.Narrow) (h : net.offerOf target i = some (p, d)) :
    (p == p) = true :=
  beq_self_of_rect _ hnet.offset_nonneg hnet.offset_le (rect_contains_of_offer hnet h)

/-- The road that made an offer is registered at the cell of the point it offered. -/
theorem mem_roadsAt_of_offer (hnet : net.Narrow) (hi : i < net.roads.size)
    (h : net.offerOf target i = some (p, d)) : i ∈ net.roadsAt (Cell.ofPoint p) := by
  have hget : net.roads[i]! = net.roads[i] := getElem!_pos net.roads i hi
  have hmem : net.roads[i]! ∈ net.roads := hget ▸ Array.getElem_mem hi
  refine mem_roadsAt.mpr ⟨net.roads[i]!, by rw [hget, Array.getElem?_eq_getElem hi], ?_⟩
  exact hasCell_ofPoint (hnet.aligned _ hmem) hnet.offset_nonneg hnet.offset_le
    (rect_contains_of_offer hnet h)

/-- A hop from a point offered by road `i` that moves lands on a point offered by a road
whose offer comes strictly before: nearer in the total order, or as near and from an
earlier road. -/
theorem hop_moves_to_earlier_offer (hnet : net.Narrow) (hi : i < net.roads.size)
    (h : net.offerOf target i = some (p, d)) {next : Point}
    (hn : net.nearestBoundary (Cell.ofPoint p) target = some next) (hne : (next == p) = false) :
    ∃ j d', j < net.roads.size ∧ net.offerOf target j = some (next, d') ∧
      offerKey d' j < offerKey d i := by
  obtain ⟨j, d', hj, hleast⟩ := nearestBoundary_least hn
  obtain ⟨hjmem, hjoff⟩ := mem_offersAt.mp hj
  -- road `i` is registered where it led, so its offer is among those compared there
  have hle := hleast (i, (p, d)) (mem_offersAt.mpr ⟨mem_roadsAt_of_offer hnet hi h, h⟩)
  refine ⟨j, d', lt_of_mem_roadsAt hjmem, hjoff, lt_of_le_of_ne hle fun heq => ?_⟩
  -- had road `i` itself been chosen, the hop would have stayed where it was
  have hji : j = i := congrArg (fun k => (ofLex k).2) heq
  subst hji
  obtain ⟨rfl, -⟩ := Prod.mk.inj (Option.some.inj (hjoff.symm.trans h))
  rw [beq_self_of_offer hnet h] at hne
  cases hne

end Step

section Count

variable {i : Nat} {p : Point} {d : Float}

/-- Fewer offers come before a road's offer than there are roads: it does not come before
itself. -/
theorem offersBefore_lt_size (hi : i < net.roads.size) (h : net.offerOf target i = some (p, d)) :
    net.offersBefore target (offerKey d i) < net.roads.size := by
  unfold offersBefore
  calc _ < (Finset.range net.roads.size).card := by
        apply Finset.card_lt_card
        refine (Finset.ssubset_iff_of_subset (Finset.filter_subset _ _)).mpr
          ⟨i, Finset.mem_range.mpr hi, ?_⟩
        simp [h]
    _ = net.roads.size := Finset.card_range _

/-- An offer strictly before `k` has fewer offers before it than `k` has. -/
theorem offersBefore_lt_of_lt (hi : i < net.roads.size) (h : net.offerOf target i = some (p, d))
    {k : Lex (Nat × Nat)} (hk : offerKey d i < k) :
    net.offersBefore target (offerKey d i) < net.offersBefore target k := by
  unfold offersBefore
  apply Finset.card_lt_card
  refine (Finset.ssubset_iff_of_subset fun j hj => ?_).mpr ⟨i, ?_, ?_⟩
  · simp only [Finset.mem_filter, Option.any_eq_true, decide_eq_true_eq] at hj ⊢
    obtain ⟨hj, o, ho, hlt⟩ := hj
    exact ⟨hj, o, ho, lt_trans hlt hk⟩
  · simp [hi, h, hk]
  · simp [h]

end Count

section Run

/-- A hop with more fuel gives what it gave. -/
theorem hop_add_fuel : ∀ (fuel k : Nat) {p q : Point},
    net.hop target fuel p = .ok q → net.hop target (fuel + k) p = .ok q
  | 0, _, _, _, h => by cases h
  | fuel + 1, k, p, q, h => by
    rw [Nat.add_right_comm]
    unfold hop at h ⊢
    dsimp only at h ⊢
    split at h
    · rwa [if_pos ‹_›]
    · rw [if_neg ‹_›]
      split at h
      · rwa [if_pos ‹_›]
      · rw [if_neg ‹_›]
        exact hop_add_fuel fuel k h

/-- A hop that finds no rectangle holding the target at its cell, and a nearest edge point
other than where it stands, goes on from that edge point. -/
theorem hop_succ_of_move {p : Point} (hc : net.cellContains (Cell.ofPoint p) target = false)
    (hne : ((net.nearestBoundary (Cell.ofPoint p) target).getD p == p) = false) (fuel : Nat) :
    net.hop target (fuel + 1) p =
      net.hop target fuel ((net.nearestBoundary (Cell.ofPoint p) target).getD p) := by
  simp only [hop, hc, hne, Bool.false_eq_true, if_false]

/-- From a point equal to itself, a hop either settles or moves to the nearest edge point
of its cell, a point other than where it stood. -/
theorem hop_succ_settles_or_moves {p : Point} (hp : (p == p) = true) (fuel : Nat) :
    (∃ q, net.hop target (fuel + 1) p = .ok q) ∨
      ∃ next, net.nearestBoundary (Cell.ofPoint p) target = some next ∧ (next == p) = false ∧
        net.hop target (fuel + 1) p = net.hop target fuel next := by
  cases hc : net.cellContains (Cell.ofPoint p) target with
  | true => exact .inl ⟨target, by simp [hop, hc]⟩
  | false =>
    cases hn : net.nearestBoundary (Cell.ofPoint p) target with
    | none => exact .inl ⟨p, by simp [hop, hc, hn, hp]⟩
    | some next =>
      cases hb : next == p with
      | true => exact .inl ⟨p, by simp [hop, hc, hn, hb]⟩
      | false =>
        have hmove := hop_succ_of_move hc (by rw [hn, Option.getD_some, hb]) fuel
        rw [hn, Option.getD_some] at hmove
        exact .inr ⟨next, rfl, hb, hmove⟩

/-- From a point offered by a road, a move settles once the fuel exceeds the number of
offers before that road's. The induction is on the fuel, and that number falls at every
hop. -/
theorem hop_ok_of_offer (hnet : net.Narrow) : ∀ (fuel i : Nat) {p : Point} {d : Float},
    i < net.roads.size → net.offerOf target i = some (p, d) →
      net.offersBefore target (offerKey d i) < fuel → ∃ q, net.hop target fuel p = .ok q := by
  -- on the fuel, as `hop` recurses; each move lands on an offer with fewer offers before it
  intro fuel
  induction fuel with
  | zero => exact fun _ _ _ _ _ hlt => absurd hlt (Nat.not_lt_zero _)
  | succ fuel ih =>
    intro i p d hi h hlt
    rcases hop_succ_settles_or_moves (beq_self_of_offer hnet h) fuel with hok | ⟨next, hn, hb, hmove⟩
    · exact hok
    · obtain ⟨j, d', hj, hoff, hlt'⟩ := hop_moves_to_earlier_offer hnet hi h hn hb
      have hfewer := offersBefore_lt_of_lt hj hoff hlt'
      rw [hmove]
      exact ih j hj hoff (by omega)

/-- From a start equal to itself, a move settles within one hop per road and one more:
the first hop lands on some road's offer, and from there each road's offer is left at most
once. -/
theorem hop_settles (hnet : net.Narrow) {source : Point} (hs : (source == source) = true)
    {fuel : Nat} (hf : net.roads.size < fuel) : ∃ q, net.hop target fuel source = .ok q := by
  obtain ⟨fuel, rfl⟩ : ∃ k, fuel = k + 1 := ⟨fuel - 1, by omega⟩
  rcases hop_succ_settles_or_moves hs fuel with hok | ⟨next, hn, -, hmove⟩
  · exact hok
  · obtain ⟨i, d, hmem, -⟩ := nearestBoundary_least hn
    obtain ⟨hi, hoff⟩ := mem_offersAt.mp hmem
    have hfew := offersBefore_lt_size (lt_of_mem_roadsAt hi) hoff
    rw [hmove]
    exact hop_ok_of_offer hnet fuel i (lt_of_mem_roadsAt hi) hoff (by omega)

/-- A point not equal to itself, at whose cell no rectangle holds the target and no offer
is made, is where every hop stays until the limit. -/
theorem hop_stuck {p : Point} (hc : net.cellContains (Cell.ofPoint p) target = false)
    (hn : net.nearestBoundary (Cell.ofPoint p) target = none) (hp : (p == p) = false) :
    ∀ fuel, net.hop target fuel p = .error (.hopLimit maxHops)
  | 0 => rfl
  | fuel + 1 => by
    rw [hop_succ_of_move hc (by rw [hn, Option.getD_none, hp]) fuel, hn, Option.getD_none]
    exact hop_stuck hc hn hp fuel

end Run

/-! ## Cells and equality of points -/

section Points

/-- A coordinate less than a half from an integer `k` of the grid lies in the cell `k`. -/
theorem toGrid_toInt_eq {x : Float} {v : ℚ} {k : Int} (h : exactValue x = some v)
    (hk : |k| ≤ 2 ^ 20) (hlo : (k : ℚ) - 1 / 2 < v) (hhi : v < k + 1 / 2) :
    (Binary64.ofFloat x).toGrid.toInt = k := by
  rw [abs_le] at hk
  have hg := toGrid_mem h (by change -2147483648 ≤ k; omega) (by change k ≤ 2147483647; omega) hlo hhi
  exact le_antisymm hg.2 hg.1

theorem toGrid_zero : (Binary64.ofFloat 0.0).toGrid = 0 := by
  have h : (Binary64.ofFloat 0.0).toGrid.toInt = 0 :=
    toGrid_toInt_eq exactValue_zero (by norm_num) (by norm_num) (by norm_num)
  exact Int32.toInt_inj.mp h

/-- The origin lies in the cell `(0, 0)`. -/
theorem cell_origin :
    (Cell.ofPoint Point.origin).y = 0 ∧ (Cell.ofPoint Point.origin).x.toInt = ((0 : Nat) : Int) := by
  simp [Cell.ofPoint, Point.origin, toGrid_zero]

/-- Points whose first coordinates have different values are different. -/
theorem beq_false_of_x {a b : Point} {u v : ℚ} (ha : exactValue a.x = some u)
    (hb : exactValue b.x = some v) (huv : u ≠ v) : (a == b) = false := by
  have hx : (a.x == b.x) = false := by
    rw [Bool.eq_false_iff, ne_eq, beq_iff ha hb]
    exact huv
  change (a.x == b.x && a.y == b.y) = false
  rw [hx, Bool.false_and]

end Points

/-! ## A line of unit roads

    `n` unit roads end to end along a row, and a target on the row beyond the end: every
    road offers the right end of its rectangle, the cell of that point registers the next
    road, whose offer is nearer, so each hop goes one road further. From the start of a
    line of at least `maxHops` roads the clamp runs out of hops (`unitLine_clamp_fails`). -/

section Line

/-- Road `j` of a line of unit roads, from `(j, 0)` to `(j + 1, 0)`. -/
def unitRoad (j : Nat) : Road := Road.horizontal ⟨Int32.ofNat j, 0⟩ (Int32.ofNat (j + 1))

/-- `n` unit roads end to end along the row `y = 0`, widened by the road half-width. -/
def unitLine (n : Nat) : RoadNet := ⟨Array.ofFn fun j : Fin n => unitRoad j, roadHalfWidth⟩

/-- A target on the row of a line of `n` roads, as far beyond its end as the line is long. -/
def lineTarget (n : Nat) : Point := ⟨Float.ofInt (2 * n), 0.0⟩

/-- The right end of the rectangle of road `j` of a line, on the row. -/
def lineStop (j : Nat) : Point := ⟨Float.ofInt (j + 1) + roadHalfWidth, 0.0⟩

variable {n j m : Nat}

theorem unitLine_size : (unitLine n).roads.size = n := Array.size_ofFn

theorem unitLine_getElem? (hj : j < n) : (unitLine n).roads[j]? = some (unitRoad j) := by
  simp [unitLine, hj]

theorem unitLine_getElem! (hj : j < n) : (unitLine n).roads[j]! = unitRoad j := by
  rw [getElem!_pos (unitLine n).roads j (by rw [unitLine_size]; exact hj)]
  simp [unitLine]

theorem mem_unitLine {r : Road} (hr : r ∈ (unitLine n).roads) : ∃ j < n, r = unitRoad j := by
  obtain ⟨⟨j, hj⟩, rfl⟩ := Array.mem_ofFn.mp hr
  exact ⟨j, hj, rfl⟩

theorem unitLine_narrow : (unitLine n).Narrow where
  aligned r hr := by
    obtain ⟨j, -, rfl⟩ := mem_unitLine hr
    exact .inl (by simp [unitRoad, Road.horizontal, Road.isHorizontal])
  offset_nonneg := (le_iff exactValue_zero exactValue_roadHalfWidth).mpr (by norm_num)
  offset_le := (le_iff exactValue_roadHalfWidth exactValue_roadHalfWidth).mpr le_rfl

theorem unitRoad_toInt (hj : j + 1 < 2 ^ 31) :
    (Int32.ofNat j).toInt = j ∧ (Int32.ofNat (j + 1)).toInt = j + 1 := by
  rw [Int32.toInt_ofNat_of_lt (by omega), Int32.toInt_ofNat_of_lt hj]
  exact ⟨rfl, by push_cast; rfl⟩

/-- Road `j` of a line is registered at the cells `(j, 0)` and `(j + 1, 0)`. -/
theorem unitRoad_hasCell (hj : j + 1 < 2 ^ 31) {c : Cell} :
    (unitRoad j).hasCell c = true ↔ c.y = 0 ∧ (j : Int) ≤ c.x.toInt ∧ c.x.toInt ≤ j + 1 := by
  obtain ⟨h₀, h₁⟩ := unitRoad_toInt hj
  simp only [unitRoad, Road.hasCell, Road.horizontal, Road.isHorizontal, beq_self_eq_true,
    if_true, h₀, h₁, min_eq_left (Int.le_add_one le_rfl), max_eq_right (Int.le_add_one le_rfl)]
  simp [and_assoc]

/-- The roads of a line registered at a cell: those with an end in it. -/
theorem mem_unitLine_roadsAt (hn : n ≤ 2 ^ 20) {c : Cell} :
    j ∈ (unitLine n).roadsAt c ↔ j < n ∧ c.y = 0 ∧ (j : Int) ≤ c.x.toInt ∧ c.x.toInt ≤ j + 1 := by
  rw [mem_roadsAt]
  by_cases hj : j < n
  · simp [unitLine_getElem? hj, unitRoad_hasCell (show j + 1 < 2 ^ 31 by omega), hj]
  · have hnone : (unitLine n).roads[j]? = none :=
      Array.getElem?_eq_none (by rw [unitLine_size]; omega)
    simp [hnone, hj]

theorem unitRoad_rect (hj : j + 1 < 2 ^ 31) (o : Float) :
    (unitRoad j).rect o =
      ⟨Float.ofInt j - o, Float.ofInt (j + 1) + o, Float.ofInt 0 - o, Float.ofInt 0 + o⟩ := by
  obtain ⟨h₀, h₁⟩ := unitRoad_toInt hj
  simp only [unitRoad, Road.rect, Road.horizontal, h₀, h₁, min_eq_left (Int.le_add_one le_rfl),
    max_eq_right (Int.le_add_one le_rfl), min_self, max_self]
  rfl

/-! The sides of a line's rectangles, within `2^-20` of the road half-width away from the
integers, and the distances from their right ends to the target. -/

theorem lineStop_x (j : Nat) (hj : j + 1 ≤ 2 ^ 20) :
    ∃ h, exactValue (lineStop j).x = some h ∧ (j + 1 : ℚ) ≤ h ∧ h < j + 1 + 1 / 2 := by
  obtain ⟨h, hh, hlo, hhi⟩ := exactValue_highSide (j + 1) (by rw [abs_le]; omega)
    exactValue_roadHalfWidth (by norm_num) (by norm_num)
  refine ⟨h, hh, by exact_mod_cast hlo, ?_⟩
  push_cast at hhi
  norm_num at hhi ⊢
  linarith

theorem lineTarget_x (hn : n ≤ 2 ^ 20) : exactValue (lineTarget n).x = some (2 * n : ℚ) := by
  have := exactValue_ofInt_eq (2 * n) (by rw [abs_le]; omega)
  push_cast at this
  exact this

/-- The distance from the right end of road `j` to the target lies between `2n - j - 13/8`
and `2n - j - 7/8`: the right end is less than a half beyond `j + 1`, and the subtraction
errs by far less than an eighth. -/
theorem lineGap (hj : j < n) (hn : n ≤ 2 ^ 20) :
    ∃ q, exactValue ((lineTarget n).x - (lineStop j).x) = some q ∧
      2 * n - j - 13 / 8 ≤ q ∧ q ≤ 2 * n - j - 7 / 8 := by
  obtain ⟨h, hh, hlo, hhi⟩ := lineStop_x j (by omega)
  have hjn : (j : ℚ) + 1 ≤ n := by exact_mod_cast hj
  have hn' : (n : ℚ) ≤ 2 ^ 20 := by exact_mod_cast hn
  obtain ⟨q, hq, herr⟩ := exactValue_sub (lineTarget_x hn) hh (show (-1022 : Int) ≤ 21 by norm_num)
    (by norm_num) (by rw [abs_le]; constructor <;> norm_num <;> linarith)
  rw [abs_le] at herr
  norm_num at herr
  exact ⟨q, hq, by linarith [herr.1], by linarith [herr.2]⟩

/-- The target lies beyond the right side of every road of the line. -/
theorem lineTarget_beyond (hj : j < n) (hn : n ≤ 2 ^ 20) : ¬ (lineTarget n).x ≤ (lineStop j).x := by
  obtain ⟨h, hh, -, hhi⟩ := lineStop_x j (by omega)
  have hjn : (j : ℚ) + 1 ≤ n := by exact_mod_cast hj
  rw [le_iff (lineTarget_x hn) hh]
  linarith

/-- Road `j` of a line offers the right end of its rectangle. -/
theorem unitLine_offerOf (hj : j < n) (hn : n ≤ 2 ^ 20) :
    (unitLine n).offerOf (lineTarget n) j =
      some (lineStop j, (lineTarget n).x - (lineStop j).x) := by
  obtain ⟨h, hh, hlo, hhi⟩ := lineStop_x j (by omega)
  obtain ⟨l, hl, -, hl₂⟩ := exactValue_lowSide j (by rw [abs_le]; omega)
    exactValue_roadHalfWidth (by norm_num) (by norm_num)
  obtain ⟨ly, hly, -, hly₂⟩ := exactValue_lowSide 0 (by norm_num)
    exactValue_roadHalfWidth (by norm_num) (by norm_num)
  obtain ⟨hy, hhy, hhy₁, -⟩ := exactValue_highSide 0 (by norm_num)
    exactValue_roadHalfWidth (by norm_num) (by norm_num)
  have hjn : (j : ℚ) + 1 ≤ n := by exact_mod_cast hj
  have hright : ¬ (lineTarget n).x ≤ (lineStop j).x := lineTarget_beyond hj hn
  have hleft : ¬ (lineTarget n).x ≤ Float.ofInt j - roadHalfWidth := by
    rw [le_iff (lineTarget_x hn) hl]
    push_cast at hl₂
    linarith
  have hpast : (lineStop j).x ≤ (lineTarget n).x := by
    rw [le_iff hh (lineTarget_x hn)]
    linarith
  have hlow : Float.ofInt 0 - roadHalfWidth ≤ 0.0 := (le_iff hly exactValue_zero).mpr (by simpa using hly₂)
  have hhigh : 0.0 ≤ Float.ofInt 0 + roadHalfWidth := (le_iff exactValue_zero hhy).mpr (by simpa using hhy₁)
  unfold offerOf
  rw [unitLine_getElem! hj, show (unitLine n).offset = roadHalfWidth from rfl,
    unitRoad_rect (by omega), boundaryToward_eq]
  simp only [lineStop, lineTarget] at hright hleft hpast ⊢
  simp [offerIf, hright, hleft, hpast, hlow, hhigh]

/-- No rectangle of a line holds the target. -/
theorem unitLine_cellContains (hn : n ≤ 2 ^ 20) (c : Cell) :
    (unitLine n).cellContains c (lineTarget n) = false := by
  cases h : (unitLine n).cellContains c (lineTarget n) with
  | false => rfl
  | true =>
    obtain ⟨r, hr, -, hrc⟩ := cellContains_iff.mp h
    obtain ⟨j, hj, rfl⟩ := mem_unitLine hr
    rw [show (unitLine n).offset = roadHalfWidth from rfl, unitRoad_rect (by omega),
      Rect.contains_iff] at hrc
    exact absurd hrc.2.1 (lineTarget_beyond hj hn)

/-- A later road of the line offers a strictly nearer point. -/
theorem lineGap_totalKey_lt (hjm : j < m) (hm : m < n) (hn : n ≤ 2 ^ 20) :
    (Binary64.ofFloat ((lineTarget n).x - (lineStop m).x)).totalKey.toNat <
      (Binary64.ofFloat ((lineTarget n).x - (lineStop j).x)).totalKey.toNat := by
  obtain ⟨qm, hqm, hqm₁, hqm₂⟩ := lineGap hm hn
  obtain ⟨qj, hqj, hqj₁, -⟩ := lineGap (lt_trans hjm hm) hn
  have hjm' : (j : ℚ) + 1 ≤ m := by exact_mod_cast hjm
  have hmn : (m : ℚ) + 1 ≤ n := by exact_mod_cast hm
  have h := totalLt_of_lt hqm hqj (by linarith) (by linarith)
  simpa [Binary64.totalLt, UInt64.lt_iff_toNat_lt] using h

/-- At a cell `(m, 0)` of a line, the nearest edge point is the right end of road `m`: it
is registered there, and the only other road registered there is an earlier one, whose
offer is farther. -/
theorem unitLine_nearestBoundary (hn : n ≤ 2 ^ 20) {c : Cell} (hm : m < n) (hcy : c.y = 0)
    (hcx : c.x.toInt = (m : Int)) :
    (unitLine n).nearestBoundary c (lineTarget n) = some (lineStop m) := by
  have hmreg : m ∈ (unitLine n).roadsAt c :=
    (mem_unitLine_roadsAt hn).mpr ⟨hm, hcy, by omega, by omega⟩
  have hmoff := mem_offersAt.mpr ⟨hmreg, unitLine_offerOf hm hn⟩
  obtain ⟨next, hnext⟩ := exists_nearestBoundary hmoff
  obtain ⟨j, d, hjmem, hleast⟩ := nearestBoundary_least hnext
  obtain ⟨hjreg, hjoff⟩ := mem_offersAt.mp hjmem
  obtain ⟨hjn, -, hjc, -⟩ := (mem_unitLine_roadsAt hn).mp hjreg
  rw [unitLine_offerOf hjn hn, Option.some.injEq, Prod.mk.injEq] at hjoff
  obtain ⟨rfl, rfl⟩ := hjoff
  rcases Nat.lt_or_ge j m with hjm | hjm
  · -- an earlier road's offer is farther, so it cannot be the least
    have hle := hleast _ hmoff
    exact absurd hle (not_le.mpr (Prod.Lex.toLex_lt_toLex.mpr (.inl (lineGap_totalKey_lt hjm hm hn))))
  · obtain rfl : j = m := by omega
    exact hnext

/-- The right end of road `j` lies in the cell `(j + 1, 0)`. -/
theorem cell_lineStop (hj : j + 1 ≤ 2 ^ 20) :
    (Cell.ofPoint (lineStop j)).y = 0 ∧ (Cell.ofPoint (lineStop j)).x.toInt = ((j + 1 : Nat) : Int) := by
  obtain ⟨h, hh, hlo, hhi⟩ := lineStop_x j hj
  have hx : (Binary64.ofFloat (lineStop j).x).toGrid.toInt = ((j + 1 : Nat) : Int) :=
    toGrid_toInt_eq hh (by rw [abs_le]; omega) (by push_cast; linarith) (by push_cast; linarith)
  simp only [Cell.ofPoint, lineStop] at hx ⊢
  exact ⟨toGrid_zero, hx⟩

/-- The right ends of consecutive roads of a line are different points. -/
theorem lineStop_beq_succ (hm : m + 2 ≤ 2 ^ 20) : (lineStop (m + 1) == lineStop m) = false := by
  obtain ⟨h₁, hh₁, hlo₁, -⟩ := lineStop_x (m + 1) hm
  obtain ⟨h₀, hh₀, -, hhi₀⟩ := lineStop_x m (by omega)
  push_cast at hlo₁
  exact beq_false_of_x hh₁ hh₀ (ne_of_gt (by linarith))

/-- From a point in the cell `(m, 0)` of a line that is not the right end of road `m`, a
hop goes there. -/
theorem unitLine_hop_step (hn : n ≤ 2 ^ 20) {p : Point} (hm : m < n)
    (hcy : (Cell.ofPoint p).y = 0) (hcx : (Cell.ofPoint p).x.toInt = (m : Int))
    (hne : (lineStop m == p) = false) (fuel : Nat) :
    (unitLine n).hop (lineTarget n) (fuel + 1) p = (unitLine n).hop (lineTarget n) fuel (lineStop m) := by
  have hnext := unitLine_nearestBoundary hn hm hcy hcx
  rw [hop_succ_of_move (unitLine_cellContains hn _) (by rw [hnext, Option.getD_some, hne]), hnext,
    Option.getD_some]

/-- From the right end of road `m`, each hop goes one road further; with fewer hops left
than roads ahead, the hops run out. -/
theorem unitLine_hop_fails (hn : n ≤ 2 ^ 20) : ∀ (fuel m : Nat), m + fuel < n →
    (unitLine n).hop (lineTarget n) fuel (lineStop m) = .error (.hopLimit maxHops)
  | 0, _, _ => rfl
  | fuel + 1, m, h => by
    obtain ⟨hcy, hcx⟩ := cell_lineStop (show m + 1 ≤ 2 ^ 20 by omega)
    rw [unitLine_hop_step hn (show m + 1 < n by omega) hcy hcx (lineStop_beq_succ (by omega)) fuel]
    exact unitLine_hop_fails hn fuel (m + 1) (by omega)

/-- On a line of at least `maxHops` unit roads, a clamp from the start of the line toward a
point beyond its end moves one road per hop and runs out of hops. -/
theorem unitLine_clamp_fails (h₁ : maxHops ≤ n) (hn : n ≤ 2 ^ 20) :
    (unitLine n).clamp Point.origin (lineTarget n) = .error (.hopLimit maxHops) := by
  have hn₁ : (1000 : ℚ) ≤ n := by exact_mod_cast h₁
  obtain ⟨h, hh, hlo, -⟩ := lineStop_x 0 (by norm_num)
  push_cast at hlo
  have hsrc : (Point.origin == lineTarget n) = false :=
    beq_false_of_x exactValue_zero (lineTarget_x hn) (ne_of_lt (by linarith))
  have hstop : (lineStop 0 == Point.origin) = false :=
    beq_false_of_x hh exactValue_zero (ne_of_gt (by linarith))
  unfold clamp
  rw [if_neg (by rw [hsrc]; exact Bool.false_ne_true)]
  show (unitLine n).hop (lineTarget n) (999 + 1) Point.origin = .error (.hopLimit maxHops)
  -- the origin lies in the cell `(0, 0)`, where road `0` offers the first stop
  rw [unitLine_hop_step hn (by unfold maxHops at h₁; omega) cell_origin.1 cell_origin.2 hstop 999]
  exact unitLine_hop_fails hn 999 0 (by unfold maxHops at h₁; omega)

end Line

/-- On roads along rows and columns widened by an offset from `0` to the road half-width:
the road that made an offer is registered at the point it offered; a hop from an offered
point that moves lands on an offer strictly before it, nearer in the total order of doubles
or as near from an earlier road; a move from a start equal to itself settles within one hop
per road, more fuel changing nothing; and so a clamp fails on fewer than `maxHops` roads
only from a start with a NaN coordinate. The bound is reached: on a line of `maxHops` unit
roads or more, a clamp from the start of the line runs out of hops. -/
theorem clamp_hops_within_road_count (hnet : net.Narrow) (source : Point) :
    (∀ i p d, i < net.roads.size → net.offerOf target i = some (p, d) →
      i ∈ net.roadsAt (Cell.ofPoint p)) ∧
    (∀ i p d next, i < net.roads.size → net.offerOf target i = some (p, d) →
      net.nearestBoundary (Cell.ofPoint p) target = some next → (next == p) = false →
        ∃ j d', j < net.roads.size ∧ net.offerOf target j = some (next, d') ∧
          offerKey d' j < offerKey d i) ∧
    ((source == source) = true →
      ∃ q, ∀ fuel, net.roads.size < fuel → net.hop target fuel source = .ok q) ∧
    (∀ e, net.clamp source target = .error e →
      maxHops ≤ net.roads.size ∨ (source == source) = false) ∧
    (∀ n, maxHops ≤ n → n ≤ 2 ^ 20 →
      (unitLine n).Narrow ∧ (unitLine n).roads.size = n ∧
        (unitLine n).clamp Point.origin (lineTarget n) = .error (.hopLimit maxHops)) := by
  refine ⟨fun i p d hi h => mem_roadsAt_of_offer hnet hi h,
    fun i p d next hi h hn hne => hop_moves_to_earlier_offer hnet hi h hn hne, fun hs => ?_, ?_,
    fun n h₁ hn => ⟨unitLine_narrow, unitLine_size, unitLine_clamp_fails h₁ hn⟩⟩
  · obtain ⟨q, hq⟩ : ∃ q, net.hop target (net.roads.size + 1) source = .ok q :=
      hop_settles hnet hs (Nat.lt_succ_self _)
    refine ⟨q, fun fuel hf => ?_⟩
    obtain ⟨k, rfl⟩ : ∃ k, fuel = net.roads.size + 1 + k := ⟨fuel - (net.roads.size + 1), by omega⟩
    exact hop_add_fuel _ k hq
  · intro e he
    unfold clamp at he
    split at he
    · cases he
    · -- the clamp ran out of hops, which a start equal to itself does not on few roads
      by_contra hfew
      rw [not_or, Nat.not_le, Bool.not_eq_false] at hfew
      obtain ⟨q, hq⟩ : ∃ q, net.hop target maxHops source = .ok q := hop_settles hnet hfew.2 hfew.1
      rw [hq] at he
      cases he

/-- A clamp from the start of a line of `maxHops` unit roads toward a point beyond its
end: the network is narrow, every part of the bound holds there, and the clamp fails with
as many roads as hops. -/
theorem clamp_hops_within_road_count_on_unit_line :
    let net := unitLine maxHops
    let target := lineTarget maxHops
    net.Narrow ∧ net.roads.size = maxHops ∧
      net.clamp Point.origin target = .error (.hopLimit maxHops) ∧
      (∀ i p d, i < net.roads.size → net.offerOf target i = some (p, d) →
        i ∈ net.roadsAt (Cell.ofPoint p)) ∧
      (∀ i p d next, i < net.roads.size → net.offerOf target i = some (p, d) →
        net.nearestBoundary (Cell.ofPoint p) target = some next → (next == p) = false →
          ∃ j d', j < net.roads.size ∧ net.offerOf target j = some (next, d') ∧
            offerKey d' j < offerKey d i) ∧
      ((Point.origin == Point.origin) = true →
        ∃ q, ∀ fuel, net.roads.size < fuel → net.hop target fuel Point.origin = .ok q) ∧
      (∀ e, net.clamp Point.origin target = .error e →
        maxHops ≤ net.roads.size ∨ (Point.origin == Point.origin) = false) ∧
      (∀ n, maxHops ≤ n → n ≤ 2 ^ 20 →
        (unitLine n).Narrow ∧ (unitLine n).roads.size = n ∧
          (unitLine n).clamp Point.origin (lineTarget n) = .error (.hopLimit maxHops)) := by
  intro net target
  exact ⟨unitLine_narrow, unitLine_size, unitLine_clamp_fails le_rfl (by norm_num [maxHops]),
    clamp_hops_within_road_count unitLine_narrow Point.origin⟩

/-- One road along a row, and a clamp from a start whose first coordinate is NaN toward a
target that no rectangle at the start's cell holds or faces: no hop changes the start, yet
the start is not equal to itself, so the clamp fails at the limit on a single road. -/
theorem clamp_from_nan_fails_on_one_road :
    let net : RoadNet := ⟨#[Road.horizontal ⟨0, 0⟩ 1], roadHalfWidth⟩
    let source : Point := ⟨0.0 / 0.0, 0.0⟩
    net.Narrow ∧ net.roads.size < maxHops ∧
      net.clamp source ⟨5.0, 5.0⟩ = .error (.hopLimit maxHops) := by
  intro net source
  have hc : net.cellContains (Cell.ofPoint source) ⟨5.0, 5.0⟩ = false := by decide +kernel
  have hn : (net.nearestBoundary (Cell.ofPoint source) ⟨5.0, 5.0⟩).isNone = true := by
    decide +kernel
  have hp : (source == source) = false := by decide +kernel
  have hst : (source == ⟨5.0, 5.0⟩) = false := by decide +kernel
  refine ⟨Sound.narrow ⟨rfl, by decide, by decide⟩, by decide, ?_⟩
  unfold clamp
  rw [if_neg (by rw [hst]; exact Bool.false_ne_true)]
  exact hop_stuck hc (Option.isNone_iff_eq_none.mp hn) hp maxHops

end RoadNet

end DogCourier
