import DogCourier.Proofs.Float.Lift
import DogCourier.Proofs.Float.Integers
import DogCourier.Gather.Sweep

/-! # The pickup schedule

    `events` lists one event for each pair of a gatherer and an item and sorts them by
    time in the total order of doubles. The route:

    * `pairEvents` lists the pairs gatherer-major, item-minor, each once
      (`count_pairEvents`, `pairEvents_pairwise`);
    * merge sort permutes, sorts and is stable (`pairwise_mergeSort_stable`), so the
      schedule keeps every pair once and breaks ties of time by pair order;
    * the `+inf` time given to a stationary miss lies outside `[0, 1]`, so it changes no
      verdict (`Event.collected_ofPair`);
    * a gatherer that stands still at a finite point sweeps a segment whose squared
      length is exactly zero, so its sighting is the plain distance to the start
      (`sight_of_stationary`). -/

namespace DogCourier

open Float.Model Float.Model.UnpackedFloat

section Stable

/-- Merge sort is stable: of two elements that the comparison ties, the one that came
first in the input comes first in the output, so whatever order the input kept between
them survives. -/
theorem pairwise_mergeSort_stable {α : Type} (le : α → α → Bool)
    (trans : ∀ a b c, le a b → le b c → le a c) (total : ∀ a b, le a b || le b a)
    {R : α → α → Prop} {l : List α} (hl : l.Pairwise R) :
    (l.mergeSort le).Pairwise fun a b => le b a → R a b := by
  -- sort the elements with their positions, ties broken by position
  rw [← List.mergeSort_zipIdx]
  have hsorted := List.pairwise_mergeSort (List.zipIdxLE_trans trans) (List.zipIdxLE_total total)
    l.zipIdx
  have hperm := List.mergeSort_perm l.zipIdx (List.zipIdxLE le)
  have hnodup : ((l.zipIdx.mergeSort (List.zipIdxLE le)).map (·.2)).Nodup := by
    rw [(hperm.map _).nodup_iff, List.zipIdx_map_snd]
    exact List.nodup_range' ..
  rw [List.pairwise_map]
  refine ((List.pairwise_map.mp hnodup).and hsorted).imp_of_mem ?_
  rintro ⟨x, i⟩ ⟨y, j⟩ hx hy ⟨hij, hle⟩ hyx
  have hx' := List.mem_zipIdx_iff_getElem?.mp (hperm.subset hx)
  have hy' := List.mem_zipIdx_iff_getElem?.mp (hperm.subset hy)
  simp only [List.zipIdxLE, hyx, if_true] at hle
  -- a tie is broken by position, and the positions differ
  have hij' : i < j := by
    split at hle
    · simp only [decide_eq_true_eq] at hle
      simp only [ne_eq] at hij
      omega
    · cases hle
  obtain ⟨hi, hxi⟩ := List.getElem?_eq_some_iff.mp hx'
  obtain ⟨hj, hyj⟩ := List.getElem?_eq_some_iff.mp hy'
  have hR := List.pairwise_iff_getElem.mp hl i j hi hj hij'
  simp only at hxi hyj ⊢
  rwa [hxi, hyj] at hR

end Stable

namespace Binary64

theorem totalLt_eq_false_iff {a b : Binary64} : totalLt b a = false ↔ a.totalKey.toNat ≤ b.totalKey.toNat := by
  simp [totalLt, UInt64.lt_iff_toNat_lt]

theorem totalCompare_isLE_iff {a b : Binary64} :
    (totalCompare a b).isLE ↔ a.totalKey.toNat ≤ b.totalKey.toNat := by
  simp [totalCompare, Ordering.isLE_iff_ne_gt, Nat.compare_eq_gt]

theorem totalCompare_eq_eq_iff {a b : Binary64} :
    totalCompare a b = .eq ↔ a.totalKey.toNat = b.totalKey.toNat := by
  simp [totalCompare]

end Binary64

namespace Event

/-- `a` comes before `b` in gatherer-major, item-minor order. -/
def PairBefore (a b : Event) : Prop :=
  a.gatherer < b.gatherer ∨ a.gatherer = b.gatherer ∧ a.item < b.item

/-- The sort order: `a` no later in time than `b`. -/
def timeLE (a b : Event) : Bool := !Binary64.totalLt b.time a.time

theorem timeLE_iff {a b : Event} : timeLE a b = true ↔ (Binary64.totalCompare a.time b.time).isLE := by
  rw [timeLE, Bool.not_eq_true', Binary64.totalLt_eq_false_iff, Binary64.totalCompare_isLE_iff]

theorem timeLE_trans (a b c : Event) : timeLE a b → timeLE b c → timeLE a c := by
  simp only [timeLE_iff, Binary64.totalCompare_isLE_iff]
  exact Nat.le_trans

theorem timeLE_total (a b : Event) : (timeLE a b || timeLE b a) = true := by
  rw [Bool.or_eq_true, timeLE_iff, timeLE_iff, Binary64.totalCompare_isLE_iff,
    Binary64.totalCompare_isLE_iff]
  exact Nat.le_total _ _

@[simp] theorem ofPair_gatherer (gi ii : Nat) (g : Gatherer) (it : Item) :
    (ofPair gi ii g it).gatherer = gi := rfl

@[simp] theorem ofPair_item (gi ii : Nat) (g : Gatherer) (it : Item) :
    (ofPair gi ii g it).item = ii := rfl

@[simp] theorem ofPair_radius (gi ii : Nat) (g : Gatherer) (it : Item) :
    (ofPair gi ii g it).radius = g.width + it.width := rfl

@[simp] theorem ofPair_sqDistance (gi ii : Nat) (g : Gatherer) (it : Item) :
    (ofPair gi ii g it).sqDistance = (sight g.start g.finish it.position).sqDistance := rfl

theorem ofPair_time (gi ii : Nat) (g : Gatherer) (it : Item) :
    (ofPair gi ii g it).time =
      if g.start == g.finish && !(sight g.start g.finish it.position).collected (g.width + it.width)
      then Binary64.ofFloat (1.0 / 0.0) else (sight g.start g.finish it.position).ratio := rfl

/-- The time `+inf` given to a stationary miss is outside `[0, 1]`, so it changes no
verdict: the event is collected exactly when its sighting is. -/
theorem collected_ofPair (gi ii : Nat) (g : Gatherer) (it : Item) :
    (ofPair gi ii g it).collected = (sight g.start g.finish it.position).collected (g.width + it.width) := by
  unfold collected
  rw [ofPair_time, ofPair_sqDistance, ofPair_radius]
  split
  · rename_i h
    simp only [Bool.and_eq_true, Bool.not_eq_true'] at h
    rw [h.2]
    have hinf : ¬ (1.0 / 0.0 : Float) ≤ 1.0 := by decide
    simp [withinReach, hinf]
  · rfl

end Event

/-- The events before sorting are the events of the pairs of a gatherer and an item. -/
theorem mem_pairEvents_iff {gs : List Gatherer} {its : List Item} {e : Event} :
    e ∈ pairEvents gs its ↔
      ∃ gi ii g it, gs[gi]? = some g ∧ its[ii]? = some it ∧ e = Event.ofPair gi ii g it := by
  unfold pairEvents
  simp only [List.mem_flatten, List.mem_map, Prod.exists]
  constructor
  · rintro ⟨_, ⟨g, gi, hg, rfl⟩, he⟩
    obtain ⟨⟨it, ii⟩, hit, rfl⟩ := List.mem_map.mp he
    exact ⟨gi, ii, g, it, List.mem_zipIdx_iff_getElem?.mp hg, List.mem_zipIdx_iff_getElem?.mp hit, rfl⟩
  · rintro ⟨gi, ii, g, it, hg, hit, rfl⟩
    exact ⟨_, ⟨g, gi, List.mem_zipIdx_iff_getElem?.mpr hg, rfl⟩,
      List.mem_map.mpr ⟨(it, ii), List.mem_zipIdx_iff_getElem?.mpr hit, rfl⟩⟩

/-- Before sorting, the events run gatherer-major and item-minor. -/
theorem pairEvents_pairwise (gs : List Gatherer) (its : List Item) :
    (pairEvents gs its).Pairwise Event.PairBefore := by
  unfold pairEvents
  rw [List.pairwise_flatten, List.pairwise_map, List.forall_mem_map]
  have hidx : ∀ {β : Type} (l : List β), l.zipIdx.Pairwise fun p q => p.2 < q.2 := fun l => by
    have h : (l.zipIdx.map (·.2)).Pairwise (· < ·) := by
      rw [List.zipIdx_map_snd]
      exact List.pairwise_lt_range' ..
    exact List.pairwise_map.mp h
  constructor
  · rintro ⟨g, gi⟩ -
    rw [List.pairwise_map]
    exact (hidx its).imp fun h => .inr ⟨rfl, h⟩
  · refine (hidx gs).imp fun {p q} h => ?_
    simp only [List.mem_map]
    rintro _ ⟨_, _, rfl⟩ _ ⟨_, _, rfl⟩
    exact .inl h

/-- Each pair of a gatherer and an item has one event. -/
theorem count_pairEvents (gs : List Gatherer) (its : List Item) (gi ii : Nat) :
    ((pairEvents gs its).map fun e => (e.gatherer, e.item)).count (gi, ii) =
      if gi < gs.length ∧ ii < its.length then 1 else 0 := by
  have hnodup : ((pairEvents gs its).map fun e => (e.gatherer, e.item)).Nodup := by
    rw [List.Nodup, List.pairwise_map]
    refine (pairEvents_pairwise gs its).imp fun {a b} h heq => ?_
    simp only [Prod.mk.injEq] at heq
    rcases h with h | h <;> omega
  have hmem : (gi, ii) ∈ ((pairEvents gs its).map fun e => (e.gatherer, e.item)) ↔
      gi < gs.length ∧ ii < its.length := by
    simp only [List.mem_map, mem_pairEvents_iff]
    constructor
    · rintro ⟨_, ⟨gi, ii, g, it, hg, hit, rfl⟩, heq⟩
      simp only [Event.ofPair_gatherer, Event.ofPair_item, Prod.mk.injEq] at heq
      obtain ⟨rfl, rfl⟩ := heq
      exact ⟨(List.getElem?_eq_some_iff.mp hg).1, (List.getElem?_eq_some_iff.mp hit).1⟩
    · rintro ⟨hg, hit⟩
      exact ⟨_, ⟨gi, ii, _, _, List.getElem?_eq_getElem hg, List.getElem?_eq_getElem hit, rfl⟩, rfl⟩
  split
  · exact List.count_eq_one_of_mem hnodup (hmem.mpr ‹_›)
  · exact List.count_eq_zero_of_not_mem fun h => ‹¬_› (hmem.mp h)

section Zero

variable {a b : Float}

/-- A finite double has a value. -/
theorem exactValue_of_isFinite (h : a.isFinite = true) : ∃ v, exactValue a = some v := by
  change a.toModel.unpack.isFinite = true at h
  unfold exactValue
  cases hu : a.toModel.unpack with
  | finite s m e hm => exact ⟨_, rfl⟩
  | zero s => exact ⟨0, rfl⟩
  | infinity s => simp [hu, UnpackedFloat.isFinite] at h
  | notANumber => simp [hu, UnpackedFloat.isFinite] at h

/-- A number minus a double equal to it is zero. -/
theorem exactValue_sub_of_beq {v : ℚ} (ha : exactValue a = some v) (h : (a == b) = true) :
    exactValue (b - a) = some 0 :=
  exactValue_sub_eq_zero (exactValue_of_beq ha h) ha

theorem exactValue_mul_of_zero (ha : exactValue a = some 0) (hb : exactValue b = some 0) :
    exactValue (a * b) = some 0 := by
  obtain ⟨q, hq, hkeep⟩ := exactValue_mul_keepsInts ha hb (by simp)
  rw [mul_zero, show (0 : ℚ) = ((0 : Int) : ℚ) by norm_num] at hkeep
  rw [hq, hkeep.eq_of_int]
  norm_num

theorem exactValue_add_of_zero (ha : exactValue a = some 0) (hb : exactValue b = some 0) :
    exactValue (a + b) = some 0 := by
  obtain ⟨q, hq, hkeep⟩ := exactValue_add_keepsInts ha hb (by simp)
  rw [add_zero, show (0 : ℚ) = ((0 : Int) : ℚ) by norm_num] at hkeep
  rw [hq, hkeep.eq_of_int]
  norm_num

end Zero

/-- A gatherer standing still at a finite point sweeps a segment of length zero: its
squared length is zero, so the sighting is the distance to the start with ratio `+0`, and
the quotient by the squared length, which would be a NaN or an infinity, is never formed. -/
theorem sight_of_stationary {a b c : Point} (hab : (a == b) = true) (hx : a.x.isFinite = true)
    (hy : a.y.isFinite = true) :
    (sight a b c).ratio = Binary64.ofFloat 0.0 ∧
      (sight a b c).sqDistance.toFloat = (c.x - a.x) * (c.x - a.x) + (c.y - a.y) * (c.y - a.y) := by
  change (a.x == b.x && a.y == b.y) = true at hab
  rw [Bool.and_eq_true] at hab
  obtain ⟨vx, hvx⟩ := exactValue_of_isFinite hx
  obtain ⟨vy, hvy⟩ := exactValue_of_isFinite hy
  have hdx := exactValue_sub_of_beq hvx hab.1
  have hdy := exactValue_sub_of_beq hvy hab.2
  have hlen : exactValue ((b.x - a.x) * (b.x - a.x) + (b.y - a.y) * (b.y - a.y)) = some 0 :=
    exactValue_add_of_zero (exactValue_mul_of_zero hdx hdx) (exactValue_mul_of_zero hdy hdy)
  have hzero : ((b.x - a.x) * (b.x - a.x) + (b.y - a.y) * (b.y - a.y) == 0.0) = true :=
    (beq_iff hlen exactValue_zero).mpr rfl
  unfold sight
  simp only [Binary64.toFloat_add, Binary64.toFloat_mul, Binary64.toFloat_sub, Binary64.toFloat_ofFloat]
  rw [if_pos hzero]
  exact ⟨rfl, by simp⟩

/-- A gatherer standing still at a finite point collects exactly the items whose squared
distance from it is within the squared radius. -/
theorem collected_of_stationary {a b c : Point} (r : Float) (hab : (a == b) = true)
    (hx : a.x.isFinite = true) (hy : a.y.isFinite = true) :
    (sight a b c).collected r = true ↔
      (c.x - a.x) * (c.x - a.x) + (c.y - a.y) * (c.y - a.y) ≤ r * r := by
  obtain ⟨hratio, hsq⟩ := @sight_of_stationary a b c hab hx hy
  have h0 : (0.0 : Float) ≤ 0.0 := by decide
  have h1 : (0.0 : Float) ≤ 1.0 := by decide
  simp [Sighting.collected, withinReach, hratio, hsq, Binary64.toFloat_ofFloat, h0, h1]

section Schedule

variable (gs : List Gatherer) (its : List Item)

theorem events_eq : events gs its = (pairEvents gs its).mergeSort Event.timeLE := rfl

theorem mem_events_iff {e : Event} : e ∈ events gs its ↔ e ∈ pairEvents gs its :=
  List.mem_mergeSort

/-- Pairs already in time order are met in the order they are paired. -/
theorem events_of_pairwise (h : (pairEvents gs its).Pairwise fun a b => Event.timeLE a b = true) :
    events gs its = pairEvents gs its :=
  List.mergeSort_of_pairwise h

/-- Sorting keeps each pair once. -/
theorem count_events (gi ii : Nat) :
    ((events gs its).map fun e => (e.gatherer, e.item)).count (gi, ii) =
      if gi < gs.length ∧ ii < its.length then 1 else 0 := by
  rw [events_eq, ((List.mergeSort_perm _ _).map _).count_eq]
  exact count_pairEvents gs its gi ii

/-- The schedule runs forward in the total order of doubles, and events of equal time
keep the gatherer-major, item-minor order of their pairs. -/
theorem events_pairwise :
    (events gs its).Pairwise fun a b => (Binary64.totalCompare a.time b.time).isLE ∧
      (Binary64.totalCompare a.time b.time = .eq → a.PairBefore b) := by
  have hsorted := List.pairwise_mergeSort Event.timeLE_trans Event.timeLE_total (pairEvents gs its)
  have hstable := pairwise_mergeSort_stable Event.timeLE Event.timeLE_trans Event.timeLE_total
    (pairEvents_pairwise gs its)
  rw [events_eq]
  refine (hsorted.and hstable).imp fun {a b} ⟨hab, hba⟩ => ⟨Event.timeLE_iff.mp hab, fun heq => hba ?_⟩
  -- equal keys order the two events both ways
  rw [Event.timeLE_iff, Binary64.totalCompare_isLE_iff]
  exact (Binary64.totalCompare_eq_eq_iff.mp heq).ge

end Schedule

theorem events_one_per_pair_sorted_stably (gs : List Gatherer) (its : List Item) :
    (∀ gi ii, ((events gs its).map fun e => (e.gatherer, e.item)).count (gi, ii) =
        if gi < gs.length ∧ ii < its.length then 1 else 0) ∧
    (events gs its).Pairwise (fun a b => (Binary64.totalCompare a.time b.time).isLE ∧
        (Binary64.totalCompare a.time b.time = .eq → a.PairBefore b)) ∧
    ∀ e ∈ events gs its, ∃ g it, gs[e.gatherer]? = some g ∧ its[e.item]? = some it ∧
      e.radius = g.width + it.width ∧
      e.sqDistance = (sight g.start g.finish it.position).sqDistance ∧
      e.time = (if g.start == g.finish && !(sight g.start g.finish it.position).collected e.radius
        then Binary64.ofFloat (1.0 / 0.0) else (sight g.start g.finish it.position).ratio) ∧
      e.collected = (sight g.start g.finish it.position).collected e.radius ∧
      ((g.start == g.finish) = true → g.start.x.isFinite = true → g.start.y.isFinite = true →
        (sight g.start g.finish it.position).ratio = Binary64.ofFloat 0.0 ∧
        (e.collected = true ↔ (it.position.x - g.start.x) * (it.position.x - g.start.x) +
          (it.position.y - g.start.y) * (it.position.y - g.start.y) ≤ e.radius * e.radius)) := by
  refine ⟨count_events gs its, events_pairwise gs its, fun e he => ?_⟩
  obtain ⟨gi, ii, g, it, hg, hit, rfl⟩ := mem_pairEvents_iff.mp ((mem_events_iff gs its).mp he)
  refine ⟨g, it, hg, hit, rfl, rfl, Event.ofPair_time .., Event.collected_ofPair .., fun hst hx hy => ?_⟩
  rw [Event.collected_ofPair]
  exact ⟨(sight_of_stationary hst hx hy).1, collected_of_stationary _ hst hx hy⟩

/-- A gatherer standing at the origin with reach `0.3` misses an item at distance 1. -/
theorem events_stationary_miss :
    (Event.ofPair 0 0 ⟨Point.origin, Point.origin, 0.3⟩ ⟨⟨1.0, 0.0⟩, 0.0⟩).collected = false := by
  have hmem : Event.ofPair 0 0 ⟨Point.origin, Point.origin, 0.3⟩ ⟨⟨1.0, 0.0⟩, 0.0⟩ ∈
      events [⟨Point.origin, Point.origin, 0.3⟩] [⟨⟨1.0, 0.0⟩, 0.0⟩] := by
    simp [events, pairEvents]
  obtain ⟨g, it, hg, hit, -, -, -, -, hst⟩ :=
    (events_one_per_pair_sorted_stably [⟨Point.origin, Point.origin, 0.3⟩] [⟨⟨1.0, 0.0⟩, 0.0⟩]).2.2 _ hmem
  simp only [Event.ofPair_gatherer, Event.ofPair_item, List.getElem?_cons_zero,
    Option.some.injEq] at hg hit
  subst hg hit
  have hfar : ¬ ((1.0 : Float) - 0.0) * (1.0 - 0.0) + (0.0 - 0.0) * (0.0 - 0.0) ≤ (0.3 + 0.0) * (0.3 + 0.0) := by
    decide
  exact Bool.eq_false_iff.mpr fun h => hfar ((hst (by decide) (by decide) (by decide)).2.mp h)

end DogCourier
