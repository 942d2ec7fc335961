import DogCourier.Proofs.Time.Seconds
import DogCourier.Proofs.Session.Loot

/-! # The loot supply

    A call of `generate` adds its step to the idle time, halting only at the bound of
    durations, and spawns `spawnCount` items, never more than are missing; a positive
    count forgives the idle time (`generate_step`). So over any run of calls the idle time
    is the sum of the steps since the last call that spawned anything
    (`generateAll_idle`).

    The count goes through doubles: the shortage converted, times the chance, split into
    a floor and a fraction. A fraction exists only below `2^52`, where one more item still
    fits in 64 bits (`exactValue_of_floor_lt`, `floor_toUInt64_succ_lt`). At a chance of
    one each of these steps is exact up to a shortage of `2^53`, and the whole shortage
    spawns (`spawnCount_of_chance_eq_one`). The chance is one when the period is zero,
    and, for a power that sends zero to zero at every positive exponent, when the
    probability is one and time has passed, since a ratio of two positive durations is a
    positive double (`chanceBy_eq_one`). -/

namespace DogCourier

open Float.Model Float.Model.UnpackedFloat

namespace Supply

section Count

variable (s : Supply) (shortage : Nat) (roll : Float)

/-- At a chance of one, a shortage up to `2^53` spawns in full: the shortage converts
exactly, multiplying by one keeps it, and a whole double has no fraction. -/
theorem spawnCount_of_chance_eq_one (h : s.chance = 1.0) (hk : shortage ≤ 2 ^ 53) :
    s.spawnCount shortage roll = shortage := by
  unfold spawnCount
  split
  · omega
  · dsimp only
    rw [h, Float.mul_one_eq]
    have hnat : shortage.toUInt64.toNat = shortage := toNat_toUInt64 (by omega)
    have hx := exactValue_toFloat_eq_of_le shortage.toUInt64 (by rw [hnat]; exact hk)
    rw [hnat] at hx
    have hfl := exactValue_floor hx
    rw [Int.floor_natCast, Int.cast_natCast] at hfl
    -- the double is whole, so it has no fraction and is its own floor
    have hnot : ¬ shortage.toUInt64.toFloat - Binary64.floor shortage.toUInt64.toFloat > 0.0 := by
      rw [gt_iff_lt, lt_iff exactValue_zero (exactValue_sub_eq_zero hx hfl)]
      exact lt_irrefl 0
    simp only [hnot, decide_false, Bool.false_and, Bool.false_eq_true, if_false]
    rw [toUInt64_toNat hfl, Nat.floor_natCast]
    omega

end Count

section Chance

/-- The chance is one when the period is zero and the probability is not at most zero,
and when the probability is one and some time has passed, for a power that sends zero to
zero at a positive exponent: the idle time over the period is then positive. -/
theorem chanceBy_eq_one {pow : Float → Float → Float} (hpow : ∀ x, 0.0 < x → pow 0.0 x = 0.0)
    {s : Supply} (h : (s.period.isZero = true ∧ ¬ s.probability ≤ 0.0) ∨
      (s.probability = 1.0 ∧ 0 < s.idle.nanos)) :
    s.chanceBy pow = 1.0 := by
  unfold chanceBy
  rcases h with ⟨hz, hp⟩ | ⟨hp, hidle⟩
  · rw [if_neg hp, if_pos hz]
  · have hp0 : ¬ s.probability ≤ 0.0 := by
      rw [hp]
      decide
    rw [if_neg hp0]
    by_cases hz : s.period.isZero = true
    · rw [if_pos hz]
    · rw [if_neg hz]
      have hperiod : 0 < s.period.nanos := by
        simp only [Duration.isZero, beq_iff_eq] at hz
        omega
      have hratio := toSeconds_div_pos hidle hperiod
      dsimp only
      rw [hp, show (1.0 : Float) - 1.0 = 0.0 from rfl, hpow _ hratio,
        show (1.0 : Float) - 0.0 = 1.0 from rfl]
      decide

end Chance

section Generate

variable {s s' : Supply} {dt idle : Duration} {loot looters n : Nat} {roll : Float}

/-- A call that does not overflow adds its step to the idle time and spawns the count of
the supply with that idle time, forgiving the idle time when the count is positive. -/
theorem generate_of_add (h : s.idle.add dt = .ok idle) :
    s.generate dt loot looters roll =
      .ok (if 0 < ({ s with idle := idle } : Supply).spawnCount (looters - loot) roll
        then { s with idle := Duration.zero } else { s with idle := idle },
        ({ s with idle := idle } : Supply).spawnCount (looters - loot) roll) := by
  unfold generate
  rw [h]
  rfl

/-- A call succeeds exactly when the idle time plus its step stays below the bound. -/
theorem generate_isOk_iff :
    (∃ r, s.generate dt loot looters roll = .ok r) ↔ s.idle.nanos + dt.nanos < Duration.bound := by
  constructor
  · rintro ⟨r, hr⟩
    by_contra hle
    rw [generate, Duration.add_eq_error_of_le (by omega)] at hr
    cases hr
  · intro hlt
    exact ⟨_, generate_of_add (Duration.add_eq_ok hlt)⟩

/-- One call spawns at most the shortage, keeps the configuration, and leaves the idle
time forgiven after a spawn and grown by the step otherwise. -/
theorem generate_step (h : s.generate dt loot looters roll = .ok (s', n)) :
    n ≤ looters - loot ∧ s'.period = s.period ∧ s'.probability = s.probability ∧
      s'.idle.nanos = if 0 < n then 0 else s.idle.nanos + dt.nanos := by
  cases hadd : s.idle.add dt with
  | error e =>
    rw [generate, hadd] at h
    cases h
  | ok idle =>
    rw [generate_of_add hadd, Except.ok.injEq, Prod.mk.injEq] at h
    obtain ⟨rfl, rfl⟩ := h
    refine ⟨spawnCount_le _ _ _, ?_⟩
    split
    · exact ⟨rfl, rfl, rfl⟩
    · exact ⟨rfl, rfl, Duration.nanos_of_add_eq_ok hadd⟩

end Generate

section Run

/-- A supply run through calls `(dt, loot, looters, roll)` in order, with the count of each
call; the first overflow of the idle time stops the run. -/
def generateAll (s : Supply) :
    List (Duration × Nat × Nat × Float) → Except Halt (Supply × List Nat)
  | [] => .ok (s, [])
  | c :: cs => do
    let r ← s.generate c.1 c.2.1 c.2.2.1 c.2.2.2
    let rs ← r.1.generateAll cs
    return (rs.1, r.2 :: rs.2)

theorem generateAll_cons_eq_ok {s s' : Supply} {c : Duration × Nat × Nat × Float}
    {cs : List (Duration × Nat × Nat × Float)} {ns : List Nat}
    (h : s.generateAll (c :: cs) = .ok (s', ns)) :
    ∃ s₁ n ns', s.generate c.1 c.2.1 c.2.2.1 c.2.2.2 = .ok (s₁, n) ∧
      s₁.generateAll cs = .ok (s', ns') ∧ ns = n :: ns' := by
  simp only [generateAll, bind, Except.bind] at h
  split at h
  · cases h
  · rename_i r hr
    split at h
    · cases h
    · rename_i rs hrs
      simp only [pure, Except.pure, Except.ok.injEq, Prod.mk.injEq] at h
      obtain ⟨rfl, rfl⟩ := h
      exact ⟨r.1, r.2, rs.2, hr, hrs, rfl⟩

/-- Over a run every call spawns at most its shortage and the configuration stays; the
idle time is the sum of the steps since the last call that spawned anything, on top of
the starting idle time when none did. -/
theorem generateAll_idle {s s' : Supply} {cs : List (Duration × Nat × Nat × Float)}
    {ns : List Nat} (h : s.generateAll cs = .ok (s', ns)) :
    List.Forall₂ (fun c n => n ≤ c.2.2.1 - c.2.1) cs ns ∧ s'.period = s.period ∧
      s'.probability = s.probability ∧
      ∃ pre post, (cs.map (·.1)).zip ns = pre ++ post ∧ (∀ p ∈ post, p.2 = 0) ∧
        (∀ p ∈ pre.getLast?, 0 < p.2) ∧
        s'.idle.nanos = (if pre = [] then s.idle.nanos else 0) + (post.map (·.1.nanos)).sum := by
  -- induction on the calls, the first call's step lemma in front of the rest of the run
  induction cs generalizing s ns with
  | nil =>
    simp only [generateAll, Except.ok.injEq, Prod.mk.injEq] at h
    obtain ⟨rfl, rfl⟩ := h
    exact ⟨.nil, rfl, rfl, [], [], rfl, by simp, by simp, by simp⟩
  | cons c cs ih =>
    obtain ⟨s₁, n, ns', hgen, hrest, rfl⟩ := generateAll_cons_eq_ok h
    obtain ⟨hle, hper, hprob, hidle⟩ := generate_step hgen
    obtain ⟨hall, hper', hprob', pre, post, hzip, hpost, hlast, hidle'⟩ := ih hrest
    refine ⟨.cons hle hall, hper'.trans hper, hprob'.trans hprob, ?_⟩
    have hzip' : ((c :: cs).map (·.1)).zip (n :: ns') = (c.1, n) :: (pre ++ post) := by
      rw [List.map_cons, List.zip_cons_cons, hzip]
    by_cases hpre : pre = []
    · subst hpre
      by_cases hn : 0 < n
      · -- the first call is the last one that spawned
        refine ⟨[(c.1, n)], post, by rw [hzip']; rfl, hpost, by simpa using hn, ?_⟩
        rw [hidle', if_pos rfl, hidle, if_pos hn, if_neg (List.cons_ne_nil _ _)]
      · -- no call spawned
        refine ⟨[], (c.1, n) :: post, by rw [hzip']; rfl, ?_, by simp, ?_⟩
        · intro p hp
          rcases List.mem_cons.mp hp with rfl | hp
          · simp only
            omega
          · exact hpost p hp
        · rw [hidle', if_pos rfl, hidle, if_neg hn, if_pos rfl, List.map_cons, List.sum_cons]
          dsimp only
          omega
    · -- a later call spawned
      refine ⟨(c.1, n) :: pre, post, by rw [hzip']; rfl, hpost, ?_, ?_⟩
      · rwa [List.getLast?_cons_of_ne_nil hpre]
      · rw [hidle', if_neg hpre, if_neg (List.cons_ne_nil _ _)]

end Run

/-- The loot supply's contract: a call succeeds exactly when the idle time stays below the
bound and spawns at most the shortage; a fraction, and with it one item more, arises only
below `2^52`; over a run the idle time counts the steps since the last spawn; at a chance
of one a shortage up to `2^53` spawns in full; and the chance is one when the period is
zero, or when the probability is one and time has passed. -/
theorem generate_within_shortage_and_idle_since_spawn :
    (∀ (s : Supply) (dt : Duration) (loot looters : Nat) (roll : Float),
      (∃ r, s.generate dt loot looters roll = .ok r) ↔
        s.idle.nanos + dt.nanos < Duration.bound) ∧
    (∀ (s s' : Supply) (dt : Duration) (loot looters n : Nat) (roll : Float),
      s.generate dt loot looters roll = .ok (s', n) → n ≤ looters - loot) ∧
    (∀ x : Float, 0.0 < x - Binary64.floor x →
      (∃ v, exactValue x = some v ∧ |v| < 2 ^ 52) ∧
        (Binary64.floor x).toUInt64.toNat + 1 < 2 ^ 64) ∧
    (∀ (s s' : Supply) (cs : List (Duration × Nat × Nat × Float)) (ns : List Nat),
      s.generateAll cs = .ok (s', ns) →
      ∃ pre post, (cs.map (·.1)).zip ns = pre ++ post ∧ (∀ p ∈ post, p.2 = 0) ∧
        (∀ p ∈ pre.getLast?, 0 < p.2) ∧
        s'.idle.nanos = (if pre = [] then s.idle.nanos else 0) + (post.map (·.1.nanos)).sum) ∧
    (∀ (s : Supply) (dt idle : Duration) (loot looters : Nat) (roll : Float),
      s.idle.add dt = .ok idle → ({ s with idle := idle } : Supply).chance = 1.0 →
      looters - loot ≤ 2 ^ 53 → ∃ s', s.generate dt loot looters roll = .ok (s', looters - loot)) ∧
    ∀ pow : Float → Float → Float, (∀ x, 0.0 < x → pow 0.0 x = 0.0) → ∀ s : Supply,
      (s.period.isZero = true ∧ ¬ s.probability ≤ 0.0) ∨
        (s.probability = 1.0 ∧ 0 < s.idle.nanos) → s.chanceBy pow = 1.0 := by
  refine ⟨fun _ _ _ _ _ => generate_isOk_iff, fun _ _ _ _ _ _ _ h => generate_le h,
    fun x hx => ⟨exactValue_of_floor_lt hx, floor_toUInt64_succ_lt x hx⟩,
    fun _ _ _ _ h => (generateAll_idle h).2.2.2, ?_, fun _ hpow _ h => chanceBy_eq_one hpow h⟩
  intro s dt idle loot looters roll hadd hchance hk
  rw [generate_of_add hadd, spawnCount_of_chance_eq_one _ _ _ hchance hk]
  exact ⟨_, rfl⟩

/-- A supply with no period and probability one tops three looters up from nothing. -/
theorem generate_fills_three_looters :
    ∃ s', (Supply.new ⟨Duration.zero, 1.0⟩).generate (Duration.ofSecs 1) 0 3 0.5 = .ok (s', 3) :=
  generate_within_shortage_and_idle_since_spawn.2.2.2.2.1 _ _ (Duration.ofSecs 1) 0 3 0.5 rfl rfl
    (by decide)

end Supply

end DogCourier
