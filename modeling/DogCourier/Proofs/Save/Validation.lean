import DogCourier.Proofs.Save.Checks
import DogCourier.Proofs.Session.Restore

/-! # Restoring answers the first failing check

    Restoring a saved game validates it through three hooks of the session, each checking
    against the session built so far: a dog against the dogs before it and the loot in
    their bags, an item against everything restored before it, the counters against all
    of it. This module shows that this incremental validation is the plain check list of
    `SaveData.checks`, read in order.

    * `Answers r P x`: `x` refuses with `r` when `r` is a refusal, and otherwise succeeds
      with a value satisfying `P`; it composes along `bind` (`Answers.bind`);
    * `Session.Restored`: the state of a session part way through rebuilding, said with
      the saved dogs and items taken so far;
    * `Session.Restored.restoreDog`, `Session.Restored.restoreLoot`,
      `Session.Restored.setCounters`: each hook answers its own checks;
    * `Game.restore_answers`, `Game.restore_accepts_exactly_restorable`: restoring succeeds
      exactly on restorable saves, and otherwise refuses with the first failing check. -/

namespace DogCourier

section Answers

variable {ε ε' α β : Type} {r r' : Option ε} {P P' : α → Prop} {Q : β → Prop} {x : Except ε α}

/-- `x` answers a run of checks whose first refusal is `r`: with that refusal when there is
one, and otherwise with a value satisfying `P`. -/
def Answers (r : Option ε) (P : α → Prop) (x : Except ε α) : Prop :=
  match r with
  | some e => x = .error e
  | none => ∃ a, x = .ok a ∧ P a

@[simp] theorem answers_some {e : ε} : Answers (some e) P x ↔ x = .error e := Iff.rfl

@[simp] theorem answers_none : Answers none P x ↔ ∃ a, x = .ok a ∧ P a := Iff.rfl

/-- Checks run one after the other: the first refusal of both runs is the first run's, or
else the second's. -/
theorem Answers.bind {f : α → Except ε β} (hx : Answers r P x) (hf : ∀ a, P a → Answers r' Q (f a)) :
    Answers (r.or r') Q (x >>= f) := by
  cases r with
  | some e =>
    rw [answers_some] at hx
    rw [hx]
    rfl
  | none =>
    obtain ⟨a, rfl, ha⟩ := hx
    exact hf a ha

theorem Answers.imp (hx : Answers r P x) (h : ∀ a, P a → P' a) : Answers r P' x := by
  cases r with
  | some e => exact hx
  | none =>
    obtain ⟨a, rfl, ha⟩ := hx
    exact ⟨a, rfl, h a ha⟩

theorem Answers.mapError (g : ε → ε') (hx : Answers r P x) : Answers (r.map g) P (x.mapError g) := by
  cases r with
  | some e =>
    rw [answers_some] at hx
    rw [hx]
    rfl
  | none =>
    obtain ⟨a, rfl, ha⟩ := hx
    exact ⟨a, rfl, ha⟩

/-- A step that cannot refuse keeps the first refusal. -/
theorem Answers.bind_pure {f : α → β} (hx : Answers r P x) (hf : ∀ a, P a → Q (f a)) :
    Answers r Q (x >>= fun a => pure (f a)) := by
  have h : Answers (r.or none) Q (x >>= fun a => pure (f a)) :=
    hx.bind fun a ha => ⟨f a, rfl, hf a ha⟩
  rwa [Option.or_none] at h

/-- A check that passes as `b` says, and refuses with `e` where the code finds `c`, refuses
before anything after it runs. -/
theorem Answers.check {c : Prop} [Decidable c] {b : Bool} (hc : c ↔ b = false) (e : ε)
    (hx : Answers r P x) : Answers (if b then r else some e) P (if c then .error e else x) := by
  cases b with
  | false =>
    rw [if_pos (hc.mpr rfl)]
    rfl
  | true =>
    rw [if_neg (fun h => Bool.noConfusion (hc.mp h))]
    exact hx

theorem Answers.error_iff (hx : Answers r P x) (e : ε) : x = .error e ↔ r = some e := by
  cases r with
  | some e' =>
    rw [answers_some] at hx
    rw [hx, Except.error.injEq, Option.some.injEq]
  | none =>
    obtain ⟨a, rfl, -⟩ := hx
    simp

theorem Answers.ok_iff (hx : Answers r P x) : (∃ a, x = .ok a) ↔ r = none := by
  cases r with
  | some e =>
    rw [answers_some] at hx
    simp [hx]
  | none =>
    obtain ⟨a, rfl, -⟩ := hx
    simp

end Answers

namespace Index

variable {κ : Type} [BEq κ] [LawfulBEq κ] {ix : Index κ} {k k' : κ} {v : Nat}

theorem mem_keys_insert : k' ∈ (ix.insert k v).keys ↔ k' = k ∨ k' ∈ ix.keys := by
  by_cases h : k' = k <;> simp [insert, erase, keys, h]

end Index

namespace Session

section Counters

variable {L L' : List Nat}

/-- Lists with the same members have the same largest number. -/
theorem largest_congr (h : ∀ k, k ∈ L ↔ k ∈ L') : largest L = largest L' := by
  cases hL : largest L with
  | none =>
    cases L' with
    | nil => rfl
    | cons k _ =>
      have hk := (h k).mpr List.mem_cons_self
      simp [largest_eq_none hL] at hk
  | some a =>
    have ha : a ∈ L' := (h a).mp (largest_mem hL)
    cases hL' : largest L' with
    | none => simp [largest_eq_none hL'] at ha
    | some b =>
      have hab : a ≤ b := le_largest hL' a ha
      have hba : b ≤ a := le_largest hL b ((h b).mpr (largest_mem hL'))
      rw [Nat.le_antisymm hab hba]

/-- A counter is behind exactly when some id is not below it. -/
theorem le_largest_iff {a md : Nat} (hm : largest L = some md) :
    a ≤ md ↔ decide (∀ i ∈ L, i < a) = false := by
  rw [decide_eq_false_iff_not]
  constructor
  · intro ha hall
    have := hall md (largest_mem hm)
    omega
  · intro hn
    by_contra hlt
    exact hn fun i hi => Nat.lt_of_le_of_lt (le_largest hm i hi) (by omega)

/-- A counter compared with the largest of some ids, refused with `e md` when it is not
above the largest `md`, answers the check that every id is below it. -/
theorem answers_counter {ε α : Type} {r : Option ε} {P : α → Prop} {y : Except ε α} {a : Nat}
    (e : Nat → ε) (hy : Answers r P y) :
    Answers (if decide (∀ i ∈ L, i < a) then r else some (e ((largest L).getD 0))) P
      (match largest L with
        | some md => if a ≤ md then .error (e md) else y
        | none => y) := by
  cases hm : largest L with
  | none =>
    rw [if_pos (by simp [largest_eq_none hm])]
    exact hy
  | some md => exact Answers.check (le_largest_iff hm) _ hy

end Counters

/-- A session on map `m` part way through being rebuilt: the saved dogs `ds` were taken
back in order, then the free items `ls`, and nothing else. -/
structure Restored (m : Map) (ds : List SavedDog) (ls : List Loot) (s : Session) : Prop where
  map : s.map = m
  dogs : s.dogs.items = ds.map SavedDog.toDog
  loot : s.loot.items = ls
  ids : ∀ k, k ∈ s.dogIndex.keys ↔ k ∈ ds.map SavedDog.id
  names : ∀ n, n ∈ s.names.keys ↔ n ∈ ds.map SavedDog.name

theorem restored_new (m : Map) (settings : Settings) : (Session.new m settings).Restored m [] [] where
  map := rfl
  dogs := rfl
  loot := rfl
  ids := by simp [Session.new, Index.keys]
  names := by simp [Session.new, Index.keys]

variable {m : Map} {ds : List SavedDog} {ls : List Loot} {s : Session}

namespace Restored

theorem lootIds (h : s.Restored m ds ls) :
    s.lootIds = ls.map (·.id) ++ SavedSession.bagIds ds := by
  rw [Session.lootIds, h.loot, h.dogs]
  simp [SavedSession.bagIds, List.flatMap, SavedDog.toDog, Function.comp_def]

theorem insertDog (h : s.Restored m ds ls) (d : SavedDog) :
    (s.insertDog d.toDog).Restored m (ds ++ [d]) ls where
  map := h.map
  dogs := by rw [items_insertDog, h.dogs, List.map_append, List.map_singleton]
  loot := h.loot
  ids k := by
    rw [insertDog_dogIndex, Index.mem_keys_insert, h.ids]
    simp [SavedDog.toDog, or_comm]
  names n := by
    rw [insertDog_names, Index.mem_keys_insert, h.names]
    simp [SavedDog.toDog, or_comm]

end Restored

/-- The first clash of a bag is the refusal of the first failing check of its items,
against any list with the members of `seen`. -/
theorem firstClash_eq_firstFailing : ∀ {seen seen' : List Nat} (bag : List Loot),
    (∀ k, k ∈ seen ↔ k ∈ seen') →
      (firstClash seen bag).map SessionError.duplicateLootId =
        firstFailing (SavedSession.itemChecks seen' bag)
  | _, _, [], _ => rfl
  | seen, seen', l :: rest, h => by
    have hc : seen.contains l.id = seen'.contains l.id := by simp [h]
    rw [firstClash, SavedSession.itemChecks, firstFailing_cons, hc]
    cases seen'.contains l.id with
    | true => rfl
    | false =>
      -- the item's id joins those seen, at the front in one list and at the back in the other
      exact firstClash_eq_firstFailing rest fun k => by simp [h, or_comm]

/-- Restoring a dog into a session that took back the saved dogs before it answers the
dog's own checks. -/
theorem Restored.restoreDog (h : s.Restored m ds []) (d : SavedDog) :
    Answers (firstFailing (SavedSession.dogChecks m ds d)) (Restored m (ds ++ [d]) [])
      (s.restoreDog d.toDog) := by
  have hclash : (firstClash s.lootIds d.bag).map SessionError.duplicateLootId =
      firstFailing (SavedSession.itemChecks (SavedSession.bagIds ds) d.bag) :=
    firstClash_eq_firstFailing d.bag fun k => by simp [h.lootIds]
  have hbag : d.toDog.bag = d.bag := rfl
  unfold Session.restoreDog SavedSession.dogChecks
  simp only [firstFailing_cons, h.map, hbag]
  refine Answers.check (by simp [Index.mem_iff, h.ids, SavedDog.toDog]) _ ?_
  refine Answers.check (by simp [Index.mem_iff, h.names, SavedDog.toDog]) _ ?_
  refine Answers.check (by simp) _ ?_
  refine Answers.check (by simp only [SavedDog.toDog, Bool.not_eq_true']) _ ?_
  rw [← hclash]
  cases firstClash s.lootIds d.bag with
  | some i => rfl
  | none => exact ⟨_, rfl, h.insertDog d⟩

/-- An item's two checks come before those of the items after it. -/
theorem SavedSession.lootChecks_cons {inBags : List Nat} {before : List Loot} (l : Loot)
    (rest : List Loot) :
    SavedSession.lootChecks m inBags before (l :: rest) =
      [(!(inBags ++ before.map (·.id)).contains l.id, .duplicateLootId l.id),
        (m.roads.contains l.position.toPoint, .lootOffRoad l.id)] ++
        SavedSession.lootChecks m inBags (before ++ [l]) rest := rfl

/-- Putting back an item into a session that took back the saved dogs and the items before
it answers the item's own two checks. -/
theorem Restored.restoreLoot (h : s.Restored m ds ls) (l : Loot) :
    Answers (firstFailing
        [(!(SavedSession.bagIds ds ++ ls.map (·.id)).contains l.id, .duplicateLootId l.id),
          (m.roads.contains l.position.toPoint, .lootOffRoad l.id)])
      (Restored m ds (ls ++ [l])) (s.restoreLoot l) := by
  unfold Session.restoreLoot
  simp only [firstFailing_cons, firstFailing_nil, h.map]
  refine Answers.check (by rw [Bool.not_eq_false', h.lootIds]; simp [or_comm]) _ ?_
  refine Answers.check (by simp) _ ⟨_, rfl, ?_⟩
  exact { map := rfl, dogs := h.dogs, loot := by simp [← h.loot], ids := h.ids, names := h.names }

variable {ε : Type} {g : SessionError → ε}

/-- Taking back saved dogs one after another, each refusal reported through `g`, answers
their checks in order. -/
theorem Restored.foldlM_restoreDog {f : Session → SavedDog → Except ε Session}
    (hf : ∀ t d, f t d = (t.restoreDog d.toDog).mapError g) :
    ∀ {ds : List SavedDog} (ds' : List SavedDog) {s : Session}, s.Restored m ds [] →
      Answers ((firstFailing (SavedSession.dogsChecks m ds ds')).map g)
        (Restored m (ds ++ ds') []) (ds'.foldlM f s)
  | _, [], s, h => ⟨s, rfl, by simpa using h⟩
  | _, d :: rest, s, h => by
    rw [List.foldlM_cons, SavedSession.dogsChecks, firstFailing_append, Option.map_or, hf]
    refine ((h.restoreDog d).mapError g).bind fun t ht => ?_
    simpa using Restored.foldlM_restoreDog hf rest ht

/-- Putting back saved items one after another, each refusal reported through `g`, answers
their checks in order. -/
theorem Restored.foldlM_restoreLoot {f : Session → Loot → Except ε Session}
    (hf : ∀ t l, f t l = (t.restoreLoot l).mapError g) :
    ∀ {ls : List Loot} (ls' : List Loot) {s : Session}, s.Restored m ds ls →
      Answers ((firstFailing (SavedSession.lootChecks m (SavedSession.bagIds ds) ls ls')).map g)
        (Restored m ds (ls ++ ls')) (ls'.foldlM f s)
  | _, [], s, h => ⟨s, rfl, by simpa using h⟩
  | _, l :: rest, s, h => by
    rw [List.foldlM_cons, SavedSession.lootChecks_cons, firstFailing_append, Option.map_or, hf]
    refine ((h.restoreLoot l).mapError g).bind fun t ht => ?_
    simpa using Restored.foldlM_restoreLoot hf rest ht

/-- Setting the counters of a session that took back a saved session's dogs and items
answers the saved session's counter checks, and sets nothing else. -/
theorem Restored.setCounters {ss : SavedSession} (h : s.Restored m ss.dogs ss.loot) :
    Answers (firstFailing ss.counterChecks)
      (· = { s with nextDogId := ss.nextDogId, nextLootId := ss.nextLootId })
      (s.setCounters ss.nextDogId ss.nextLootId) := by
  have hloot : Answers (firstFailing [(decide (∀ i ∈ ss.lootIds, i < ss.nextLootId),
        .counterBehind .loot ss.nextLootId ((largest ss.lootIds).getD 0))])
      (· = { s with nextDogId := ss.nextDogId, nextLootId := ss.nextLootId })
      (Session.setCounters.lootStep s ss.nextDogId ss.nextLootId) := by
    -- the session lists the free items' ids first, the saved session the bags' ids first
    have hsame : ∀ k, k ∈ s.lootIds ↔ k ∈ ss.lootIds := fun k => by
      simp [h.lootIds, SavedSession.lootIds, or_comm]
    unfold Session.setCounters.lootStep
    rw [largest_congr hsame]
    simp only [firstFailing_cons, firstFailing_nil]
    exact answers_counter (SessionError.counterBehind .loot ss.nextLootId)
      (answers_none.mpr ⟨_, rfl, rfl⟩)
  unfold Session.setCounters SavedSession.counterChecks
  rw [largest_congr h.ids, firstFailing_cons]
  exact answers_counter (SessionError.counterBehind .dog ss.nextDogId) hloot

end Session

namespace Game

/-- Rebuilding a saved session answers its map check and then its own checks on that map. -/
theorem rebuild_answers (g : Game) (ss : SavedSession) :
    Answers (firstFailing (SaveData.mapChecks g ss)) (fun _ => True) (g.rebuild ss) := by
  unfold Game.rebuild SaveData.mapChecks
  cases g.findMap ss.mapId with
  | none => rfl
  | some m =>
    dsimp only
    rw [firstFailing_map, SavedSession.checks, firstFailing_append, firstFailing_append,
      Option.map_or, Option.map_or, Option.or_assoc]
    -- each hook's refusal is reported as a corrupt session of the map
    refine ((Session.restored_new m g.settings).foldlM_restoreDog
      (fun t d => by cases t.restoreDog d.toDog <;> rfl) ss.dogs).bind fun s hs => ?_
    rw [List.nil_append] at hs
    refine (hs.foldlM_restoreLoot (fun t l => by cases t.restoreLoot l <;> rfl) ss.loot).bind
      fun s' hs' => ?_
    rw [List.nil_append] at hs'
    have hc := (hs'.setCounters).mapError (SaveError.corrupt ss.mapId)
    revert hc
    cases s'.setCounters ss.nextDogId ss.nextLootId <;> exact fun hc => hc.imp fun _ _ => trivial

/-- Rebuilding saved sessions answers their checks in order, against the map ids seen
before, in whatever order those are kept. -/
theorem rebuildAll_answers (g : Game) : ∀ (sss : List SavedSession) {seen seen' : List String},
    (∀ k, k ∈ seen ↔ k ∈ seen') →
      Answers (firstFailing (SaveData.sessionChecks g seen' sss)) (fun _ => True)
        (g.rebuildAll seen sss)
  | [], _, _, _ => ⟨[], rfl, trivial⟩
  | ss :: rest, seen, seen', h => by
    rw [rebuildAll, SaveData.sessionChecks, firstFailing_cons, firstFailing_append]
    refine Answers.check (by simp [h]) _ ?_
    refine (rebuild_answers g ss).bind fun s _ => ?_
    exact (rebuildAll_answers g rest fun k => by simp [h, or_comm]).bind_pure fun _ _ => trivial

/-- Restoring a saved game answers its checks in order. -/
theorem restore_answers (g : Game) (d : SaveData) :
    Answers (firstFailing (d.checks g)) (fun _ => True) (g.restore d) := by
  unfold Game.restore SaveData.checks
  rw [firstFailing_cons]
  exact Answers.check (by simp) _
    ((rebuildAll_answers g d.sessions fun _ => Iff.rfl).bind_pure fun _ _ => trivial)

/-- Restoring a saved game succeeds exactly when the save is restorable on the game: the
current version, distinct map ids naming maps of the game, and every saved session
consistent on its map. Otherwise it refuses with the first failing check, in the order of
`SaveData.checks`. -/
theorem restore_accepts_exactly_restorable (g : Game) (d : SaveData) :
    ((∃ g', g.restore d = .ok g') ↔ d.Restorable g) ∧
      ∀ e, g.restore d = .error e ↔ firstFailing (d.checks g) = some e := by
  have h := restore_answers g d
  exact ⟨by rw [h.ok_iff, SaveData.firstFailing_checks_eq_none], h.error_iff⟩

end Game

end DogCourier
