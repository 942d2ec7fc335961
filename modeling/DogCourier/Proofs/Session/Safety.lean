import DogCourier.Proofs.Session.Loot
import DogCourier.Proofs.Session.Spawn

/-! # What a session's tick can halt on, and what it reads

    A session's tick halts only when a duration sum reaches the bound: the supply's idle
    time plus `dt` while spawning, or a dog's time alive plus `dt` while retiring.
    Movement and gathering leave every dog's time alive as it was, so the dog whose sum
    overflows is one the session held before the tick (`tick_eq_error`).

    Every index the tick reads is in range:

    * a gathering event, when it is replayed, names one of the dogs in id order and one
      of the items (the free loot in id order, then the offices), and the taken marks it
      meets are exactly as many as the free loot (`gatherEvents_index`);
    * each spawned item has a kind of the map's loot table and lies on the road at a
      drawn index of the map's roads (`spawnLoot_drawn`);
    * the rectangles the clamp consults at a cell are those of the roads whose indices
      the cell registers, every one of them an index of a road
      (`RoadNet.lt_of_mem_roadsAt`, `RoadNet.rectsAt_eq`). -/

namespace DogCourier

/-! ## Halting -/

/-- A sum of durations fails only at the bound. -/
theorem Duration.add_eq_error {a b : Duration} {h : Halt} (he : a.add b = .error h) :
    Duration.bound ≤ a.nanos + b.nanos := by
  by_contra hlt
  rw [Duration.add, Duration.ofNanos?, dif_pos (by omega)] at he
  cases he

/-- A supply halts only when its idle time plus `dt` reaches the bound. -/
theorem Supply.generate_eq_error {s : Supply} {dt : Duration} {loot looters : Nat} {roll : Float}
    {h : Halt} (he : s.generate dt loot looters roll = .error h) :
    Duration.bound ≤ s.idle.nanos + dt.nanos := by
  unfold Supply.generate at he
  cases hadd : s.idle.add dt with
  | error e => exact Duration.add_eq_error hadd
  | ok idle =>
    simp only [hadd, bind, Except.bind] at he
    cases he

namespace Session

theorem advance_alive (d : Dog) (p : Option (Point × Bool)) : (advance d p).alive = d.alive := by
  rcases p with _ | ⟨reached, blocked⟩ <;> rfl

/-- Stores that agree, handle by handle, on what `f` reads of their dogs agree on it item by
item. -/
theorem items_map_of_frame {β : Type} (f : Dog → β) {st st' : Store Dog}
    (h : st'.slots.toList.map (fun e => (e.1, f e.2)) = st.slots.toList.map fun e => (e.1, f e.2)) :
    st'.items.map f = st.items.map f := by
  have hsnd := congrArg (List.map Prod.snd) h
  simpa [Store.items_eq, List.map_map, Function.comp_def] using hsnd

section Halting

variable {dt : Duration} {h : Halt}

/-- Spawning halts only when the supply's idle time plus `dt` reaches the bound. -/
theorem spawnLoot_eq_error {s : Session} (he : s.spawnLoot dt = .error h) :
    Duration.bound ≤ s.supply.idle.nanos + dt.nanos := by
  unfold spawnLoot at he
  simp only [bind, Except.bind] at he
  split at he
  · rename_i e hg
    exact Supply.generate_eq_error hg
  · split at he
    · cases he
    · split at he <;> cases he

theorem age_eq_error {moved : List Nat} {d : Dog} (he : age dt moved d = .error h) :
    Duration.bound ≤ d.alive.nanos + dt.nanos := by
  unfold age at he
  cases hadd : d.alive.add dt with
  | error e => exact Duration.add_eq_error hadd
  | ok alive => simp [hadd, bind, Except.bind, pure, Except.pure] at he

/-- Retirement halts only at a dog whose time alive plus `dt` reaches the bound. -/
theorem retire_eq_error {dogs : Store Dog} {moved : List Nat} {threshold : Duration}
    (he : retire dogs dt moved threshold = .error h) :
    ∃ d ∈ dogs.items, Duration.bound ≤ d.alive.nanos + dt.nanos := by
  unfold retire at he
  cases hs : dogs.slots.toList.mapM (fun e => age dt moved e.2) with
  | ok aged =>
    rw [hs] at he
    simp [bind, Except.bind, pure, Except.pure] at he
  | error x =>
    -- the first dog whose ageing fails
    obtain ⟨e, hmem, hx⟩ := exists_of_mapM_eq_error hs
    refine ⟨e.2, ?_, age_eq_error hx⟩
    rw [Store.items_eq]
    exact List.mem_map_of_mem hmem

/-- A session's tick halts only when a dog's time alive plus `dt`, or the supply's idle
time plus `dt`, reaches the bound. -/
theorem tick_eq_error {s : Session} (he : s.tick dt = .error h) :
    (∃ d ∈ s.dogs.items, Duration.bound ≤ d.alive.nanos + dt.nanos) ∨
      Duration.bound ≤ s.supply.idle.nanos + dt.nanos := by
  unfold Session.tick at he
  split at he
  · cases he
  · rename_i dogs moved hmove
    simp only [bind, Except.bind] at he
    split at he
    · rename_i e hspawn
      have hidle := spawnLoot_eq_error hspawn
      exact .inr hidle
    · rename_i v hspawn
      obtain ⟨s₂, spawned⟩ := v
      cases spawned with
      | error e => cases he
      | ok count =>
        dsimp only at he
        split at he
        · rename_i e hretire
          obtain ⟨d, hd, hover⟩ := retire_eq_error hretire
          -- the dogs that retire carry the times alive the session's dogs had
          have halive : s₂.gather.1.dogs.items.map Dog.alive = s.dogs.items.map Dog.alive := by
            apply items_map_of_frame Dog.alive
            rw [gather_frame s₂ Dog.alive (fun _ _ _ => rfl), (spawnLoot_ok hspawn).1]
            exact moveDogs_frame Dog.alive advance_alive hmove
          obtain ⟨d₀, hd₀, heq⟩ := List.mem_map.mp (halive ▸ List.mem_map_of_mem hd)
          exact .inl ⟨d₀, hd₀, heq ▸ hover⟩
        · cases he

end Halting

end Session

/-! ## Indices -/

/-- Every pair event names a gatherer and an item by their places in the lists. -/
theorem mem_pairEvents {gs : List Gatherer} {its : List Item} {ev : Event}
    (h : ev ∈ pairEvents gs its) : ev.gatherer < gs.length ∧ ev.item < its.length := by
  unfold pairEvents at h
  simp only [List.mem_flatten, List.mem_map] at h
  obtain ⟨_, ⟨⟨g, gi⟩, hg, rfl⟩, hev⟩ := h
  obtain ⟨⟨it, ii⟩, hit, rfl⟩ := List.mem_map.mp hev
  show gi < gs.length ∧ ii < its.length
  exact ⟨by simpa using (List.mem_zipIdx hg).2.1, by simpa using (List.mem_zipIdx hit).2.1⟩

theorem mem_events {gs : List Gatherer} {its : List Item} {ev : Event}
    (h : ev ∈ events gs its) : ev.gatherer < gs.length ∧ ev.item < its.length :=
  mem_pairEvents (List.mem_mergeSort.mp h)

namespace Session

/-- Each gathering event, as it is replayed, names one of the dogs in id order and one of
the items, the free loot in id order then the offices; the taken marks it meets are as many
as the free loot, so an item below that count has its mark. -/
theorem gatherEvents_index (s : Session) {pre post : List Event} {ev : Event}
    (hs : s.gatherEvents = pre ++ ev :: post) :
    ev.gatherer < s.dogsById.length ∧ ev.item < s.lootById.length + s.map.offices.length ∧
      (pre.foldl (collect s.map s.dogsById s.lootById)
        (s.dogs, List.replicate s.lootById.length false, {})).2.1.length = s.lootById.length := by
  have hmem : ev ∈ s.gatherEvents := by
    rw [hs]
    exact List.mem_append_right _ List.mem_cons_self
  obtain ⟨hg, hi⟩ := mem_events hmem
  refine ⟨by simpa using hg, by simpa using hi, ?_⟩
  rw [run_length, List.length_replicate]

/-- One item placed, its draws named: a road index, a kind and a point of the road. -/
theorem placeLoot_succ_eq (roads : Array Road) (kinds n first : Nat) (store : Store Loot)
    (st : Stream) :
    placeLoot roads kinds (n + 1) first store st =
      placeLoot roads kinds n (first + 1)
        (store.spawn ⟨first, ((st.below roads.size).2.below kinds).1,
          Coords.ofPoint ((roads[(st.below roads.size).1]!).pointAt
            ((st.below roads.size).2.below kinds).2.unit.1)⟩).1
        ((st.below roads.size).2.below kinds).2.unit.2 :=
  rfl

/-- With roads and kinds to draw from, each placed item has a kind of the table and lies on
the road at a drawn index of the roads. -/
theorem placeLoot_drawn {roads : Array Road} {kinds : Nat} (hr : 0 < roads.size) (hk : 0 < kinds) :
    ∀ (n first : Nat) (store : Store Loot) (st : Stream), ∃ new : List Loot,
      (placeLoot roads kinds n first store st).1.items = store.items ++ new ∧
      ∀ l ∈ new, l.kind < kinds ∧
        ∃ r t, r < roads.size ∧ l.position = Coords.ofPoint ((roads[r]!).pointAt t)
  | 0, _, _, _ => ⟨[], by simp [placeLoot], by simp⟩
  | n + 1, first, store, st => by
    rw [placeLoot_succ_eq]
    obtain ⟨new, hitems, hnew⟩ := placeLoot_drawn hr hk n (first + 1) _ _
    refine ⟨_ :: new, by rw [hitems]; simp; rfl, ?_⟩
    intro l hl
    rcases List.mem_cons.mp hl with rfl | hl
    · exact ⟨Stream.below_lt _ hk, _, _, Stream.below_lt st hr, rfl⟩
    · exact hnew l hl

/-- Spawning adds items, each of a kind of the map's loot table and on the road at a drawn
index of the map's roads: the guard against an empty road list or loot table makes both
draws land in range. -/
theorem spawnLoot_drawn {s s₂ : Session} {dt : Duration} {count : Nat}
    (h : s.spawnLoot dt = .ok (s₂, .ok count)) :
    ∃ new : List Loot, s₂.loot.items = s.loot.items ++ new ∧
      ∀ l ∈ new, l.kind < s.map.lootKinds.length ∧
        ∃ r t, r < s.map.roads.roads.size ∧
          l.position = Coords.ofPoint ((s.map.roads.roads[r]!).pointAt t) := by
  obtain ⟨_, _, -, ⟨-, rfl, -⟩ | ⟨-, -, -, hr⟩ | ⟨hguard, -, rfl, -⟩⟩ := spawnLoot_cases h
  · -- no roads or no kinds: nothing spawns
    exact ⟨[], by simp, by simp⟩
  · cases hr
  · simp only [Bool.or_eq_false_iff, beq_eq_false_iff_ne, Array.isEmpty_eq_false_iff] at hguard
    exact placeLoot_drawn (Array.size_pos_iff.mpr hguard.1) (Nat.pos_of_ne_zero hguard.2) _ _ _ _

end Session

end DogCourier
