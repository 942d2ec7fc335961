import DogCourier.Proofs.Game.Tick
import DogCourier.Proofs.Session.Safety
import DogCourier.Proofs.Float.Floor

/-! # A game tick halts only on a duration overflow

    A game tick adds `dt` to three kinds of duration: each dog's time alive, each
    session supply's idle time, and the time since its last save of each saver that
    counts. The tick halts only when one of those sums reaches the bound
    (`Game.tick_eq_error`); no other step of a tick stops the program. The indices the
    tick reads are all in range (`Session.gatherEvents_index`, `Session.spawnLoot_drawn`,
    `RoadNet.rectsAt_eq`), and the supply's count of whole items has room for the one its
    fraction may add (`floor_toUInt64_succ_lt`). -/

namespace DogCourier

/-- Some duration a tick of `dt` adds to reaches the bound: a dog's time alive or the
supply's idle time in one of the sessions, or the time since its last save of a saver
that counts. -/
def Game.TickOverflows (g : Game) (dt : Duration) : Prop :=
  (∃ s ∈ g.sessions, (∃ d ∈ s.dogs.items, Duration.bound ≤ d.alive.nanos + dt.nanos) ∨
      Duration.bound ≤ s.supply.idle.nanos + dt.nanos) ∨
    ∃ sv ∈ g.savers, sv.period.isZero = false ∧ Duration.bound ≤ sv.sinceSave.nanos + dt.nanos

namespace Game

/-- A saver halts only when it counts and its time since the last save plus `dt` reaches
the bound. -/
theorem Saver.onTick_eq_error {disk : ByteArray → Option String} {bytes : ByteArray}
    {dt : Duration} {sv : Saver} {h : Halt} (he : Saver.onTick disk bytes dt sv = .error h) :
    sv.period.isZero = false ∧ Duration.bound ≤ sv.sinceSave.nanos + dt.nanos := by
  unfold Saver.onTick at he
  by_cases hz : sv.period.isZero
  · simp [hz, pure, Except.pure] at he
  · cases hadd : sv.sinceSave.add dt with
    | error e => exact ⟨by simpa using hz, Duration.add_eq_error hadd⟩
    | ok since =>
      -- a saver that got past the sum comes back, whether it writes and however the disk answers
      by_cases hp : since ≥ sv.period
      · cases hd : disk bytes <;> simp [hz, hp, hadd, hd, bind, Except.bind, pure, Except.pure] at he
      · simp [hz, hp, hadd, bind, Except.bind, pure, Except.pure] at he

/-- A game tick halts only when a duration it adds `dt` to reaches the bound. -/
theorem tick_eq_error {g : Game} {dt : Duration} {h : Halt} (he : g.tick dt = .error h) :
    g.TickOverflows dt := by
  rw [tick_eq] at he
  cases hs : g.sessions.mapM fun s : Session => s.tick dt with
  | error e =>
    obtain ⟨s, hmem, hse⟩ := exists_of_mapM_eq_error hs
    exact .inl ⟨s, hmem, Session.tick_eq_error hse⟩
  | ok results =>
    rw [hs] at he
    cases hv : g.savers.mapM (Saver.onTick g.disk (g.advanced results).save dt) with
    | error e =>
      obtain ⟨sv, hmem, hsve⟩ := exists_of_mapM_eq_error hv
      exact .inr ⟨sv, hmem, Saver.onTick_eq_error hsve⟩
    | ok outs => simp [hv, Except.bind, Except.map] at he

end Game

/-- A game tick halts only when a duration sum it makes reaches the bound: a dog's time
alive, a supply's idle time or a counting saver's time since its last save, each plus `dt`.
Every index it reads is in range: a gathering event, as it is replayed, names one of the
dogs and one of the items and meets as many taken marks as there is free loot; each
spawned item has a kind of the map's loot table and lies on the road at a drawn index of
the map's roads; the rectangles consulted at a cell are those of the roads at the
indices the cell registers, all indices of roads. And when a supply's expected count is
above its floor, the floor as a 64-bit count leaves room for one more item. -/
theorem tick_halts_only_on_overflow_and_reads_in_range :
    (∀ (g : Game) (dt : Duration) (h : Halt), g.tick dt = .error h → g.TickOverflows dt) ∧
    (∀ (s : Session) (pre post : List Event) (ev : Event), s.gatherEvents = pre ++ ev :: post →
      ev.gatherer < s.dogsById.length ∧ ev.item < s.lootById.length + s.map.offices.length ∧
        (pre.foldl (Session.collect s.map s.dogsById s.lootById)
          (s.dogs, List.replicate s.lootById.length false, {})).2.1.length = s.lootById.length) ∧
    (∀ (s s₂ : Session) (dt : Duration) (count : Nat), s.spawnLoot dt = .ok (s₂, .ok count) →
      ∃ new : List Loot, s₂.loot.items = s.loot.items ++ new ∧
        ∀ l ∈ new, l.kind < s.map.lootKinds.length ∧
          ∃ r t, r < s.map.roads.roads.size ∧
            l.position = Coords.ofPoint ((s.map.roads.roads[r]!).pointAt t)) ∧
    (∀ (net : RoadNet) (c : Cell), (∀ i ∈ net.roadsAt c, i < net.roads.size) ∧
      net.rectsAt c = (net.roadsAt c).map fun i => (net.roads[i]!).rect net.offset) ∧
    (∀ x : Float, 0.0 < x - Binary64.floor x → (Binary64.floor x).toUInt64.toNat + 1 < 2 ^ 64) :=
  ⟨fun _ _ _ he => Game.tick_eq_error he,
    fun s _ _ _ hs => s.gatherEvents_index hs,
    fun _ _ _ _ h => Session.spawnLoot_drawn h,
    fun net c => ⟨fun _ hi => RoadNet.lt_of_mem_roadsAt hi, net.rectsAt_eq c⟩,
    floor_toUInt64_succ_lt⟩

/-- A saver that has counted almost the longest duration halts the tick that adds as much
again. -/
theorem tick_halts_at_saver_overflow :
    let g : Game := { Game.empty default with
      savers := [⟨Duration.ofSecs 1, Duration.ofSecs (2 ^ 64 - 1)⟩] }
    let dt := Duration.ofSecs (2 ^ 64 - 1)
    g.tick dt = .error .durationOverflow ∧ g.TickOverflows dt := by
  intro g dt
  have hhalt : g.tick dt = .error .durationOverflow := by rfl
  exact ⟨hhalt, tick_halts_only_on_overflow_and_reads_in_range.1 g dt _ hhalt⟩

end DogCourier
