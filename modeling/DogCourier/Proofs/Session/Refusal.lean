import DogCourier.Proofs.Session.Phases

/-! # How a tick is refused

    A tick is not all or nothing: movement commits before spawning can fail. It is
    refused in two ways only, and each leaves a known state.

    * The road graph refuses a clamp: every clamp is planned before any dog moves, so
      the session is exactly as it was (`tick_refused`).
    * The loot counter cannot issue the ids the supply asks for: the ids are checked
      before any item is placed and the supply is put back, so only the movement phase
      and the one roll of the random stream have taken effect (`spawnLoot_refused`,
      `moveDogs_slots`).

    `tick_refusal_frames` states both. -/

namespace DogCourier

section Lists

variable {α β γ : Type}

/-- Zipping a list with a related list and mapping relates each item to its image. -/
theorem forall₂_zip_map {R : α → β → Prop} {f : α × β → γ} :
    ∀ {l₁ : List α} {l₂ : List β}, List.Forall₂ R l₁ l₂ →
      List.Forall₂ (fun a c => ∃ b, R a b ∧ c = f (a, b)) l₁ ((l₁.zip l₂).map f)
  | _, _, .nil => .nil
  | _, _, .cons hab hrest => .cons ⟨_, hab, rfl⟩ (forall₂_zip_map hrest)

end Lists

/-- `d'` is `d` after the movement phase: its previous position is where `d` stood, and
besides that only its position and its velocity differ, the velocity either kept or
zeroed. -/
def Dog.MovedFrom (d' d : Dog) : Prop :=
  ∃ p v, d' = { d with previous := d.position, position := p, velocity := v } ∧
    (v = d.velocity ∨ v = Coords.zero)

namespace Session

theorem advance_movedFrom (d : Dog) (pl : Option (Point × Bool)) : (advance d pl).MovedFrom d := by
  rcases pl with _ | ⟨reached, blocked⟩
  · exact ⟨d.position, d.velocity, rfl, .inl rfl⟩
  · refine ⟨reached, if blocked then Coords.zero else d.velocity, rfl, ?_⟩
    cases blocked
    · exact .inl rfl
    · exact .inr rfl

variable {roads : RoadNet} {seconds : Float} {dogs dogs' : Store Dog} {moved : List Nat}

/-- Movement keeps every slot's handle and moves the dog in it, and nothing else. -/
theorem moveDogs_slots (h : moveDogs roads seconds dogs = .ok (dogs', moved)) :
    dogs'.fresh = dogs.fresh ∧
      List.Forall₂ (fun a b => b.1 = a.1 ∧ b.2.MovedFrom a.2) dogs.slots.toList dogs'.slots.toList := by
  refine ⟨moveDogs_fresh h, ?_⟩
  obtain ⟨plans, hF, rfl, -⟩ := moveDogs_eq_ok.mp h
  rw [List.toList_toArray]
  refine (forall₂_zip_map hF).imp ?_
  rintro a b ⟨pl, -, rfl⟩
  exact ⟨rfl, advance_movedFrom a.2 pl⟩

variable {s s' : Session} {dt : Duration} {e : SessionError}

/-- A refused spawning phase was refused by the loot counter, and it took one roll of the
stream and nothing else. -/
theorem spawnLoot_refused (h : s.spawnLoot dt = .ok (s', .error e)) :
    e = .idOverflow .loot ∧ s' = { s with stream := s.stream.unit.2 } := by
  obtain ⟨_, _, -, ⟨-, -, hr⟩ | ⟨-, -, rfl, hr⟩ | ⟨-, -, -, hr⟩⟩ :=
    spawnLoot_cases h
  · cases hr
  · exact ⟨Except.error.inj hr, rfl⟩
  · cases hr

/-- A refused tick was refused by the road graph, with nothing changed, or by the loot
counter after the movement phase, with only that phase and one roll taken. -/
theorem tick_refused (h : s.tick dt = .ok (s', .error e)) :
    (∃ re, e = .roadGraph re ∧ s' = s) ∨
      ∃ dogs moved, moveDogs s.map.roads dt.toSeconds s.dogs = .ok (dogs, moved) ∧
        e = .idOverflow .loot ∧ s' = { s with dogs := dogs, stream := s.stream.unit.2 } := by
  rcases tick_cases h with ⟨re, -, rfl, hr⟩ | ⟨dogs, moved, e', hmove, hspawn, hr⟩ |
      ⟨_, _, _, _, _, _, -, -, -, -, hr⟩
  · exact .inl ⟨re, Except.error.inj hr, rfl⟩
  · obtain rfl := Except.error.inj hr
    obtain ⟨rfl, rfl⟩ := spawnLoot_refused hspawn
    exact .inr ⟨dogs, moved, hmove, rfl, rfl⟩
  · -- all four phases answer with a report, never with a refusal
    cases hr

/-- A tick is refused in two ways only. When the road graph refuses a clamp the session is
exactly as it was. When the loot counter cannot issue the ids, the loot, both counters, the
supply, both indexes and the map are as they were, the same dogs sit under the same
handles with the same bags, scores and lifetimes, and only the movement phase (positions,
previous positions, velocities of dogs that were stopped) and one roll of the random
stream have taken effect. -/
theorem tick_refusal_frames (h : s.tick dt = .ok (s', .error e)) :
    (∃ re, e = .roadGraph re ∧ s' = s) ∨
      (e = .idOverflow .loot ∧ s' = { s with dogs := s'.dogs, stream := s.stream.unit.2 } ∧
        (∃ moved, moveDogs s.map.roads dt.toSeconds s.dogs = .ok (s'.dogs, moved)) ∧
        s'.dogs.fresh = s.dogs.fresh ∧
        List.Forall₂ (fun a b => b.1 = a.1 ∧ b.2.MovedFrom a.2) s.dogs.slots.toList
          s'.dogs.slots.toList) := by
  rcases tick_refused h with ⟨re, rfl, rfl⟩ | ⟨dogs, moved, hmove, rfl, rfl⟩
  · exact .inl ⟨re, rfl, rfl⟩
  · obtain ⟨hfresh, hslots⟩ := moveDogs_slots hmove
    exact .inr ⟨rfl, rfl, ⟨moved, hmove⟩, hfresh, hslots⟩

/-- The tick answered that the loot counter refused it. -/
def refusedByLootCounter : Except Halt (Session × Except SessionError TickReport) → Bool
  | .ok (_, .error (.idOverflow .loot)) => true
  | _ => false

theorem eq_of_refusedByLootCounter {r : Except Halt (Session × Except SessionError TickReport)}
    (h : refusedByLootCounter r = true) : ∃ s', r = .ok (s', .error (.idOverflow .loot)) := by
  unfold refusedByLootCounter at h
  split at h
  · exact ⟨_, rfl⟩
  · cases h

/-- A session with one dog and no loot, on a map whose supply always tops up, and with its
loot counter at the last 64-bit id: its first tick is refused by the loot counter. -/
theorem tick_refusal_frames_at_last_id :
    let m : Map := { (default : Map) with
      roads := ⟨#[Road.horizontal ⟨0, 0⟩ 10], roadHalfWidth⟩, lootKinds := [⟨1, []⟩]
      supply := some ⟨Duration.zero, 1.0⟩ }
    let s : Session :=
      { (Session.new m default).insertDog (Dog.fresh 0 "rex" Point.origin) with nextLootId := idLimit - 1 }
    ∃ s', s.tick Duration.zero = .ok (s', .error (.idOverflow .loot)) ∧
      ((∃ re, SessionError.idOverflow .loot = .roadGraph re ∧ s' = s) ∨
        (SessionError.idOverflow .loot = .idOverflow .loot ∧
          s' = { s with dogs := s'.dogs, stream := s.stream.unit.2 } ∧
          (∃ moved, moveDogs s.map.roads Duration.zero.toSeconds s.dogs = .ok (s'.dogs, moved)) ∧
          s'.dogs.fresh = s.dogs.fresh ∧
          List.Forall₂ (fun a b => b.1 = a.1 ∧ b.2.MovedFrom a.2) s.dogs.slots.toList
            s'.dogs.slots.toList)) := by
  intro m s
  -- the draws and the supply's arithmetic are evaluated by the kernel
  have hrefused : refusedByLootCounter (s.tick Duration.zero) = true := by decide +kernel
  obtain ⟨s', h⟩ := eq_of_refusedByLootCounter hrefused
  exact ⟨s', h, tick_refusal_frames h⟩

end Session

end DogCourier
