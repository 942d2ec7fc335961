import DogCourier.Proofs.Session.Retirement
import DogCourier.Proofs.Session.Refusal

/-! # Where a tick leaves each dog

    Movement is the only phase of a tick that moves a dog. Every dog's previous position
    becomes its position. A dog standing still stays where it is; a dog with a velocity
    goes where the road network clamps its heading, `position + velocity * seconds`, and
    keeps its velocity when the clamp reached the heading (IEEE equality) and stops when
    it was cut short. Spawning, gathering and ageing touch a dog's bag, score and clock,
    and retirement takes dogs out, but none of them moves a dog.

    * `Dog.Travelled`: what movement makes of one dog, read off its plan
      (`advance_travelled`); `Travelled.free`: a dog still moving afterwards stands
      exactly one step of its velocity past its previous position;
    * `moveDogs_planned`, `retire_mem` and the motion frames of gathering and ageing:
      every dog after a tick sits under the handle of a dog before it;
    * `tick_moves_dogs`: after a successful tick every dog has travelled, and the report
      counts the dogs that had a velocity. -/

namespace DogCourier

namespace Store

variable {α : Type} {st : Store α} {h : Nat}

/-- Despawning leaves only entities that were stored, whichever one it moves. -/
theorem mem_of_mem_despawn {e : Nat × α} (he : e ∈ (st.despawn h).slots.toList) :
    e ∈ st.slots.toList := by
  change e ∈ (removeSlot st.slots h).toList at he
  unfold removeSlot at he
  split at he
  · rename_i i last _ hlast
    simp only [Array.toList_pop, Array.toList_set!] at he
    -- the freed slot now holds the last entity, itself stored
    rcases List.mem_or_eq_of_mem_set (List.mem_of_mem_dropLast he) with he | rfl
    · exact he
    · exact Array.mem_toList_iff.mpr (Array.mem_of_back? hlast)
  · exact he

theorem mem_of_mem_foldl_despawn {e : Nat × α} :
    ∀ (L : List (Nat × α)) (st : Store α),
      e ∈ (L.foldl (fun st e => st.despawn e.1) st).slots.toList → e ∈ st.slots.toList
  | [], _, he => he
  | x :: L, st, he => mem_of_mem_despawn (mem_of_mem_foldl_despawn L (st.despawn x.1) he)

end Store

/-- What movement reads and writes of a dog, with whom it is: its id and name, where it is,
where it was and its velocity. -/
def Dog.motion (d : Dog) : Nat × String × Point × Point × Coords :=
  (d.id, d.name, d.position, d.previous, d.velocity)

/-- Movement by `seconds` on `roads` took `d` to `d'`. Its previous position is where `d`
stood. Standing still, it stays there with its velocity. Moving, it is where the clamp of its
heading ends, and it keeps its velocity when that end is the heading and stops otherwise. -/
structure Dog.Travelled (d' : Dog) (roads : RoadNet) (seconds : Float) (d : Dog) : Prop where
  previous : d'.previous = d.position
  stands : d.velocity.isZero = true → d'.position = d.position ∧ d'.velocity = d.velocity
  moves : d.velocity.isZero = false →
    roads.clamp d.position (d.position + d.velocity.toVec.scale seconds) = .ok d'.position ∧
      d'.velocity = if d'.position == d.position + d.velocity.toVec.scale seconds then d.velocity
        else Coords.zero

@[simp] theorem Coords.isZero_zero : Coords.zero.isZero = true := by decide

namespace Dog.Travelled

variable {roads : RoadNet} {seconds : Float} {d d' d'' : Dog}

/-- Travelling reads only the motion of the dog it ends with. -/
theorem of_motion (h : d'.Travelled roads seconds d) (hm : d''.motion = d'.motion) :
    d''.Travelled roads seconds d := by
  simp only [Dog.motion, Prod.mk.injEq] at hm
  obtain ⟨-, -, hpos, hprev, hvel⟩ := hm
  exact ⟨hprev ▸ h.previous, hpos ▸ hvel ▸ h.stands, hpos ▸ hvel ▸ h.moves⟩

/-- A dog that still has a velocity after moving got where its heading pointed: it stands
one step of that velocity past its previous position. -/
theorem free (h : d'.Travelled roads seconds d) (hv : d'.velocity.isZero = false) :
    (d'.position == d'.previous + d'.velocity.toVec.scale seconds) = true := by
  cases hd : d.velocity.isZero
  · obtain ⟨-, hvel⟩ := h.moves hd
    -- had the clamp stopped short, the dog would have stopped
    cases hreach : d'.position == d.position + d.velocity.toVec.scale seconds
    · rw [hvel, hreach] at hv
      simp at hv
    · rw [hreach, if_pos rfl] at hvel
      rw [h.previous, hvel]
      exact hreach
  · rw [(h.stands hd).2, hd] at hv
    cases hv

end Dog.Travelled

namespace Session

variable {roads : RoadNet} {seconds : Float} {dogs dogs' : Store Dog} {moved : List Nat}

/-- A dog moved by its own plan has travelled. -/
theorem advance_travelled {d : Dog} {pl : Option (Point × Bool)} (h : plan roads seconds d = .ok pl) :
    (advance d pl).Travelled roads seconds d := by
  rcases plan_eq_ok.mp h with ⟨hz, rfl⟩ | ⟨hz, reached, hclamp, rfl⟩
  · exact ⟨rfl, fun _ => ⟨rfl, rfl⟩, fun hz' => absurd hz (by simp [hz'])⟩
  · refine ⟨rfl, fun hz' => absurd hz' (by simp [hz]), fun _ => ⟨hclamp, ?_⟩⟩
    -- a blocked dog stops; one that reached its heading keeps its velocity
    show (if (!(reached == d.position + d.velocity.toVec.scale seconds)) = true then Coords.zero
        else d.velocity) = if (reached == d.position + d.velocity.toVec.scale seconds) = true
        then d.velocity else Coords.zero
    cases reached == d.position + d.velocity.toVec.scale seconds <;> rfl

/-- Movement keeps every slot's handle and advances the dog in it by its own plan. -/
theorem moveDogs_planned (h : moveDogs roads seconds dogs = .ok (dogs', moved)) :
    List.Forall₂ (fun a b => b.1 = a.1 ∧ ∃ pl, plan roads seconds a.2 = .ok pl ∧ b.2 = advance a.2 pl)
      dogs.slots.toList dogs'.slots.toList := by
  obtain ⟨plans, hF, rfl, -⟩ := moveDogs_eq_ok.mp h
  rw [List.toList_toArray]
  refine (forall₂_zip_map hF).imp ?_
  rintro a b ⟨pl, hpl, rfl⟩
  exact ⟨rfl, pl, hpl, rfl⟩

/-- Every dog after movement is, under its handle, a dog before it that has travelled. -/
theorem moveDogs_travelled (h : moveDogs roads seconds dogs = .ok (dogs', moved)) {k : Nat} {x : Dog}
    (hx : (k, x) ∈ dogs'.slots.toList) :
    ∃ d, (k, d) ∈ dogs.slots.toList ∧ x.id = d.id ∧ x.name = d.name ∧ x.Travelled roads seconds d := by
  obtain ⟨⟨k', d⟩, hd, hk, pl, hpl, hxd⟩ := forall₂_exists_of_mem (moveDogs_planned h).flip hx
  dsimp only at hk hxd
  subst hk hxd
  exact ⟨d, hd, by cases pl <;> rfl, by cases pl <;> rfl, advance_travelled hpl⟩

variable {dt : Duration} {threshold : Duration} {leaving : List (Nat × Record)}

theorem age_motion {d d' : Dog} (h : age dt moved d = .ok d') : d'.motion = d.motion := by
  rw [age_eq h]
  rfl

/-- Every dog after retirement is, under its handle, the aged self of a dog before it. -/
theorem retire_mem (h : retire dogs dt moved threshold = .ok (dogs', leaving)) {k : Nat} {r : Dog}
    (hr : (k, r) ∈ dogs'.slots.toList) : ∃ d, (k, d) ∈ dogs.slots.toList ∧ age dt moved d = .ok r := by
  obtain ⟨aged, hF, rfl, -⟩ := retire_eq_ok h
  -- despawning leaves aged dogs only, each the image of a stored one
  have hmem : (k, r) ∈ (dogs.slots.toList.zip aged).map fun p => (p.1.1, p.2) := by
    simpa using Store.mem_of_mem_foldl_despawn _ _ hr
  obtain ⟨⟨k', d⟩, hd, hk, hage⟩ := forall₂_exists_of_mem (aged_zip hF).flip hmem
  dsimp only at hk hage
  subst hk
  exact ⟨d, hd, hage⟩

variable {s s' : Session} {report : TickReport}

/-- A successful tick reports as moved the dogs movement reported. -/
theorem tick_ok_moved (h : s.tick dt = .ok (s', .ok report)) :
    ∃ dogs moved, moveDogs s.map.roads dt.toSeconds s.dogs = .ok (dogs, moved) ∧
      report.moved = moved.length := by
  rcases tick_cases h with ⟨_, _, _, hr⟩ | ⟨_, _, _, _, _, hr⟩ |
      ⟨dogs, moved, _, _, _, _, hmove, -, -, -, hr⟩
  · cases hr
  · cases hr
  · obtain rfl := Except.ok.inj hr
    exact ⟨dogs, moved, hmove, rfl⟩

/-- Movement at a successful tick. The report counts the dogs that had a velocity. Every dog
after the tick is, under its handle, a dog from before it that has travelled: its previous
position is where that dog stood, a dog standing still has not moved, and a moving dog is
where the clamp of its heading ended, keeping its velocity if that is the heading and
stopped otherwise. So a dog that still has a velocity stands exactly one step of it past its
previous position. -/
theorem tick_moves_dogs (h : s.tick dt = .ok (s', .ok report)) :
    report.moved = (s.dogs.items.filter fun d => !d.velocity.isZero).length ∧
      ∀ k d', (k, d') ∈ s'.dogs.slots.toList →
        ∃ d, (k, d) ∈ s.dogs.slots.toList ∧ d'.id = d.id ∧ d'.name = d.name ∧
          d'.Travelled s.map.roads dt.toSeconds d ∧
          (d'.velocity.isZero = false →
            (d'.position == d'.previous + d'.velocity.toVec.scale dt.toSeconds) = true) := by
  obtain ⟨dogs, moved, s₂, leaving, hmove, hspawn, hretire, -⟩ := tick_eq_ok h
  obtain ⟨dogs₀, moved₀, hmove₀, hcount⟩ := tick_ok_moved h
  rw [hmove] at hmove₀
  obtain ⟨-, rfl⟩ := Prod.mk.inj (Except.ok.inj hmove₀)
  refine ⟨by rw [hcount, moveDogs_moved hmove, List.length_mergeSort, List.length_map], ?_⟩
  intro k d' hd'
  -- back through retirement, gathering and spawning to the moved dog under the same handle
  obtain ⟨g, hg, hage⟩ := retire_mem hretire hd'
  obtain ⟨x, hx, hxg⟩ :=
    exists_of_frame Dog.motion (gather_frame s₂ Dog.motion fun _ _ _ => rfl).symm hg
  have hx' : (k, x) ∈ dogs.slots.toList := by
    rw [(spawnLoot_ok hspawn).1] at hx
    exact hx
  obtain ⟨d, hd, hxid, hxname, htr⟩ := moveDogs_travelled hmove hx'
  have hm : d'.motion = x.motion := (age_motion hage).trans hxg.symm
  have htr' := htr.of_motion hm
  simp only [Dog.motion, Prod.mk.injEq] at hm
  exact ⟨d, hd, hm.1.trans hxid, hm.2.1.trans hxname, htr', htr'.free⟩

/-- On a one-road map, a dog heading east at four units a second, in a tick of a second. -/
theorem tick_moves_dogs_heading_east :
    let m : Map := { (default : Map) with roads := ⟨#[Road.horizontal ⟨0, 0⟩ 10], roadHalfWidth⟩ }
    let s : Session := ({ Session.new m default with nextDogId := 1 } : Session).insertDog
      { Dog.fresh 0 "rex" ⟨0.0, 0.0⟩ with velocity := Coords.ofVec ⟨4.0, 0.0⟩ }
    ∃ s' report, s.tick (Duration.ofSecs 1) = .ok (s', .ok report) ∧
      report.moved = (s.dogs.items.filter fun d => !d.velocity.isZero).length ∧
      ∀ k d', (k, d') ∈ s'.dogs.slots.toList →
        ∃ d, (k, d) ∈ s.dogs.slots.toList ∧ d'.id = d.id ∧ d'.name = d.name ∧
          d'.Travelled s.map.roads (Duration.ofSecs 1).toSeconds d ∧
          (d'.velocity.isZero = false →
            (d'.position == d'.previous + d'.velocity.toVec.scale (Duration.ofSecs 1).toSeconds) = true) := by
  intro m s
  obtain ⟨s', report, htick⟩ := exists_of_tickSucceeded
    (show tickSucceeded (s.tick (Duration.ofSecs 1)) = true by decide +kernel)
  exact ⟨s', report, htick, tick_moves_dogs htick⟩

end Session

end DogCourier
