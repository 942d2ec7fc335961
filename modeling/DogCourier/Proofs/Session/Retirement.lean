import DogCourier.Proofs.Session.Phases
import DogCourier.Proofs.Session.Restore
import DogCourier.Proofs.Time.Seconds

/-! # Ageing and retirement along a run

    A tick ages every dog by its step. A dog whose velocity was non-zero when the tick began
    was last moved at its end, even when the clamp stopped it on the way, and a dog idle for
    longer than the session's retirement time leaves: out of the store and both indexes, with
    a record of its name, the score gathering left it and its lifetime.

    Read for one dog that joined a session, a run of successful ticks, with steering requests
    and joins between them, is a history: each tick's step and whether the dog had a velocity
    when the tick began. Its lifetime is the sum of the steps (`lifetime`), its idle time the
    steps since the last tick in which it moved (`idleSince`).

    * `moved_contains`: the dogs movement reports as moved are those with a velocity;
    * `retire_slot`: ageing adds the step and moves the last move; each aged dog stays, or
      leaves with its record and takes its id and name out of the store;
    * `tick_dog`: the phases of a successful tick, read for one dog, and `Playing.tick`, the
      same read on the dog's history;
    * `Fate`, kept by `Fate.join`, `Fate.steer` and `Fate.tick`: the dog is in play with its
      clock while no prefix of its history idled too long, and out of the id index after;
    * `Run.fate`, the run lemma, and `joined_dog_lifetime_and_retirement`, the tick after any
      run read for the dog. -/

namespace DogCourier

/-- What ageing reads and writes of a dog: its id, its name, how long it has been alive and
when it last moved. -/
def Dog.clock (d : Dog) : Nat × String × Duration × Duration := (d.id, d.name, d.alive, d.lastMoved)

theorem Dog.clock_eq_iff {a b : Dog} :
    a.clock = b.clock ↔ a.id = b.id ∧ a.name = b.name ∧ a.alive = b.alive ∧ a.lastMoved = b.lastMoved := by
  simp [Dog.clock]

/-- A dog's idle time is what its last move lags behind its lifetime. -/
theorem Dog.idle_nanos {d : Dog} {k : Nat} (h : d.lastMoved.nanos + k = d.alive.nanos) :
    d.idle.nanos = k := by
  show d.alive.nanos - d.lastMoved.nanos = k
  omega

theorem Dog.idle_le_iff {d : Dog} {k : Nat} {T : Duration} (h : d.lastMoved.nanos + k = d.alive.nanos) :
    d.idle ≤ T ↔ k ≤ T.nanos := by
  show d.idle.nanos ≤ T.nanos ↔ _
  rw [Dog.idle_nanos h]

theorem Dog.lt_idle_iff {d : Dog} {k : Nat} {T : Duration} (h : d.lastMoved.nanos + k = d.alive.nanos) :
    T < d.idle ↔ T.nanos < k := by
  show T.nanos < d.idle.nanos ↔ _
  rw [Dog.idle_nanos h]

namespace Session

variable {s s' : Session}

/-! ## Movement and ageing, read for one dog -/

section Movement

variable {roads : RoadNet} {seconds : Float} {dogs dogs' : Store Dog} {moved : List Nat}

/-- A dog has a planned move exactly when its velocity is non-zero. -/
theorem plan_isSome {d : Dog} {p : Option (Point × Bool)} (h : plan roads seconds d = .ok p) :
    p.isSome = !d.velocity.isZero := by
  rcases plan_eq_ok.mp h with ⟨hz, rfl⟩ | ⟨hz, _, -, rfl⟩ <;> simp [hz]

theorem filter_planned : ∀ {L : List (Nat × Dog)} {plans : List (Option (Point × Bool))},
    List.Forall₂ (fun e p => plan roads seconds e.2 = .ok p) L plans →
      ((L.zip plans).filter fun x => x.2.isSome).map (·.1.2.id) =
        (L.filter fun e => !e.2.velocity.isZero).map (·.2.id)
  | _, _, .nil => rfl
  | _ :: _, _, .cons hp hrest => by
    simp only [List.zip_cons_cons, List.filter_cons, plan_isSome hp]
    split <;> simp [filter_planned hrest]

/-- The ids movement reports are those of the dogs that had a velocity, ascending. -/
theorem moveDogs_moved (h : moveDogs roads seconds dogs = .ok (dogs', moved)) :
    moved = ((dogs.items.filter fun d => !d.velocity.isZero).map (·.id)).mergeSort fun a b => a ≤ b := by
  obtain ⟨plans, hF, -, rfl⟩ := moveDogs_eq_ok.mp h
  rw [filter_planned hF, Store.items_eq, List.filter_map, List.map_map]
  rfl

/-- In a store whose dogs have ids of their own, a dog is among those that moved exactly
when it had a velocity. -/
theorem moved_contains (hids : (dogs.items.map (·.id)).Nodup)
    (h : moveDogs roads seconds dogs = .ok (dogs', moved)) {d : Dog} (hd : d ∈ dogs.items) :
    moved.contains d.id = !d.velocity.isZero := by
  rw [moveDogs_moved h, Bool.eq_iff_iff, List.contains_iff_mem, List.mem_mergeSort]
  simp only [List.mem_map, List.mem_filter]
  constructor
  · rintro ⟨e, ⟨he, hv⟩, hid⟩
    rwa [← List.inj_on_of_nodup_map hids he hd hid]
  · intro hv
    exact ⟨d, ⟨hd, hv⟩, rfl⟩

theorem advance_clock (d : Dog) (p : Option (Point × Bool)) : (advance d p).clock = d.clock := by
  rcases p with _ | ⟨reached, blocked⟩ <;> rfl

end Movement

/-- A dog stored under a handle has, in a store that agrees with it handle by handle on what
`f` reads, a dog under the same handle that reads the same. -/
theorem exists_of_frame {β : Type} (f : Dog → β) {st st' : Store Dog}
    (h : st'.slots.toList.map (fun e => (e.1, f e.2)) = st.slots.toList.map fun e => (e.1, f e.2))
    {k : Nat} {d : Dog} (hk : (k, d) ∈ st.slots.toList) :
    ∃ d', (k, d') ∈ st'.slots.toList ∧ f d' = f d := by
  have hmem : (k, f d) ∈ st'.slots.toList.map fun e => (e.1, f e.2) := by
    rw [h]
    exact List.mem_map_of_mem hk
  obtain ⟨⟨k', d'⟩, hd', he⟩ := List.mem_map.mp hmem
  obtain ⟨rfl, hf⟩ := Prod.mk.inj he
  exact ⟨d', hd', hf⟩

section Retire

variable {dt : Duration} {moved : List Nat} {threshold : Duration}
  {dogs dogs' : Store Dog} {leaving : List (Nat × Record)}

/-- Ageing adds the step to a dog's lifetime, and a dog among those that moved was last moved
at the end of it. -/
theorem age_ok {d d' : Dog} (h : age dt moved d = .ok d') :
    d'.alive.nanos = d.alive.nanos + dt.nanos ∧
      d'.lastMoved = if moved.contains d.id then d'.alive else d.lastMoved := by
  obtain ⟨alive, hadd, rfl⟩ := age_eq_ok.mp h
  exact ⟨Duration.nanos_of_add_eq_ok hadd, rfl⟩

/-- A dog that leaves a retirement phase takes out a key that ageing keeps and no other dog
shares. -/
theorem retire_key_gone {β : Type} (key : Dog → β)
    (hkey : ∀ {x y : Dog}, age dt moved x = .ok y → key y = key x)
    (hkeys : (dogs.items.map key).Nodup)
    (h : retire dogs dt moved threshold = .ok (dogs', leaving)) {k : Nat} {d r : Dog}
    (hk : (k, d) ∈ dogs.slots.toList) (hage : age dt moved d = .ok r) (hidle : threshold < r.idle) :
    key r ∉ dogs'.items.map key := by
  obtain ⟨slots, hF, -, hstay, -⟩ := retire_split h
  obtain ⟨e, he, hek, heage⟩ := forall₂_exists_of_mem hF hk
  have her : e = (k, r) := Prod.ext hek (Except.ok.inj (heage.symm.trans hage))
  subst her
  -- the aged slots carry the keys of the slots before, with no repeats
  have hslots : (slots.map fun x => key x.2).Nodup :=
    Aged.nodup_map (fun _ _ ha => hkey ha.2) hF
      (by simpa [Store.items_eq, Function.comp_def] using hkeys)
  intro hmem
  obtain ⟨y, hy, hyk⟩ := List.mem_map.mp hmem
  obtain ⟨x, hx, rfl⟩ := List.mem_map.mp (Store.items_eq dogs' ▸ hy)
  obtain ⟨hxs, hxidle⟩ := List.mem_filter.mp (hstay.subset hx)
  have hxe := List.inj_on_of_nodup_map hslots hxs he hyk
  subst hxe
  simp [hidle] at hxidle

/-- A retirement phase ages the dog under each handle. One idle for no longer than the threshold
stays there; one idle for longer leaves with its record, and its id and name, which no other
dog shares, are no longer in the store. -/
theorem retire_slot (hids : (dogs.items.map (·.id)).Nodup)
    (hnames : (dogs.items.map (·.name)).Nodup)
    (h : retire dogs dt moved threshold = .ok (dogs', leaving)) {k : Nat} {d : Dog}
    (hk : (k, d) ∈ dogs.slots.toList) :
    ∃ r, age dt moved d = .ok r ∧ (r.idle ≤ threshold → (k, r) ∈ dogs'.slots.toList) ∧
      (threshold < r.idle → (r.id, ⟨r.name, r.score, r.alive⟩) ∈ leaving ∧
        r.id ∉ dogs'.items.map (·.id) ∧ r.name ∉ dogs'.items.map (·.name)) := by
  obtain ⟨slots, hF, -, hstay, hleave⟩ := retire_split h
  obtain ⟨⟨k', r⟩, he, hek, hage⟩ := forall₂_exists_of_mem hF hk
  dsimp only at hek hage
  subst hek
  refine ⟨r, hage, fun hle => ?_, fun hlt => ⟨?_, ?_, ?_⟩⟩
  · have hkeep : decide (r.idle > threshold) = false := decide_eq_false (Nat.not_lt.mpr hle)
    exact hstay.mem_iff.mpr (List.mem_filter.mpr ⟨he, by simp [hkeep]⟩)
  · exact hleave.mem_iff.mpr
      (List.mem_map_of_mem (List.mem_filter.mpr ⟨he, decide_eq_true hlt⟩))
  · exact retire_key_gone (·.id) (fun ha => by rw [age_eq ha]) hids h hk hage hlt
  · exact retire_key_gone (·.name) (fun ha => by rw [age_eq ha]) hnames h hk hage hlt

end Retire

/-! ## One tick, read for one dog -/

section Tick

variable {dt : Duration} {report : TickReport}

/-- A tick takes ids out of the id index and puts none in, and keeps the dog counter and the
retirement time. -/
theorem tick_keeps {r : Except SessionError TickReport} (h : s.tick dt = .ok (s', r)) :
    s'.dogIndex.keys.Sublist s.dogIndex.keys ∧ s'.nextDogId = s.nextDogId ∧
      s'.retirementTime = s.retirementTime := by
  rcases tick_outcome h with rfl | ⟨dogs, moved, e, hmove, hspawn⟩ |
    ⟨dogs, moved, s₂, count, dogs', leaving, hmove, hspawn, hretire, rfl⟩
  · exact ⟨List.Sublist.refl _, rfl, rfl⟩
  · rcases spawnLoot_eq hspawn with ⟨sup, st, rfl⟩ | ⟨sup, n, st, st', rfl⟩ <;>
      exact ⟨List.Sublist.refl _, rfl, rfl⟩
  · rcases spawnLoot_eq hspawn with ⟨sup, st, rfl⟩ | ⟨sup, n, st, st', rfl⟩ <;>
      exact ⟨List.filter_sublist.map _, rfl, rfl⟩

/-- One successful tick, read for a dog of a consistent session. Movement and gathering keep
its id, name and clock; gathering leaves it a score; ageing adds the step to its lifetime
and, when it had a velocity as the tick began, moves its last move to the end of the tick.
Then it stays, aged, or it leaves with its record in the report, its id and its name no
longer among the dogs. -/
theorem tick_dog (hs : s.Inv) (h : s.tick dt = .ok (s', .ok report)) {d : Dog} (hd : d ∈ s.dogs.items) :
    ∃ (dogs : Store Dog) (moved : List Nat) (s₂ : Session) (g r : Dog),
      moveDogs s.map.roads dt.toSeconds s.dogs = .ok (dogs, moved) ∧
      { s with dogs := dogs }.spawnLoot dt = .ok (s₂, .ok report.spawned) ∧
      s₂.gather.1.dog d.id = some g ∧
      r.id = d.id ∧ r.name = d.name ∧ r.score = g.score ∧
      r.alive.nanos = d.alive.nanos + dt.nanos ∧
      r.lastMoved = (if d.velocity.isZero then d.lastMoved else r.alive) ∧
      (r.idle ≤ s.retirementTime → r ∈ s'.dogs.items) ∧
      (s.retirementTime < r.idle → ⟨r.name, r.score, r.alive⟩ ∈ report.retired ∧
        r.id ∉ s'.dogs.items.map (·.id) ∧ r.name ∉ s'.dogs.items.map (·.name)) := by
  obtain ⟨dogs, moved, s₂, leaving, hmove, hspawn, hretire, -, -, -, hreport⟩ := tick_eq_ok h
  obtain ⟨hdogs, -, hT, -⟩ := spawnLoot_ok hspawn
  have hg : s₂.gather.1.Inv := gather_inv (spawnLoot_inv (moveDogs_inv hs hmove) hspawn)
  -- follow the dog under its handle through movement and gathering
  obtain ⟨⟨k, d₀⟩, hk, rfl⟩ := List.mem_map.mp (Store.items_eq s.dogs ▸ hd)
  obtain ⟨x, hx, hxc⟩ := exists_of_frame Dog.clock (moveDogs_frame Dog.clock advance_clock hmove) hk
  have hx₂ : (k, x) ∈ s₂.dogs.slots.toList := by
    rw [hdogs]
    exact hx
  obtain ⟨g, hgk, hgc⟩ := exists_of_frame Dog.clock (gather_frame s₂ Dog.clock fun _ _ _ => rfl) hx₂
  obtain ⟨gid, gname, galive, glast⟩ := Dog.clock_eq_iff.mp (hgc.trans hxc)
  obtain ⟨r, hage, hstay, hleave⟩ := retire_slot hg.ids hg.names hretire hgk
  obtain ⟨halive, hlast⟩ := age_ok hage
  have hr := age_eq hage
  have hmoved : moved.contains g.id = !d₀.velocity.isZero := gid ▸ moved_contains hs.ids hmove hd
  have hgd : s₂.gather.1.dog d₀.id = some g :=
    gid ▸ hg.dog_id (List.mem_map.mpr ⟨(k, g), hgk, rfl⟩)
  refine ⟨dogs, moved, s₂, g, r, hmove, hspawn, hgd, by rw [hr, gid], by rw [hr, gname], by rw [hr],
    by rw [halive, galive], ?_, fun hle => ?_, fun hlt => ?_⟩
  · rw [hlast, hmoved, glast]
    cases d₀.velocity.isZero <;> rfl
  · exact List.mem_map.mpr ⟨(k, r), hstay (hT ▸ hle), rfl⟩
  · obtain ⟨hrec, hid, hname⟩ := hleave (hT ▸ hlt)
    exact ⟨hreport ▸ List.mem_map_of_mem hrec, hid, hname⟩

end Tick

/-! ## A dog's history -/

/-- A dog's history along a run, oldest tick first: each tick's step, and whether the dog had a
velocity when the tick began. -/
abbrev History := List (Duration × Bool)

/-- How long a dog has been alive: the sum of the steps. -/
def lifetime (hist : History) : Nat := (hist.map (·.1.nanos)).sum

/-- How long a dog has been idle: the steps of the ticks after the last one in which it moved,
all of them when it never moved. -/
def idleSince (hist : History) : Nat :=
  ((hist.reverse.takeWhile fun t => !t.2).map (·.1.nanos)).sum

@[simp] theorem lifetime_nil : lifetime [] = 0 := rfl

@[simp] theorem idleSince_nil : idleSince [] = 0 := rfl

theorem lifetime_concat (hist : History) (x : Duration × Bool) :
    lifetime (hist ++ [x]) = lifetime hist + x.1.nanos := by
  simp [lifetime]

/-- A tick resets the idle time when the dog had a velocity, and adds its step otherwise. -/
theorem idleSince_concat (hist : History) (x : Duration × Bool) :
    idleSince (hist ++ [x]) = if x.2 then 0 else idleSince hist + x.1.nanos := by
  cases hx : x.2 <;> simp [idleSince, hx, Nat.add_comm]

/-- No prefix of the history left the dog idle for longer than `T`. -/
def Within (T : Duration) (hist : History) : Prop := ∀ p, p <+: hist → idleSince p ≤ T.nanos

theorem within_nil (T : Duration) : Within T [] := by
  intro p hp
  rw [List.prefix_nil.mp hp, idleSince_nil]
  exact Nat.zero_le _

theorem within_concat_iff {T : Duration} {hist : History} {x : Duration × Bool} :
    Within T (hist ++ [x]) ↔ Within T hist ∧ idleSince (hist ++ [x]) ≤ T.nanos := by
  constructor
  · intro h
    exact ⟨fun p hp => h p (hp.trans (List.prefix_append _ _)), h _ (List.prefix_refl _)⟩
  · rintro ⟨h, hx⟩ p hp
    rcases List.prefix_concat_iff.mp hp with rfl | hp
    · exact hx
    · exact h p hp

/-- One tick of ageing, read on the history: the lag of the last move behind the lifetime is the
idle time the history gives. -/
theorem aged_clock {dt : Duration} {d r : Dog} {hist : History}
    (hd : d.lastMoved.nanos + idleSince hist = d.alive.nanos)
    (ha : r.alive.nanos = d.alive.nanos + dt.nanos)
    (hl : r.lastMoved = if d.velocity.isZero then d.lastMoved else r.alive) :
    r.lastMoved.nanos + idleSince (hist ++ [(dt, !d.velocity.isZero)]) = r.alive.nanos := by
  rw [idleSince_concat]
  cases hv : d.velocity.isZero
  · simp only [hv, Bool.false_eq_true, if_false, Bool.not_false, if_true] at hl ⊢
    rw [hl]
    omega
  · simp only [hv, if_true, Bool.not_true, Bool.false_eq_true, if_false] at hl ⊢
    rw [hl]
    omega

/-! ## Runs -/

/-- A tick of a run: the session it started from, its step and its report. -/
structure Ticked where
  before : Session
  dt : Duration
  report : TickReport

/-- Whether the dog with id `i` has a velocity. -/
def moving (s : Session) (i : Nat) : Bool := (s.dog i).any fun d => !d.velocity.isZero

/-- The history of the dog with id `i` along a run's ticks. -/
def history (i : Nat) (ts : List Ticked) : History := ts.map fun t => (t.dt, moving t.before i)

theorem history_concat (i : Nat) (ts : List Ticked) (t : Ticked) :
    history i (ts ++ [t]) = history i ts ++ [(t.dt, moving t.before i)] := by
  simp [history]

theorem moving_of_mem (hs : s.Sound) {d : Dog} (hd : d ∈ s.dogs.items) :
    moving s d.id = !d.velocity.isZero := by
  rw [moving, hs.dog_id hd]
  rfl

theorem dog_eq_none {i : Nat} (h : s.dogIndex.mem i = false) : s.dog i = none := by
  simp only [Index.mem, Option.isSome_eq_false_iff, Option.isNone_iff_eq_none] at h
  simp [Session.dog, h]

/-- The sessions a run leads to from `s₀`, with the ticks it took, oldest first: successful
ticks, and granted steering requests and joins between them. -/
inductive Run (s₀ : Session) : List Ticked → Session → Prop
  | start : Run s₀ [] s₀
  | tick {ts : List Ticked} {s s' : Session} {dt : Duration} {report : TickReport} :
      Run s₀ ts s → s.tick dt = .ok (s', .ok report) → Run s₀ (ts ++ [⟨s, dt, report⟩]) s'
  | steer {ts : List Ticked} {s s' : Session} {id : Nat} {c : Steer} :
      Run s₀ ts s → s.steer id c = .ok s' → Run s₀ ts s'
  | join {ts : List Ticked} {s s' : Session} {name : String} {id : Nat} :
      Run s₀ ts s → s.join name = .ok (s', id) → Run s₀ ts s'

/-! ## The fate of one dog -/

/-- The dog with id `i` and name `name` is in play, with the lifetime and the idle time its
history gives. -/
def Playing (s : Session) (i : Nat) (name : String) (hist : History) : Prop :=
  ∃ d ∈ s.dogs.items, d.id = i ∧ d.name = name ∧ d.alive.nanos = lifetime hist ∧
    d.lastMoved.nanos + idleSince hist = d.alive.nanos

/-- What a run has made of the dog with id `i`: in a consistent session with retirement time
`T` and the id behind the counter, the dog is in play while no prefix of its history idled
longer than `T`, and out of the id index after. -/
structure Fate (T : Duration) (i : Nat) (name : String) (hist : History) (s : Session) : Prop where
  inv : s.Inv
  retirementTime : s.retirementTime = T
  below : i < s.nextDogId
  playing : Within T hist → Playing s i name hist
  gone : ¬ Within T hist → s.dogIndex.mem i = false

variable {T : Duration} {i : Nat} {name : String} {hist : History}

/-- Playing reads only the dogs' clocks. -/
theorem Playing.of_clock (h : Playing s i name hist)
    (hc : s.dogs.items.map Dog.clock ⊆ s'.dogs.items.map Dog.clock) : Playing s' i name hist := by
  obtain ⟨d, hd, hid, hname, halive, hlast⟩ := h
  obtain ⟨d', hd', hdc⟩ := List.mem_map.mp (hc (List.mem_map_of_mem hd))
  obtain ⟨h₁, h₂, h₃, h₄⟩ := Dog.clock_eq_iff.mp hdc
  exact ⟨d', hd', h₁.trans hid, h₂.trans hname, by rw [h₃, halive], by rw [h₃, h₄, hlast]⟩

/-- A successful tick, read on the history of a dog in play: the aged dog carries the
lifetime and the idle time of the history extended by the tick; it stays or leaves as
`tick_dog` says. -/
theorem Playing.tick (hp : Playing s i name hist) (hs : s.Inv) {dt : Duration} {report : TickReport}
    (h : s.tick dt = .ok (s', .ok report)) :
    ∃ (dogs : Store Dog) (moved : List Nat) (s₂ : Session) (g r : Dog),
      moveDogs s.map.roads dt.toSeconds s.dogs = .ok (dogs, moved) ∧
      { s with dogs := dogs }.spawnLoot dt = .ok (s₂, .ok report.spawned) ∧
      s₂.gather.1.dog i = some g ∧ r.id = i ∧ r.name = name ∧ r.score = g.score ∧
      r.alive.nanos = lifetime (hist ++ [(dt, moving s i)]) ∧
      r.lastMoved.nanos + idleSince (hist ++ [(dt, moving s i)]) = r.alive.nanos ∧
      (r.idle ≤ s.retirementTime → r ∈ s'.dogs.items) ∧
      (s.retirementTime < r.idle → ⟨r.name, r.score, r.alive⟩ ∈ report.retired ∧
        r.id ∉ s'.dogs.items.map (·.id) ∧ r.name ∉ s'.dogs.items.map (·.name)) := by
  obtain ⟨d, hd, rfl, rfl, halive, hlast⟩ := hp
  obtain ⟨dogs, moved, s₂, g, r, hmove, hspawn, hgd, hid, hname, hscore, hra, hrl, hstay, hleave⟩ :=
    tick_dog hs h hd
  rw [moving_of_mem hs.toSound hd]
  exact ⟨dogs, moved, s₂, g, r, hmove, hspawn, hgd, hid, hname, hscore,
    by rw [hra, halive, lifetime_concat], aged_clock hlast hra hrl, hstay, hleave⟩

/-- A join that succeeds issues the next id and adds a fresh dog; of the rest, only the dog
counter and the stream change. -/
theorem join_eq (hs : s.Sound) {nm : String} {id : Nat} (h : s.join nm = .ok (s', id)) :
    id = s.nextDogId ∧ ∃ p st, s' =
      ({ s with nextDogId := s.nextDogId + 1, stream := st } : Session).insertDog (Dog.fresh id nm p) := by
  obtain ⟨-, -, rfl, rfl⟩ := join_eq_ok.mp h
  obtain ⟨-, st, hst⟩ := @spawnPoint_contains { s with nextDogId := s.nextDogId + 1 } hs.roads
  exact ⟨rfl, _, st, by rw [hst]⟩

/-- A dog that joins starts its fate with an empty history. -/
theorem fate_of_join (hs : s.Inv) (h : s.join name = .ok (s', i)) :
    Fate s'.retirementTime i name [] s' := by
  have hinv := join_inv hs h
  obtain ⟨rfl, p, st, rfl⟩ := join_eq hs.toSound h
  refine ⟨hinv, rfl, Nat.lt_succ_self _, fun _ => ?_, fun hw => absurd (within_nil _) hw⟩
  exact ⟨Dog.fresh s.nextDogId name p, by simp, rfl, rfl, rfl, rfl⟩

/-- Another dog's join keeps the fate: the dog stays in play, and the id it leaves stays out
of the index, the new dog taking the counter's id. -/
theorem Fate.join (hf : Fate T i name hist s) {nm : String} {id : Nat}
    (h : s.join nm = .ok (s', id)) : Fate T i name hist s' := by
  have hinv := join_inv hf.inv h
  obtain ⟨rfl, p, st, rfl⟩ := join_eq hf.inv.toSound h
  refine ⟨hinv, hf.retirementTime, Nat.lt_succ_of_lt hf.below, fun hw => ?_, fun hw => ?_⟩
  · refine (hf.playing hw).of_clock ?_
    rw [items_insertDog, List.map_append]
    exact List.subset_append_left _ _
  · -- the id was not a dog's, and the new dog has the counter's id
    have hgone : i ∉ s.dogs.items.map (·.id) := fun hmem =>
      Bool.false_ne_true ((hf.gone hw).symm.trans (hf.inv.mem_dogIndex.mpr hmem))
    rw [Bool.eq_false_iff, Ne, hinv.mem_dogIndex, items_insertDog, List.map_append, List.mem_append]
    rintro (hmem | hmem)
    · exact hgone hmem
    · simp only [List.map_cons, List.map_nil, List.mem_singleton, Dog.fresh] at hmem
      exact absurd hmem (Nat.ne_of_lt hf.below)

/-- A granted steering request keeps the fate: it changes a dog's velocity and facing only. -/
theorem Fate.steer (hf : Fate T i name hist s) {id : Nat} {c : Steer} (h : s.steer id c = .ok s') :
    Fate T i name hist s' := by
  have hinv := steer_inv hf.inv h
  obtain ⟨_, -, -, rfl⟩ := steer_eq_ok.mp h
  refine ⟨hinv, hf.retirementTime, hf.below, fun hw => (hf.playing hw).of_clock ?_, hf.gone⟩
  show _ ⊆ (s.dogs.modify _ fun d => d.steer c s.map.dogSpeed).items.map Dog.clock
  -- steering leaves every dog's clock as it was
  rw [Store.map_items_modify (fun d : Dog => d.steer c s.map.dogSpeed) Dog.clock
    fun d => by cases c <;> rfl]
  exact List.Subset.refl _

/-- A successful tick extends the history by its step and whether the dog had a velocity. In
play and within the retirement time after it, the dog stays with its clock moved on; at the
first prefix that idles too long it leaves, and a dog out of the index stays out. -/
theorem Fate.tick (hf : Fate T i name hist s) {dt : Duration} {report : TickReport}
    (h : s.tick dt = .ok (s', .ok report)) : Fate T i name (hist ++ [(dt, moving s i)]) s' := by
  obtain ⟨hsub, hnext, hT⟩ := tick_keeps h
  have hinv := tick_inv hf.inv h
  refine ⟨hinv, hT.trans hf.retirementTime, hnext ▸ hf.below, fun hw => ?_, fun hw => ?_⟩
  · obtain ⟨hw₀, hidle⟩ := within_concat_iff.mp hw
    obtain ⟨-, -, -, -, r, -, -, -, hid, hname, -, hra, hclock, hstay, -⟩ :=
      (hf.playing hw₀).tick hf.inv h
    have hle : r.idle ≤ s.retirementTime := by
      rw [Dog.idle_le_iff hclock, hf.retirementTime]
      exact hidle
    exact ⟨r, hstay hle, hid, hname, hra, hclock⟩
  · by_cases hw₀ : Within T hist
    · -- this tick is the first after which the dog idled too long: it leaves
      obtain ⟨-, -, -, -, r, -, -, -, hid, -, -, -, hclock, -, hleave⟩ := (hf.playing hw₀).tick hf.inv h
      have hlt : s.retirementTime < r.idle := by
        rw [Dog.lt_idle_iff hclock, hf.retirementTime]
        exact Nat.lt_of_not_le fun hle => hw (within_concat_iff.mpr ⟨hw₀, hle⟩)
      rw [Bool.eq_false_iff, Ne, hinv.mem_dogIndex, ← hid]
      exact (hleave hlt).2.1
    · -- out of the index before the tick: the tick only takes keys out
      have hgone := hf.gone hw₀
      rw [Bool.eq_false_iff, Ne, Index.mem_iff] at hgone ⊢
      exact fun hmem => hgone (hsub.subset hmem)

/-- Along a run, the fate of a dog follows its history. -/
theorem Run.fate {s₀ : Session} {ts : List Ticked} (hrun : Run s₀ ts s) (h₀ : Fate T i name [] s₀) :
    Fate T i name (history i ts) s := by
  induction hrun with
  | start => exact h₀
  | tick _ htick ih =>
    rw [history_concat]
    exact ih.tick htick
  | steer _ hsteer ih => exact ih.steer hsteer
  | join _ hjoin ih => exact ih.join hjoin

/-- A session whose name index lacks a name admits a join under it while the dog counter has
room. -/
theorem join_of_free {nm : String} (hfree : s.names.mem nm = false) (hroom : s.nextDogId + 1 < idLimit) :
    ∃ s', s.join nm = .ok (s', s.nextDogId) :=
  ⟨_, join_eq_ok.mpr ⟨hfree, hroom, rfl, rfl⟩⟩

/-- The dog that joined as `name` with id `i`, read after the tick of `dt` that follows any run
from its join. While no tick has left it idle for longer than the retirement time, it is in
play, its lifetime the sum of the steps and its idle time the steps since the last tick that
began with it moving. After the first tick that leaves it idle for longer, it has left: out of
the store and both indexes, its record in the tick's report with its name, the score gathering
left it and its lifetime, its name free for a join and the dog counter where it was. After that
it stays out. -/
theorem joined_dog_lifetime_and_retirement {s₀ s₁ u : Session} {ts : List Ticked} {dt : Duration}
    {report : TickReport} (hs₀ : s₀.Inv) (hjoin : s₀.join name = .ok (s₁, i)) (hrun : Run s₁ ts u)
    (htick : u.tick dt = .ok (s, .ok report)) :
    (Within s₁.retirementTime (history i (ts ++ [⟨u, dt, report⟩])) →
      ∃ d, s.dog i = some d ∧ d.name = name ∧
        d.alive.nanos = lifetime (history i (ts ++ [⟨u, dt, report⟩])) ∧
        d.idle.nanos = idleSince (history i (ts ++ [⟨u, dt, report⟩]))) ∧
    (Within s₁.retirementTime (history i ts) →
      s₁.retirementTime.nanos < idleSince (history i (ts ++ [⟨u, dt, report⟩])) →
      s.dog i = none ∧ s.dogIndex.mem i = false ∧ s.names.mem name = false ∧
      s.nextDogId = u.nextDogId ∧
      (∃ (dogs : Store Dog) (moved : List Nat) (s₂ : Session) (g : Dog),
        moveDogs u.map.roads dt.toSeconds u.dogs = .ok (dogs, moved) ∧
        { u with dogs := dogs }.spawnLoot dt = .ok (s₂, .ok report.spawned) ∧
        s₂.gather.1.dog i = some g ∧
        ∃ r ∈ report.retired, r.name = name ∧ r.score = g.score ∧
          r.playTime.nanos = lifetime (history i (ts ++ [⟨u, dt, report⟩]))) ∧
      (s.nextDogId + 1 < idLimit → ∃ s'', s.join name = .ok (s'', s.nextDogId))) ∧
    (¬ Within s₁.retirementTime (history i (ts ++ [⟨u, dt, report⟩])) → s.dog i = none) := by
  have hu := hrun.fate (fate_of_join hs₀ hjoin)
  have hs : Fate s₁.retirementTime i name (history i (ts ++ [⟨u, dt, report⟩])) s := by
    rw [history_concat]
    exact hu.tick htick
  refine ⟨fun hw => ?_, fun hw₀ hlt => ?_, fun hw => dog_eq_none (hs.gone hw)⟩
  · obtain ⟨d, hd, rfl, hname, halive, hlast⟩ := hs.playing hw
    exact ⟨d, hs.inv.dog_id hd, hname, halive, Dog.idle_nanos hlast⟩
  · obtain ⟨dogs, moved, s₂, g, r, hmove, hspawn, hgd, hid, hname, hscore, hra, hclock, -, hleave⟩ :=
      (hu.playing hw₀).tick hu.inv htick
    rw [history_concat] at hlt ⊢
    have hidle : u.retirementTime < r.idle := by
      rw [Dog.lt_idle_iff hclock, hu.retirementTime]
      exact hlt
    obtain ⟨hrec, hgoneid, hgonename⟩ := hleave hidle
    have hindex : s.dogIndex.mem i = false := by
      rw [Bool.eq_false_iff, Ne, hs.inv.mem_dogIndex, ← hid]
      exact hgoneid
    have hfree : s.names.mem name = false := by
      rw [Bool.eq_false_iff, Ne, hs.inv.mem_names, ← hname]
      exact hgonename
    exact ⟨dog_eq_none hindex, hindex, hfree, (tick_keeps htick).2.1,
      ⟨dogs, moved, s₂, g, hmove, hspawn, hgd, ⟨r.name, r.score, r.alive⟩, hrec, hname, hscore, hra⟩,
      join_of_free hfree⟩


/-- Whether a tick answered with a report. -/
def tickSucceeded : Except Halt (Session × Except SessionError TickReport) → Bool
  | .ok (_, .ok _) => true
  | _ => false

theorem exists_of_tickSucceeded {r : Except Halt (Session × Except SessionError TickReport)}
    (h : tickSucceeded r = true) : ∃ s report, r = .ok (s, .ok report) := by
  unfold tickSucceeded at h
  split at h
  · exact ⟨_, _, rfl⟩
  · cases h

/-- On a one-road map with the default settings, whose retirement time is zero, a dog that
joins and stands still retires in the first tick, a second long, with a record of that second. -/
theorem standing_dog_retires_first_tick :
    let m : Map := { (default : Map) with roads := ⟨#[Road.horizontal ⟨0, 0⟩ 10], roadHalfWidth⟩ }
    let s₁ : Session := ({ Session.new m default with nextDogId := 1 } : Session).insertDog
      (Dog.fresh 0 "rex" (Road.horizontal ⟨0, 0⟩ 10).start.toPoint)
    (Session.new m default).join "rex" = .ok (s₁, 0) ∧
      ∃ s report, s₁.tick (Duration.ofSecs 1) = .ok (s, .ok report) ∧
        s.dog 0 = none ∧ ∃ r ∈ report.retired, r.name = "rex" ∧ r.playTime.nanos = 1000000000 := by
  intro m s₁
  have hm : m.roads.Sound :=
    ⟨rfl, fun r hr => by simp only [m, List.mem_toArray, List.mem_singleton] at hr; subst hr; decide, by decide⟩
  have hjoin : (Session.new m default).join "rex" = .ok (s₁, 0) := rfl
  obtain ⟨s, report, htick⟩ := exists_of_tickSucceeded
    (show tickSucceeded (s₁.tick (Duration.ofSecs 1)) = true by decide +kernel)
  -- the dog stood still, so the whole second counts as idle
  have hidle : s₁.retirementTime.nanos <
      idleSince (history 0 ([] ++ [⟨s₁, Duration.ofSecs 1, report⟩])) := by
    show s₁.retirementTime.nanos < idleSince [(Duration.ofSecs 1, moving s₁ 0)]
    decide +kernel
  obtain ⟨hnone, -, -, -, ⟨-, -, -, -, -, -, -, r, hr, hname, -, hplay⟩, -⟩ :=
    (joined_dog_lifetime_and_retirement (new_inv hm default) hjoin Run.start htick).2.1
      (within_nil _) hidle
  exact ⟨hjoin, s, report, htick, hnone, r, hr, hname, hplay⟩

end Session

end DogCourier
