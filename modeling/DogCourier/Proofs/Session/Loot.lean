import DogCourier.Proofs.MapM
import DogCourier.Proofs.Gather.Events
import DogCourier.Proofs.Session.Gather

/-! # Loot is conserved by a tick

    Each phase of a tick moves loot between the ground, the bags, the offices and the
    dogs that leave, and no item is made or lost on the way:

    * movement keeps every dog's id, name, score and bag (`moveDogs_accounts`);
    * spawning appends items whose ids are the next ones of the loot counter, never
      more than the dogs outnumber the free loot (`spawnLoot_ok`);
    * gathering moves picked items into bags and delivered ones out of them
      (`Session.gather_loot`, `Session.gather_bags`);
    * retirement takes the leaving dogs, with their bags, out of the store
      (`retire_split`, `retire_ok`).

    A tick that does not halt, and each of its phases, is read once by a lemma that says
    everything it can do (`moveDogs_eq_ok`, `spawnLoot_cases`, `age_eq_ok`, `retire_eq_ok`,
    `tick_cases`); proofs about such ticks, here and in the modules after this one, cite
    those lemmas rather than unfold the phases, and `tick_eq_of_phases` runs them forward.
    `tick_conserves_loot` puts the phases together. -/

namespace DogCourier

/-- What the loot ledger reads of a dog: its id, its name, its score and its bag. -/
def Dog.account (d : Dog) : Nat × String × Nat × List Loot := (d.id, d.name, d.score, d.bag)

namespace Store

/-- The dogs of a store as the loot ledger reads them, with their handles. -/
def accounts (st : Store Dog) : List (Nat × (Nat × String × Nat × List Loot)) :=
  st.slots.toList.map fun e => (e.1, e.2.account)

variable {st st' : Store Dog}

theorem handles_of_accounts_eq (h : st'.accounts = st.accounts) : st'.handles = st.handles := by
  have hfst := congrArg (List.map (·.1)) h
  simpa [accounts, handles, Function.comp_def] using hfst

theorem bags_of_accounts_eq (h : st'.accounts = st.accounts) :
    Session.bags st' = Session.bags st := by
  have hbag := congrArg (List.flatMap fun e => e.2.2.2.2) h
  simpa [accounts, Session.bags, Dog.account, List.flatMap_map] using hbag

theorem size_of_accounts_eq (h : st'.accounts = st.accounts) : st'.size = st.size := by
  have hlen := congrArg List.length h
  simpa [accounts] using hlen

/-- Stores with the same accounts hold, under each handle, dogs with the same account. -/
theorem get?_of_accounts_eq (h : st'.accounts = st.accounts) {k : Nat}
    {d : Dog} (hget : st.get? k = some d) : ∃ d', st'.get? k = some d' ∧ d'.account = d.account := by
  have hmem : (k, d.account) ∈ st'.accounts := by
    rw [h]
    exact List.mem_map_of_mem (mem_of_get?_eq_some hget)
  obtain ⟨⟨k', d'⟩, hd', heq⟩ := List.mem_map.mp hmem
  simp only [Prod.mk.injEq] at heq
  obtain ⟨rfl, hacc⟩ := heq
  exact ⟨d', get?_eq_some_of_mem hd', hacc⟩

end Store

/-- Never more items spawn than are missing. -/
theorem Supply.spawnCount_le (sup : Supply) (shortage : Nat) (roll : Float) :
    sup.spawnCount shortage roll ≤ shortage := by
  unfold Supply.spawnCount
  split
  · omega
  · exact Nat.min_le_right _ _

/-- A supply never sends more items than the looters outnumber the loot. -/
theorem Supply.generate_le {sup sup' : Supply} {dt : Duration} {loot looters n : Nat} {roll : Float}
    (h : sup.generate dt loot looters roll = .ok (sup', n)) : n ≤ looters - loot := by
  unfold Supply.generate at h
  cases hadd : sup.idle.add dt with
  | error e => simp [hadd, bind, Except.bind] at h
  | ok idle =>
    simp only [hadd, bind, Except.bind, pure, Except.pure, Except.ok.injEq, Prod.mk.injEq] at h
    rw [← h.2]
    exact Supply.spawnCount_le _ _ _

namespace Session

/-- Movement plans every dog's step and, when the roads refuse none, advances the dog in each
slot by its plan and reports, in increasing order, the ids of the dogs that had one. -/
theorem moveDogs_eq_ok {roads : RoadNet} {seconds : Float} {dogs dogs' : Store Dog}
    {moved : List Nat} :
    moveDogs roads seconds dogs = .ok (dogs', moved) ↔
      ∃ plans, List.Forall₂ (fun e p => plan roads seconds e.2 = .ok p) dogs.slots.toList plans ∧
        dogs' = dogs.zipValues plans advance ∧
        moved =
          (((dogs.slots.toList.zip plans).filter fun x => x.2.isSome).map (·.1.2.id)).mergeSort
            fun a b => a ≤ b := by
  unfold moveDogs
  cases hp : dogs.slots.toList.mapM (fun e => plan roads seconds e.2) with
  | error e =>
    simp only [bind, Except.bind, reduceCtorEq, false_iff, not_exists, not_and]
    intro plans hplans
    rw [← mapM_eq_ok_iff, hp] at hplans
    cases hplans
  | ok plans =>
    simp only [bind, Except.bind, pure, Except.pure, Except.ok.injEq, Prod.mk.injEq]
    constructor
    · rintro ⟨rfl, rfl⟩
      exact ⟨plans, (mapM_eq_ok_iff _ _ _).mp hp, rfl, rfl⟩
    · rintro ⟨plans', hF, rfl, rfl⟩
      -- the plans are those the run computed
      obtain rfl : plans = plans' := by
        rw [← mapM_eq_ok_iff, hp] at hF
        exact Except.ok.inj hF
      exact ⟨rfl, rfl⟩

theorem advance_account (d : Dog) (p : Option (Point × Bool)) : (advance d p).account = d.account := by
  rcases p with _ | ⟨reached, blocked⟩ <;> rfl

/-- Movement keeps, under every handle, what no plan changes in a dog. -/
theorem moveDogs_frame {β : Type} (f : Dog → β) (hf : ∀ d p, f (advance d p) = f d)
    {roads : RoadNet} {seconds : Float} {dogs dogs' : Store Dog} {moved : List Nat}
    (h : moveDogs roads seconds dogs = .ok (dogs', moved)) :
    dogs'.slots.toList.map (fun e => (e.1, f e.2)) = dogs.slots.toList.map fun e => (e.1, f e.2) := by
  obtain ⟨plans, hF, rfl, -⟩ := moveDogs_eq_ok.mp h
  have hlen : dogs.slots.toList.length ≤ plans.length := hF.length_eq.le
  -- what `f` reads does not depend on the plan, so the plans drop out of the zip
  calc _ = ((dogs.slots.toList.zip plans).map (·.1)).map (fun e => (e.1, f e.2)) := by
        simp only [Store.zipValues_slots, List.map_map]
        apply List.map_congr_left
        intro x _
        simp [hf]
    _ = _ := by rw [List.map_fst_zip hlen]

/-- Movement keeps every dog's account. -/
theorem moveDogs_accounts {roads : RoadNet} {seconds : Float} {dogs dogs' : Store Dog}
    {moved : List Nat} (h : moveDogs roads seconds dogs = .ok (dogs', moved)) :
    dogs'.accounts = dogs.accounts :=
  moveDogs_frame Dog.account advance_account h

/-- One item placed: the next id, some kind and some point, and the rest placed after it. -/
theorem placeLoot_succ (roads : Array Road) (kinds n first : Nat) (store : Store Loot) (st : Stream) :
    ∃ kind position st', placeLoot roads kinds (n + 1) first store st =
      placeLoot roads kinds n (first + 1) (store.spawn ⟨first, kind, position⟩).1 st' :=
  ⟨_, _, _, rfl⟩

/-- Placing loot appends items carrying the next ids. -/
theorem placeLoot_items (roads : Array Road) (kinds : Nat) :
    ∀ (n first : Nat) (store : Store Loot) (st : Stream),
      ∃ new : List Loot, (placeLoot roads kinds n first store st).1.items = store.items ++ new ∧
        new.map (·.id) = List.range' first n
  | 0, _, _, _ => ⟨[], by simp [placeLoot], rfl⟩
  | n + 1, first, store, st => by
    obtain ⟨kind, position, st', hstep⟩ := placeLoot_succ roads kinds n first store st
    obtain ⟨new, hitems, hids⟩ :=
      placeLoot_items roads kinds n (first + 1) (store.spawn ⟨first, kind, position⟩).1 st'
    refine ⟨⟨first, kind, position⟩ :: new, ?_, ?_⟩
    · rw [hstep, hitems]
      simp
    · simp [hids, List.range'_succ]

/-- Everything a spawning phase that does not halt can do. It takes one roll of the stream
and asks the supply how many items to send. With no roads or no loot kinds it sends none;
when the ids would reach the limit, the loot counter refuses and the supply is put back;
otherwise the items are placed under the next ids. -/
theorem spawnLoot_cases {s s' : Session} {dt : Duration} {r : Except SessionError Nat}
    (h : s.spawnLoot dt = .ok (s', r)) :
    ∃ supply count,
      s.supply.generate dt s.loot.size s.dogs.size s.stream.unit.1 = .ok (supply, count) ∧
      ((s.map.roads.roads.isEmpty || s.map.lootKinds.length == 0) = true ∧
          s' = { s with supply := supply, stream := s.stream.unit.2 } ∧ r = .ok 0 ∨
        (s.map.roads.roads.isEmpty || s.map.lootKinds.length == 0) = false ∧
          idLimit ≤ s.nextLootId + count ∧ s' = { s with stream := s.stream.unit.2 } ∧
          r = .error (.idOverflow .loot) ∨
        (s.map.roads.roads.isEmpty || s.map.lootKinds.length == 0) = false ∧
          s.nextLootId + count < idLimit ∧
          s' = { s with
            supply := supply
            loot := (placeLoot s.map.roads.roads s.map.lootKinds.length count s.nextLootId s.loot
              s.stream.unit.2).1
            stream := (placeLoot s.map.roads.roads s.map.lootKinds.length count s.nextLootId s.loot
              s.stream.unit.2).2
            nextLootId := s.nextLootId + count } ∧
          r = .ok count) := by
  unfold spawnLoot at h
  simp only [bind, Except.bind] at h
  split at h
  · cases h
  · rename_i v hg
    obtain ⟨supply, count⟩ := v
    refine ⟨supply, count, hg, ?_⟩
    split at h
    · rename_i hguard
      simp only [pure, Except.pure, Except.ok.injEq, Prod.mk.injEq] at h
      obtain ⟨rfl, rfl⟩ := h
      exact .inl ⟨hguard, rfl, rfl⟩
    · rename_i hguard
      have hguard' := Bool.eq_false_iff.mpr hguard
      split at h
      · rename_i hlimit
        simp only [pure, Except.pure, Except.ok.injEq, Prod.mk.injEq] at h
        obtain ⟨rfl, rfl⟩ := h
        exact .inr (.inl ⟨hguard', hlimit, rfl, rfl⟩)
      · rename_i hlimit
        simp only [pure, Except.pure, Except.ok.injEq, Prod.mk.injEq] at h
        obtain ⟨rfl, rfl⟩ := h
        exact .inr (.inr ⟨hguard', Nat.lt_of_not_le hlimit, rfl, rfl⟩)
/-- A spawning phase that succeeds appends items carrying the next ids of the loot counter,
no more than the dogs outnumber the free loot, and touches nothing but the loot, the
counter, the supply and the stream. -/
theorem spawnLoot_ok {s s₂ : Session} {dt : Duration} {count : Nat}
    (h : s.spawnLoot dt = .ok (s₂, .ok count)) :
    s₂.dogs = s.dogs ∧ s₂.map = s.map ∧ s₂.retirementTime = s.retirementTime ∧
      (∃ new : List Loot, s₂.loot.items = s.loot.items ++ new ∧
        new.map (·.id) = List.range' s.nextLootId count) ∧
      s₂.nextLootId = s.nextLootId + count ∧ count ≤ s.dogs.size - s.loot.size := by
  obtain ⟨supply, n, hg, ⟨-, rfl, hr⟩ | ⟨-, -, -, hr⟩ | ⟨-, -, rfl, hr⟩⟩ :=
    spawnLoot_cases h
  · -- no roads or no kinds: nothing spawns
    obtain rfl := Except.ok.inj hr
    exact ⟨rfl, rfl, rfl, ⟨[], by simp, rfl⟩, rfl, Nat.zero_le _⟩
  · cases hr
  · obtain rfl := Except.ok.inj hr
    obtain ⟨new, hitems, hids⟩ := placeLoot_items s.map.roads.roads s.map.lootKinds.length
      count s.nextLootId s.loot _
    exact ⟨rfl, rfl, rfl, ⟨new, hitems, hids⟩, rfl, Supply.generate_le hg⟩

/-- Whether a dog leaves in a retirement phase: aged by `dt`, it has been idle for longer
than `threshold`. -/
def retires (dt : Duration) (moved : List Nat) (threshold : Duration) (d : Dog) : Bool :=
  match age dt moved d with
  | .ok d' => decide (d'.idle > threshold)
  | .error _ => false

section Retire

variable {dt : Duration} {moved : List Nat} {threshold : Duration}

/-- Ageing succeeds exactly when the lifetime plus the step fits; it then sets the lifetime to
that sum, and a dog that moved was last moved at the end of it. -/
theorem age_eq_ok {d d' : Dog} :
    age dt moved d = .ok d' ↔ ∃ alive, d.alive.add dt = .ok alive ∧
      d' = { d with
        alive := alive
        lastMoved := if moved.contains d.id then alive else d.lastMoved } := by
  unfold age
  cases d.alive.add dt with
  | error e => simp [bind, Except.bind]
  | ok alive => simp [bind, Except.bind, pure, Except.pure, eq_comm]

theorem age_account {d d' : Dog} (h : age dt moved d = .ok d') : d'.account = d.account := by
  obtain ⟨alive, -, rfl⟩ := age_eq_ok.mp h
  rfl

/-- A stored dog and its aged self, under the same handle. -/
def Aged (dt : Duration) (moved : List Nat) (e r : Nat × Dog) : Prop :=
  r.1 = e.1 ∧ age dt moved e.2 = .ok r.2

/-- The stored dogs paired with their aged selves are related under their handles. -/
theorem aged_zip {L : List (Nat × Dog)} {aged : List Dog}
    (h : List.Forall₂ (fun e d => age dt moved e.2 = .ok d) L aged) :
    List.Forall₂ (Aged dt moved) L ((L.zip aged).map fun p => (p.1.1, p.2)) := by
  induction h with
  | nil => exact .nil
  | cons hd _ ih => exact .cons ⟨rfl, hd⟩ ih

theorem Aged.account {e r : Nat × Dog} (h : Aged dt moved e r) :
    (r.1, r.2.account) = (e.1, e.2.account) := by
  rw [h.1, age_account h.2]

theorem Aged.retires_eq {e r : Nat × Dog} (h : Aged dt moved e r) :
    Session.retires dt moved threshold e.2 = decide (r.2.idle > threshold) := by
  simp only [Session.retires, h.2]

section Keys

variable {γ : Type} {g : Nat × Dog → γ} {L slots : List (Nat × Dog)}

/-- The stored dogs and their aged selves agree on everything ageing keeps. -/
theorem Aged.map_eq (hg : ∀ e r, Aged dt moved e r → g r = g e)
    (hF : List.Forall₂ (Aged dt moved) L slots) : L.map g = slots.map g :=
  forall₂_map_eq (fun e r h => (hg e r h).symm) hF

/-- A key that ageing keeps and no two stored dogs share, no two aged dogs share. -/
theorem Aged.nodup_map (hg : ∀ e r, Aged dt moved e r → g r = g e)
    (hF : List.Forall₂ (Aged dt moved) L slots) (hn : (L.map g).Nodup) : (slots.map g).Nodup :=
  Aged.map_eq hg hF ▸ hn

end Keys

/-- A retirement phase that does not halt ages every dog under its handle, then despawns,
in id order, those idle for longer than the threshold and reports each with its record. -/
theorem retire_eq_ok {dogs dogs' : Store Dog} {leaving : List (Nat × Record)}
    (h : retire dogs dt moved threshold = .ok (dogs', leaving)) :
    ∃ aged : List Dog, List.Forall₂ (fun e d => age dt moved e.2 = .ok d) dogs.slots.toList aged ∧
      dogs' = (((dogs.zipValues aged fun _ d => d).slots.toList.filter
          fun e => decide (e.2.idle > threshold)).mergeSort fun a b => a.2.id ≤ b.2.id).foldl
        (fun st e => st.despawn e.1) (dogs.zipValues aged fun _ d => d) ∧
      leaving = (((dogs.zipValues aged fun _ d => d).slots.toList.filter
          fun e => decide (e.2.idle > threshold)).mergeSort fun a b => a.2.id ≤ b.2.id).map
        fun e => (e.2.id, ⟨e.2.name, e.2.score, e.2.alive⟩) := by
  unfold retire at h
  cases hs : dogs.slots.toList.mapM (fun e => age dt moved e.2) with
  | error x =>
    rw [hs] at h
    simp [bind, Except.bind] at h
  | ok aged =>
    rw [hs] at h
    simp only [bind, Except.bind, pure, Except.pure, Except.ok.injEq, Prod.mk.injEq] at h
    obtain ⟨rfl, rfl⟩ := h
    exact ⟨aged, (mapM_eq_ok_iff _ _ _).mp hs, rfl, rfl⟩

/-- A retirement phase ages every dog under its handle and takes out those idle for too
long; the others stay, and each that left has a record with its id, name and score. -/
theorem retire_split {dogs dogs' : Store Dog} {leaving : List (Nat × Record)}
    (h : retire dogs dt moved threshold = .ok (dogs', leaving)) :
    ∃ slots : List (Nat × Dog), List.Forall₂ (Aged dt moved) dogs.slots.toList slots ∧
      dogs'.fresh = dogs.fresh ∧
      dogs'.slots.toList.Perm (slots.filter fun e => !decide (e.2.idle > threshold)) ∧
      leaving.Perm ((slots.filter fun e => decide (e.2.idle > threshold)).map
        fun e => (e.2.id, ⟨e.2.name, e.2.score, e.2.alive⟩)) := by
  obtain ⟨aged, hF, rfl, rfl⟩ := retire_eq_ok h
  refine ⟨(dogs.zipValues aged fun _ d => d).slots.toList, ?_, Store.foldl_despawn_fresh _ _, ?_,
    (List.mergeSort_perm _ _).map _⟩
  · rw [Store.zipValues_slots]
    exact aged_zip hF
  · -- the staying dogs and the leaving ones, in id order, make up the aged store
    apply Store.foldl_despawn_perm
    exact ((List.filter_append_perm (fun e : Nat × Dog => decide (e.2.idle > threshold)) _).symm.trans
      List.perm_append_comm).trans ((List.mergeSort_perm _ _).symm.append_left _)

/-- A retirement phase takes out exactly the dogs that retire, each leaving a record with
its name and score; the others stay with their accounts. -/
theorem retire_ok {dogs dogs' : Store Dog} {leaving : List (Nat × Record)}
    (h : retire dogs dt moved threshold = .ok (dogs', leaving)) :
    (bags dogs : Multiset Loot) =
        bags dogs' + ((dogs.items.filter (retires dt moved threshold)).flatMap (·.bag) : List Loot) ∧
      ∀ {k : Nat} {d : Dog}, dogs.get? k = some d →
        (∃ d', dogs'.get? k = some d' ∧ d'.account = d.account) ∨
          ∃ r ∈ leaving.map (·.2), r.name = d.name ∧ r.score = d.score := by
  obtain ⟨slots, hF, -, hstay, hleave⟩ := retire_split h
  refine ⟨?_, ?_⟩
  · have hbag : ∀ e r, Aged dt moved e r → r.2.bag = e.2.bag := fun _ _ h =>
      congrArg (·.2.2.2.2) (Aged.account h)
    -- the dogs that leave are the aged selves of the dogs that retire
    have hleaveF : List.Forall₂ (Aged dt moved)
        (dogs.slots.toList.filter fun e => retires dt moved threshold e.2)
        (slots.filter fun e => decide (e.2.idle > threshold)) :=
      List.rel_filter (fun _ _ h => by dsimp only; rw [Aged.retires_eq h]) hF
    -- all the bags, and the leaving ones, are bags of the aged dogs
    have hall : bags dogs = slots.flatMap (·.2.bag) := by
      rw [bags, Store.items_eq, List.flatMap_map]
      exact congrArg List.flatten (Aged.map_eq hbag hF)
    have hR : (dogs.items.filter (retires dt moved threshold)).flatMap (·.bag) =
        (slots.filter fun e => decide (e.2.idle > threshold)).flatMap (·.2.bag) := by
      rw [Store.items_eq, List.filter_map, List.flatMap_map]
      exact congrArg List.flatten (Aged.map_eq hbag hleaveF)
    have hsplit : slots.Perm (slots.filter (fun e => !decide (e.2.idle > threshold)) ++
        slots.filter fun e => decide (e.2.idle > threshold)) :=
      (List.filter_append_perm _ slots).symm.trans List.perm_append_comm
    rw [hall, hR, Multiset.coe_add, Multiset.coe_eq_coe, bags, Store.items_eq, List.flatMap_map]
    refine (hsplit.flatMap_right _).trans ?_
    rw [List.flatMap_append]
    exact (hstay.flatMap_right (·.2.bag)).symm.append_right _
  · intro k d hget
    obtain ⟨r, hr, hkr, hage⟩ := forall₂_exists_of_mem hF (Store.mem_of_get?_eq_some hget)
    have hracc : r.2.account = d.account := age_account hage
    by_cases hp : decide (r.2.idle > threshold) = true
    · -- an aged dog idle for too long leaves, with its record
      right
      have hmem : (r.2.id, ⟨r.2.name, r.2.score, r.2.alive⟩) ∈ leaving :=
        hleave.symm.subset (List.mem_map_of_mem (List.mem_filter.mpr ⟨hr, hp⟩))
      exact ⟨_, List.mem_map_of_mem hmem, congrArg (·.2.1) hracc, congrArg (·.2.2.1) hracc⟩
    · -- the others stay, under their handles
      left
      have hmem := hstay.symm.subset (List.mem_filter.mpr ⟨hr, by simpa using hp⟩)
      obtain ⟨k', d'⟩ := r
      simp only at hkr
      subst hkr
      exact ⟨d', Store.get?_eq_some_of_mem hmem, hracc⟩

end Retire

/-- The leaving dogs' ids and names erased from the indexes one after another. -/
theorem foldl_forget (f : Session → Nat × Record → Session)
    (hf : ∀ s x, f s x = { s with dogIndex := s.dogIndex.erase x.1, names := s.names.erase x.2.name }) :
    ∀ (L : List (Nat × Record)) (s : Session), L.foldl f s =
      { s with dogIndex := (L.map (·.1)).foldl Index.erase s.dogIndex
               names := (L.map (·.2.name)).foldl Index.erase s.names }
  | [], _ => rfl
  | x :: L, s => by
    rw [List.foldl_cons, foldl_forget f hf L, hf]
    rfl

/-- Everything a tick that does not halt can do. The road graph refuses a move, and nothing
changes; or the loot counter refuses the spawn, after movement; or all four phases run, and
the leaving dogs' ids and names are erased from the indexes. -/
theorem tick_cases {s s' : Session} {dt : Duration} {r : Except SessionError TickReport}
    (h : s.tick dt = .ok (s', r)) :
    (∃ re, moveDogs s.map.roads dt.toSeconds s.dogs = .error re ∧ s' = s ∧
        r = .error (.roadGraph re)) ∨
      (∃ dogs moved e, moveDogs s.map.roads dt.toSeconds s.dogs = .ok (dogs, moved) ∧
        { s with dogs := dogs }.spawnLoot dt = .ok (s', .error e) ∧ r = .error e) ∨
      ∃ dogs moved s₂ count dogs' leaving,
        moveDogs s.map.roads dt.toSeconds s.dogs = .ok (dogs, moved) ∧
        { s with dogs := dogs }.spawnLoot dt = .ok (s₂, .ok count) ∧
        retire s₂.gather.1.dogs dt moved s₂.retirementTime = .ok (dogs', leaving) ∧
        s' = { s₂.gather.1 with
          dogs := dogs'
          dogIndex := (leaving.map (·.1)).foldl Index.erase s₂.gather.1.dogIndex
          names := (leaving.map (·.2.name)).foldl Index.erase s₂.gather.1.names } ∧
        r = .ok ⟨moved.length, count, s₂.gather.2, leaving.map (·.2)⟩ := by
  unfold tick at h
  split at h
  · rename_i re hmove
    simp only [pure, Except.pure, Except.ok.injEq, Prod.mk.injEq] at h
    exact .inl ⟨re, hmove, h.1.symm, h.2.symm⟩
  · rename_i dogs moved hmove
    simp only [bind, Except.bind] at h
    split at h
    · cases h
    · rename_i v hspawn
      obtain ⟨s₂, spawned⟩ := v
      cases spawned with
      | error e =>
        simp only [pure, Except.pure, Except.ok.injEq, Prod.mk.injEq] at h
        obtain ⟨rfl, rfl⟩ := h
        exact .inr (.inl ⟨dogs, moved, e, hmove, hspawn, rfl⟩)
      | ok count =>
        dsimp only at h
        split at h
        · cases h
        · rename_i v hretire
          obtain ⟨dogs', leaving⟩ := v
          simp only [pure, Except.pure, Except.ok.injEq, Prod.mk.injEq] at h
          obtain ⟨rfl, rfl⟩ := h
          exact .inr (.inr ⟨dogs, moved, s₂, count, dogs', leaving, hmove, hspawn, hretire,
            foldl_forget _ (fun _ _ => rfl) _ _, rfl⟩)

/-- A tick that succeeds, phase by phase: movement, spawning, gathering and retirement;
what it leaves and what it reports come from those phases. -/
theorem tick_eq_ok {s s' : Session} {dt : Duration} {report : TickReport}
    (h : s.tick dt = .ok (s', .ok report)) :
    ∃ (dogs : Store Dog) (moved : List Nat) (s₂ : Session) (leaving : List (Nat × Record)),
      moveDogs s.map.roads dt.toSeconds s.dogs = .ok (dogs, moved) ∧
      { s with dogs := dogs }.spawnLoot dt = .ok (s₂, .ok report.spawned) ∧
      retire s₂.gather.1.dogs dt moved s₂.retirementTime = .ok (s'.dogs, leaving) ∧
      s'.loot = s₂.gather.1.loot ∧ s'.nextLootId = s₂.nextLootId ∧
      report.gathered = s₂.gather.2 ∧ report.retired = leaving.map (·.2) := by
  rcases tick_cases h with ⟨_, _, _, hr⟩ | ⟨_, _, _, _, _, hr⟩ |
      ⟨dogs, moved, s₂, count, dogs', leaving, hmove, hspawn, hretire, rfl, hr⟩
  · cases hr
  · cases hr
  · -- the indexes forget the leaving dogs; nothing else changes
    obtain rfl := Except.ok.inj hr
    exact ⟨dogs, moved, s₂, leaving, hmove, hspawn, hretire, rfl, rfl, rfl, rfl⟩

/-- A tick whose four phases succeed succeeds, with the session and the report they give:
the converse of `tick_cases`' last case. -/
theorem tick_eq_of_phases {s s₂ s₃ : Session} {dt : Duration} {dogs dogs' : Store Dog}
    {moved : List Nat} {count : Nat} {gathered : GatherReport} {leaving : List (Nat × Record)}
    (hmove : moveDogs s.map.roads dt.toSeconds s.dogs = .ok (dogs, moved))
    (hspawn : { s with dogs := dogs }.spawnLoot dt = .ok (s₂, .ok count))
    (hgather : s₂.gather = (s₃, gathered))
    (hretire : retire s₃.dogs dt moved s₃.retirementTime = .ok (dogs', leaving)) :
    s.tick dt = .ok ({ s₃ with
          dogs := dogs'
          dogIndex := (leaving.map (·.1)).foldl Index.erase s₃.dogIndex
          names := (leaving.map (·.2.name)).foldl Index.erase s₃.names },
        .ok ⟨moved.length, count, gathered, leaving.map (·.2)⟩) := by
  unfold tick
  rw [hmove]
  simp only [bind, Except.bind, hspawn, hgather, hretire, pure, Except.pure]
  rw [foldl_forget _ (fun _ _ => rfl)]

/-- Through the four phases, each dog's score rises by the value of what it delivered: the
dog stays, or it retires and its record carries that score. -/
theorem phases_add_delivered_score {s s₂ : Session} {dt : Duration} {dogs dogs' : Store Dog}
    {moved : List Nat} {count : Nat} {leaving : List (Nat × Record)}
    (hmove : moveDogs s.map.roads dt.toSeconds s.dogs = .ok (dogs, moved))
    (hspawn : { s with dogs := dogs }.spawnLoot dt = .ok (s₂, .ok count))
    (hretire : retire s₂.gather.1.dogs dt moved s₂.retirementTime = .ok (dogs', leaving))
    {k : Nat} {d : Dog} (hget : s.dogs.get? k = some d) :
    (∃ d', dogs'.get? k = some d' ∧ d'.id = d.id ∧
        d'.score = d.score + bagValue s.map (s₂.deliveredBy k)) ∨
      ∃ r ∈ leaving.map (·.2), r.name = d.name ∧
        r.score = d.score + bagValue s.map (s₂.deliveredBy k) := by
  obtain ⟨hdogs₂, hmap₂, -⟩ := spawnLoot_ok hspawn
  -- movement keeps the dog's id, name and score under its handle
  obtain ⟨d₁, hget₁, hacc₁⟩ := Store.get?_of_accounts_eq (moveDogs_accounts hmove) hget
  have hget₂ : s₂.dogs.get? k = some d₁ := by
    rw [hdogs₂]
    exact hget₁
  -- gathering adds the delivered value; retirement keeps the score or writes it to the record
  obtain ⟨d₂, hget₂, hscore₂, hid₂, hname₂⟩ := s₂.gather_score hget₂
  simp only [Dog.account, Prod.mk.injEq] at hacc₁
  rw [hmap₂] at hscore₂
  rcases (retire_ok hretire).2 hget₂ with ⟨d', hget', hacc'⟩ | ⟨r, hr, hname, hscore⟩
  · simp only [Dog.account, Prod.mk.injEq] at hacc'
    exact .inl ⟨d', hget', by rw [hacc'.1, hid₂, hacc₁.1], by rw [hacc'.2.2.1, hscore₂, hacc₁.2.2.1]⟩
  · exact .inr ⟨r, hr, by rw [hname, hname₂, hacc₁.2.1], by rw [hscore, hscore₂, hacc₁.2.2.1]⟩

/-- Loot is conserved by a tick that succeeds. The free items, the bags and the spawned
items before it are the free items, the bags, the delivered items and the bags of the
retired dogs after it. The spawned items carry the next ids of the loot counter, never more
than the dogs outnumber the free loot. The items picked up leave the free loot for the
bags and the delivered ones leave the bags, as the report counts, and each dog's score, or
its record's, rises by the value of what it delivered, these adding up to the report's
points. -/
theorem tick_conserves_loot {s s' : Session} {dt : Duration} {report : TickReport}
    (h : s.tick dt = .ok (s', .ok report)) :
    ∃ (s₂ : Session) (moved : List Nat),
      (∃ dogs, moveDogs s.map.roads dt.toSeconds s.dogs = .ok (dogs, moved) ∧
        { s with dogs := dogs }.spawnLoot dt = .ok (s₂, .ok report.spawned)) ∧
      let spawned := s₂.loot.items.drop s.loot.size
      let retired := (s₂.gather.1.dogs.items.filter (retires dt moved s.retirementTime)).flatMap (·.bag)
      ((s.loot.items : Multiset Loot) + (bags s.dogs : Multiset Loot) + (spawned : Multiset Loot) =
        (s'.loot.items : Multiset Loot) + (bags s'.dogs : Multiset Loot) + (s₂.deliveredLoot : Multiset Loot) +
          (retired : Multiset Loot)) ∧
      s₂.loot.items = s.loot.items ++ spawned ∧
      spawned.map (·.id) = List.range' s.nextLootId report.spawned ∧
      s'.nextLootId = s.nextLootId + report.spawned ∧
      report.spawned ≤ s.dogs.size - s.loot.size ∧
      s₂.pickedLoot.length = report.gathered.pickedUp ∧
      ((s.loot.items : Multiset Loot) + (spawned : Multiset Loot) =
        (s'.loot.items : Multiset Loot) + (s₂.pickedLoot : Multiset Loot)) ∧
      ((bags s.dogs : Multiset Loot) + (s₂.pickedLoot : Multiset Loot) =
        (bags s₂.gather.1.dogs : Multiset Loot) + (s₂.deliveredLoot : Multiset Loot)) ∧
      s₂.deliveredLoot.length = report.gathered.delivered ∧
      (s.dogs.handles.map fun k => bagValue s.map (s₂.deliveredBy k)).sum = report.gathered.points ∧
      ∀ k d, s.dogs.get? k = some d →
        (∃ d', s'.dogs.get? k = some d' ∧ d'.id = d.id ∧
            d'.score = d.score + bagValue s.map (s₂.deliveredBy k)) ∨
          ∃ r ∈ report.retired, r.name = d.name ∧
            r.score = d.score + bagValue s.map (s₂.deliveredBy k) := by
  obtain ⟨dogs, moved, s₂, leaving, hmove, hspawn, hretire, hloot', hnext, hgathered, hretired⟩ :=
    tick_eq_ok h
  have hacc := moveDogs_accounts hmove
  obtain ⟨hdogs₂, hmap₂, htime₂, ⟨new, hitems, hids⟩, hnext₂, hle⟩ := spawnLoot_ok hspawn
  have hbags₂ : bags s₂.dogs = bags s.dogs := by
    rw [hdogs₂]
    exact Store.bags_of_accounts_eq hacc
  have hspawned : s₂.loot.items.drop s.loot.size = new := by
    rw [hitems]
    simp
  have hpicked := s₂.gather_loot
  have hmoved := s₂.gather_bags
  have hreport := s₂.gather_report
  have hleft := (retire_ok hretire).1
  refine ⟨s₂, moved, ⟨dogs, hmove, hspawn⟩, ?_⟩
  dsimp only
  rw [hspawned, ← htime₂]
  rw [hitems] at hpicked
  rw [hbags₂] at hmoved
  rw [hreport] at hgathered
  refine ⟨?_, hitems, hids, hnext.trans hnext₂, ?_, by rw [hgathered], ?_, hmoved.symm, by rw [hgathered],
    ?_, ?_⟩
  · -- count each item through the phases
    classical
    ext a
    have h₁ := congrArg (Multiset.count a) hpicked
    have h₂ := congrArg (Multiset.count a) hmoved
    have h₃ := congrArg (Multiset.count a) hleft
    simp only [← Multiset.coe_add, Multiset.count_add, hloot'] at h₁ h₂ h₃ ⊢
    omega
  · rw [← Store.size_of_accounts_eq hacc]
    exact hle
  · rw [hloot', Multiset.coe_add, hpicked]
  · rw [hgathered, ← s₂.deliveredBy_sum, hdogs₂, Store.handles_of_accounts_eq hacc, hmap₂]
  · intro k d hget
    rw [hretired]
    exact phases_add_delivered_score hmove hspawn hretire hget

/-- On a one-road map with an office, one dog runs past a free item, the item spawned this
tick and the office, while another stands still with an item in its bag. The tick spawns one
item, the runner picks up both free items and delivers them at the office, and the dog that
stood still retires with its bag; every item is accounted for. -/
theorem tick_conserves_loot_through_a_delivery :
    let m : Map := { (default : Map) with
      roads := ⟨#[Road.horizontal ⟨0, 0⟩ 7], roadHalfWidth⟩
      offices := [⟨"post", ⟨6, 0⟩, 0, 0⟩]
      lootKinds := [⟨10, []⟩]
      bagCapacity := 3 }
    let s : Session := (({ Session.new m default with
        nextDogId := 2, nextLootId := 2, supply := ⟨Duration.zero, 1.0, Duration.zero⟩
        loot := (Store.empty.spawn ⟨0, 0, Coords.ofPoint ⟨1.0, 0.0⟩⟩).1 } : Session).insertDog
      { Dog.fresh 0 "rex" ⟨0.0, 0.0⟩ with velocity := Coords.ofVec ⟨6.5, 0.0⟩ }).insertDog
      { Dog.fresh 1 "max" ⟨0.0, 0.0⟩ with bag := [⟨1, 0, Coords.ofPoint ⟨0.0, 0.0⟩⟩] }
    let dt := Duration.ofSecs 1
    ∃ (s' : Session) (report : TickReport), s.tick dt = .ok (s', .ok report) ∧
      report.spawned = 1 ∧ report.gathered.pickedUp = 2 ∧ report.gathered.delivered = 2 ∧
      report.retired.length = 1 ∧
      ∃ (s₂ : Session) (moved : List Nat),
        (∃ dogs, moveDogs s.map.roads dt.toSeconds s.dogs = .ok (dogs, moved) ∧
          { s with dogs := dogs }.spawnLoot dt = .ok (s₂, .ok report.spawned)) ∧
        let spawned := s₂.loot.items.drop s.loot.size
        let retired :=
          (s₂.gather.1.dogs.items.filter (retires dt moved s.retirementTime)).flatMap (·.bag)
        ((s.loot.items : Multiset Loot) + (bags s.dogs : Multiset Loot) + (spawned : Multiset Loot) =
          (s'.loot.items : Multiset Loot) + (bags s'.dogs : Multiset Loot) +
            (s₂.deliveredLoot : Multiset Loot) + (retired : Multiset Loot)) ∧
        s₂.loot.items = s.loot.items ++ spawned ∧
        spawned.map (·.id) = List.range' s.nextLootId report.spawned ∧
        s'.nextLootId = s.nextLootId + report.spawned ∧
        report.spawned ≤ s.dogs.size - s.loot.size ∧
        s₂.pickedLoot.length = report.gathered.pickedUp ∧
        ((s.loot.items : Multiset Loot) + (spawned : Multiset Loot) =
          (s'.loot.items : Multiset Loot) + (s₂.pickedLoot : Multiset Loot)) ∧
        ((bags s.dogs : Multiset Loot) + (s₂.pickedLoot : Multiset Loot) =
          (bags s₂.gather.1.dogs : Multiset Loot) + (s₂.deliveredLoot : Multiset Loot)) ∧
        s₂.deliveredLoot.length = report.gathered.delivered ∧
        (s.dogs.handles.map fun k => bagValue s.map (s₂.deliveredBy k)).sum = report.gathered.points ∧
        ∀ k d, s.dogs.get? k = some d →
          (∃ d', s'.dogs.get? k = some d' ∧ d'.id = d.id ∧
              d'.score = d.score + bagValue s.map (s₂.deliveredBy k)) ∨
            ∃ r ∈ report.retired, r.name = d.name ∧
              r.score = d.score + bagValue s.map (s₂.deliveredBy k) := by
  intro m s dt
  -- The kernel evaluates every phase in one check; the results are then generalized to
  -- opaque names, so that no later step has either checker evaluate them again. The kernel
  -- cannot run a well-founded sort, but here the dogs and the loot are stored in id order
  -- and the sweep meets everything in time order, so gathering's sorts are rewritten away.
  have hrun :
      let moved := (moveDogs s.map.roads dt.toSeconds s.dogs).toOption.getD default
      let spawned := ({ s with dogs := moved.1 }.spawnLoot dt).toOption.getD (s, .ok 0)
      let retiring := retire spawned.1.gather.1.dogs dt moved.2 spawned.1.gather.1.retirementTime
      (moveDogs s.map.roads dt.toSeconds s.dogs).toBool = true ∧
        ({ s with dogs := moved.1 }.spawnLoot dt).toBool = true ∧ spawned.2.toBool = true ∧
        spawned.2.toOption.getD 0 = 1 ∧ spawned.1.gather.2 = ⟨2, 2, 20⟩ ∧ retiring.toBool = true ∧
        (retiring.toOption.getD default).2.length = 1 := by
    simp only [Session.gather, Session.gatherEvents]
    rw [dogsById_of_pairwise, lootById_of_pairwise, events_of_pairwise]
    all_goals decide +kernel
  obtain ⟨h₁, h₂, h₃, hone, hgathered, h₄, hleaving⟩ := hrun
  have hmove := eq_ok_getD default h₁
  have hspawn := eq_ok_getD (s, .ok 0) h₂
  have hcount := eq_ok_getD 0 h₃
  have hretire := eq_ok_getD default h₄
  generalize (moveDogs s.map.roads dt.toSeconds s.dogs).toOption.getD default = moved
    at hmove hspawn hcount hone hgathered hretire hleaving
  generalize ({ s with dogs := moved.1 }.spawnLoot dt).toOption.getD (s, .ok 0) = spawned
    at hspawn hcount hone hgathered hretire hleaving
  generalize (retire spawned.1.gather.1.dogs dt moved.2
    spawned.1.gather.1.retirementTime).toOption.getD default = retired at hretire hleaving
  have htick := tick_eq_of_phases hmove
    (hspawn.trans (congrArg Except.ok (Prod.ext rfl hcount)))
    (show spawned.1.gather = (spawned.1.gather.1, spawned.1.gather.2) from rfl) hretire
  refine ⟨_, _, htick, hone, ?_, ?_, ?_, tick_conserves_loot htick⟩
  · rw [hgathered]
  · rw [hgathered]
  · simpa using hleaving

end Session

end DogCourier
