import DogCourier.Proofs.Session.Phases
import DogCourier.Proofs.Game.Tick

/-! # Consistent games

    A game is consistent (`Game.Inv`) when its maps are built from roads along the grid,
    no two of its sessions are on the same map, and every session is consistent with its
    counters ahead (`Session.Inv`). A game answers requests (`Game.Request`): its own
    operations and the restore hooks of the session on a map. Every game reached from an
    empty one by any sequence of requests, each granted, refused or partly done, is
    consistent, provided a restore hook only brings back ids below the counters of its
    session, as restoring a saved game does before it sets the counters.

    * `addSession_eq_ok`, `join_eq_ok`, `restore_eq_ok`, …: what each
      operation of a game does when it is granted, proved once for every invariant;
    * `Change`, `serve_change`: what an allowed request does to a game, so that each
      invariant is kept by one short case analysis;
    * `Inv.findSession_eq_some`: the session on a map is the one session on that map;
    * `Inv.addSession`, `Inv.join`, `Inv.steer`, `Inv.onSession`: one session changes, and
      stays consistent on its map;
    * `Inv.tick`: every session ticks on its own and stays consistent;
    * `rebuild_keeps`, `rebuildAll_eq_ok`: what a fresh session has and every restoring
      step keeps, a rebuilt session has; saved sessions are rebuilt one by one;
    * `Inv.restore`, `Inv.load`: whatever the saved data, a game it restores is consistent;
    * `reachable_consistent`: every reachable game is consistent;
    * `reachable_duplicate_ids`: a hook that brings back an id at the counter lets the next
      join issue it again. -/

namespace DogCourier

/-- A plan's roads run along the grid, as the road constructors make them. -/
def MapPlan.Aligned (p : MapPlan) : Prop :=
  ∀ r ∈ p.roads, r.isHorizontal = true ∨ r.isVertical = true

/-- A map built from a plan with its roads along the grid has a sound road network. -/
theorem MapPlan.build_sound {p : MapPlan} {m : Map} (hp : p.Aligned) (h : p.build = .ok m) :
    m.roads.Sound := by
  unfold MapPlan.build at h
  split at h
  · cases h
  · rename_i hroads
    split at h
    · cases h
    · split at h
      · cases h
      · cases h
        refine { offset := rfl, aligned := fun r hr => hp r (by simpa using hr), nonempty := ?_ }
        cases hr : p.roads with
        | nil => simp [hr] at hroads
        | cons r rs => simp

namespace Game

/-- Applies a session's own request to the session on the map with id `id`; a refusal, or
no session there, leaves the game as it was. -/
def onSession (g : Game) (id : String) (f : Session → Except SessionError Session) : Game :=
  match g.findSession id with
  | some s =>
    match f s with
    | .ok s => g.putSession id s
    | .error _ => g
  | none => g

/-- A request to a game: one of its own operations, or a restore hook of the session on a
map. A new map comes as the plan it is built from. -/
inductive Request where
  | addMap (p : MapPlan)
  | addSession (map : String)
  | join (map name : String)
  | steer (map : String) (dog : Nat) (c : Steer)
  | tick (dt : Duration)
  | addSaver (period : Duration)
  | shutdown
  | load (bytes : ByteArray)
  | restore (d : SaveData)
  | restoreDog (map : String) (d : Dog)
  | restoreLoot (map : String) (l : Loot)
  | setCounters (map : String) (nextDog nextLoot : Nat)

/-- The game after a request, granted or refused; nothing when the request halted the game. -/
def serve (g : Game) : Request → Option Game
  | .addMap p => some (match p.build with
    | .ok m => (g.addMap m).toOption.getD g
    | .error _ => g)
  | .addSession id => some ((g.addSession id).toOption.getD g)
  | .join id name => some (((g.join id name).toOption.map (·.1)).getD g)
  | .steer id dog c => some ((g.steer id dog c).toOption.getD g)
  | .tick dt => (g.tick dt).toOption.map (·.1)
  | .addSaver period => some (g.addSaver period)
  | .shutdown => some g.shutdown.1
  | .load bytes => some ((g.load bytes).toOption.getD g)
  | .restore d => some ((g.restore d).toOption.getD g)
  | .restoreDog id d => some (g.onSession id (·.restoreDog d))
  | .restoreLoot id l => some (g.onSession id (·.restoreLoot l))
  | .setCounters id a b => some (g.onSession id (·.setCounters a b))

/-- A request that adds a map has its roads along the grid. -/
def Request.Aligned : Request → Prop
  | .addMap p => p.Aligned
  | _ => True

/-- A restore hook brings back ids below the counters of the session it goes to. -/
def Request.Fresh (q : Request) (g : Game) : Prop :=
  match q with
  | .restoreDog id d => ∀ s ∈ g.findSession id, d.id < s.nextDogId ∧ ∀ l ∈ d.bag, l.id < s.nextLootId
  | .restoreLoot id l => ∀ s ∈ g.findSession id, l.id < s.nextLootId
  | _ => True

/-- The games reached from an empty game by the requests `allowed` lets through. -/
inductive Reachable (allowed : Game → Request → Prop) : Game → Prop where
  | empty (settings : Settings) : Reachable allowed (Game.empty settings)
  | step {g g' : Game} (q : Request) : Reachable allowed g → allowed g q → g.serve q = some g' →
      Reachable allowed g'

/-- A consistent game: maps on sound road networks, at most one session per map, and every
session consistent with its counters ahead. -/
structure Inv (g : Game) : Prop where
  maps : ∀ m ∈ g.maps, m.roads.Sound
  sessionMaps : (g.sessions.map (·.mapId)).Nodup
  sessions : ∀ s ∈ g.sessions, s.Inv

variable {g g' : Game}

theorem mem_of_findSession {id : String} {s : Session} (h : g.findSession id = some s) :
    s ∈ g.sessions ∧ s.mapId = id :=
  ⟨List.mem_of_find?_eq_some h, by simpa using List.find?_some h⟩

theorem mapId_of_map {s s' : Session} (h : s'.map = s.map) : s'.mapId = s.mapId := by
  rw [Session.mapId, h, Session.mapId]

/-! ## What each operation does -/

theorem findMap_congr (h : g'.maps = g.maps) (id : String) : g'.findMap id = g.findMap id := by
  rw [findMap, findMap, h]

theorem findMap_id {id : String} {m : Map} (h : g.findMap id = some m) : m.id = id := by
  simpa using List.find?_some h

theorem addMap_eq_ok {m : Map} (h : g.addMap m = .ok g') : g' = { g with maps := g.maps ++ [m] } := by
  unfold Game.addMap at h
  split at h
  · cases h
  · cases h
    rfl

/-- Creating the session on a map leaves the game as it was, or adds a fresh session on the
map the id finds when there was none. -/
theorem addSession_eq_ok {id : String} (h : g.addSession id = .ok g') :
    g' = g ∨ ∃ m, g.findSession id = none ∧ g.findMap id = some m ∧
      g' = { g with sessions := g.sessions ++ [Session.new m g.settings] } := by
  unfold Game.addSession at h
  split at h
  · cases h
    exact .inl rfl
  · rename_i hnone
    split at h
    · rename_i m hm
      cases h
      exact .inr ⟨m, by simpa using hnone, hm, rfl⟩
    · cases h

/-- A join creates the session on the map if it is missing, then replaces it by the session
its own join gives. -/
theorem join_eq_ok {id name : String} {dog : Nat} (h : g.join id name = .ok (g', dog)) :
    ∃ g₁ s s', g.addSession id = .ok g₁ ∧ g₁.findSession id = some s ∧
      s.join name = .ok (s', dog) ∧ g' = g₁.putSession id s' := by
  unfold Game.join at h
  simp only [bind, Except.bind] at h
  split at h
  · cases h
  · rename_i g₁ h₁
    split at h
    · cases h
    · rename_i s hs
      split at h
      · rename_i s' dog' hj
        simp only [pure, Except.pure, Except.ok.injEq, Prod.mk.injEq] at h
        obtain ⟨rfl, rfl⟩ := h
        exact ⟨g₁, s, s', h₁, hs, hj, rfl⟩
      · cases h

theorem steer_eq_ok {id : String} {dog : Nat} {c : Steer} (h : g.steer id dog c = .ok g') :
    ∃ s s', g.findSession id = some s ∧ s.steer dog c = .ok s' ∧ g' = g.putSession id s' := by
  unfold Game.steer at h
  split at h
  · cases h
  · rename_i s hs
    split at h
    · rename_i s' hst
      cases h
      exact ⟨s, s', hs, hst, rfl⟩
    · cases h

/-- Restoring replaces the sessions by the rebuilt ones and the leaderboard by the saved
records in rank order. -/
theorem restore_eq_ok {d : SaveData} (h : g.restore d = .ok g') :
    ∃ ss, g.rebuildAll [] d.sessions = .ok ss ∧
      g' = { g with sessions := ss, leaderboard := Leaderboard.ofRecords d.leaderboard } := by
  unfold Game.restore at h
  simp only [bind, Except.bind] at h
  split at h
  · cases h
  · split at h
    · cases h
    · rename_i ss hss
      simp only [pure, Except.pure, Except.ok.injEq] at h
      exact ⟨ss, hss, h.symm⟩

theorem load_eq_ok {bytes : ByteArray} (h : g.load bytes = .ok g') :
    ∃ d, SaveData.decode bytes = .ok d ∧ g.restore d = .ok g' := by
  unfold Game.load at h
  split at h
  · rename_i d hd
    exact ⟨d, hd, h⟩
  · cases h

/-- In a consistent game, the session on a map is the one session on that map. -/
theorem Inv.findSession_eq_some (hg : g.Inv) {id : String} {s : Session} :
    g.findSession id = some s ↔ s ∈ g.sessions ∧ s.mapId = id := by
  refine ⟨mem_of_findSession, fun ⟨hs, hid⟩ => ?_⟩
  have hsome : (g.findSession id).isSome := List.find?_isSome.mpr ⟨s, hs, by simpa using hid⟩
  obtain ⟨t, ht⟩ := Option.isSome_iff_exists.mp hsome
  obtain ⟨ht', htid⟩ := mem_of_findSession ht
  rw [ht, List.inj_on_of_nodup_map hg.sessionMaps ht' hs (htid.trans hid.symm)]

/-- Replacing the session on a map by a consistent one on the same map keeps a game
consistent. -/
theorem Inv.putSession (hg : g.Inv) {id : String} {s : Session} (hs : s.Inv) (hid : s.mapId = id) :
    (g.putSession id s).Inv where
  maps := hg.maps
  sessionMaps := by
    have hids : (g.putSession id s).sessions.map (·.mapId) = g.sessions.map (·.mapId) := by
      simp only [Game.putSession, List.map_map]
      apply List.map_congr_left
      intro t _
      by_cases ht : t.mapId = id <;> simp [ht, hid]
    exact hids ▸ hg.sessionMaps
  sessions := by
    intro t ht
    obtain ⟨u, hu, rfl⟩ := List.mem_map.mp ht
    split
    · exact hs
    · exact hg.sessions u hu

theorem Inv.addMap (hg : g.Inv) {m : Map} (hm : m.roads.Sound) (h : g.addMap m = .ok g') : g'.Inv := by
  obtain rfl := addMap_eq_ok h
  refine { hg with maps := fun m' hm' => ?_ }
  rcases List.mem_append.mp hm' with hm' | hm'
  · exact hg.maps m' hm'
  · rw [List.mem_singleton.mp hm']
    exact hm

/-- Creating the session on a map keeps a game consistent: the map has no session yet. -/
theorem Inv.addSession (hg : g.Inv) {id : String} (h : g.addSession id = .ok g') : g'.Inv := by
  rcases addSession_eq_ok h with rfl | ⟨m, hnone, hm, rfl⟩
  · exact hg
  · have hfresh : id ∉ g.sessions.map (·.mapId) := by
      intro hmem
      obtain ⟨t, ht, htid⟩ := List.mem_map.mp hmem
      exact List.find?_eq_none.mp hnone t ht (by simpa using htid)
    refine { maps := hg.maps, sessionMaps := ?_, sessions := ?_ }
    · simp only [List.map_append, List.map_cons, List.map_nil]
      refine List.nodup_append.mpr ⟨hg.sessionMaps, List.nodup_singleton _,
        fun a ha b hb hab => ?_⟩
      have hnew : (Session.new m g.settings).mapId = id := findMap_id hm
      rw [hab, List.mem_singleton.mp hb, hnew] at ha
      exact hfresh ha
    · intro s hs
      rcases List.mem_append.mp hs with hs | hs
      · exact hg.sessions s hs
      · rw [List.mem_singleton.mp hs]
        exact Session.new_inv (hg.maps m (List.mem_of_find?_eq_some hm)) _

/-- Joining keeps a game consistent, creating the session on the map if it is missing. -/
theorem Inv.join (hg : g.Inv) {id name : String} {dog : Nat} (h : g.join id name = .ok (g', dog)) :
    g'.Inv := by
  obtain ⟨g₁, s, s', h₁, hs, hj, rfl⟩ := join_eq_ok h
  have hg₁ := hg.addSession h₁
  obtain ⟨hmem, hid⟩ := mem_of_findSession hs
  exact hg₁.putSession (Session.join_inv (hg₁.sessions s hmem) hj)
    ((mapId_of_map (Session.join_map hj)).trans hid)

theorem Inv.steer (hg : g.Inv) {id : String} {dog : Nat} {c : Steer} (h : g.steer id dog c = .ok g') :
    g'.Inv := by
  obtain ⟨s, s', hs, hst, rfl⟩ := steer_eq_ok h
  obtain ⟨hmem, hid⟩ := mem_of_findSession hs
  exact hg.putSession (Session.steer_inv (hg.sessions s hmem) hst)
    ((mapId_of_map (Session.steer_map hst)).trans hid)

/-- A session request that keeps the session it is applied to consistent on its map keeps the
game consistent. -/
theorem Inv.onSession (hg : g.Inv) {id : String} {f : Session → Except SessionError Session}
    (hf : ∀ s s', g.findSession id = some s → s.Inv → f s = .ok s' → s'.Inv ∧ s'.map = s.map) :
    (g.onSession id f).Inv := by
  unfold Game.onSession
  split
  · rename_i s hs
    obtain ⟨hmem, hid⟩ := mem_of_findSession hs
    split
    · rename_i s' hs'
      obtain ⟨hinv, hmap⟩ := hf s s' hs (hg.sessions s hmem) hs'
      exact hg.putSession hinv ((mapId_of_map hmap).trans hid)
    · exact hg
  · exact hg

/-- A game tick keeps a game consistent: every session ticks on its own, on its map. -/
theorem Inv.tick (hg : g.Inv) {dt : Duration} {r : Except GameError Unit}
    (h : g.tick dt = .ok (g', r)) : g'.Inv := by
  obtain ⟨results, hres, hsessions, hmaps, -⟩ := tick_eq_ok h
  have hF := (mapM_eq_ok_iff _ _ _).mp hres
  -- every session keeps its map through its own tick
  have hids : g.sessions.map (·.mapId) = results.map fun r => r.1.mapId :=
    @forall₂_map_eq _ _ _ _ (·.mapId) (fun r => r.1.mapId)
      (fun _ _ hr => (mapId_of_map (Session.tick_map hr)).symm) _ _ hF
  refine { maps := hmaps ▸ hg.maps, sessionMaps := ?_, sessions := ?_ }
  · rw [hsessions, List.map_map]
    exact hids ▸ hg.sessionMaps
  intro s hs
  rw [hsessions] at hs
  obtain ⟨r, hr, rfl⟩ := List.mem_map.mp hs
  obtain ⟨s₀, hs₀, h₀⟩ := forall₂_exists_of_mem hF.flip hr
  exact Session.tick_inv (hg.sessions s₀ hs₀) h₀

/-! ## Restoring -/

/-- A fold of steps that keep a property of sessions keeps it. -/
theorem foldlM_keeps {α : Type} (P : Session → Prop) (f : Session → α → Except SaveError Session)
    (hf : ∀ s a s', P s → f s a = .ok s' → P s') :
    ∀ (L : List α) (s s' : Session), P s → L.foldlM f s = .ok s' → P s'
  | [], s, s', hs, h => by
    simp only [List.foldlM_nil, pure, Except.pure, Except.ok.injEq] at h
    exact h ▸ hs
  | a :: L, s, s', hs, h => by
    rw [List.foldlM_cons] at h
    cases hfa : f s a with
    | error e =>
      rw [hfa] at h
      cases h
    | ok s₁ =>
      rw [hfa] at h
      exact foldlM_keeps P f hf L s₁ s' (hf s a s₁ hs hfa) h

/-- What holds of a fresh session on the saved map and is kept by restoring a dog and an
item holds of a rebuilt session before its counters are set; what setting them then gives
holds of the rebuilt session. -/
theorem rebuild_keeps (P Q : Session → Prop) {saved : SavedSession} {s : Session}
    (hnew : ∀ m, g.findMap saved.mapId = some m → P (Session.new m g.settings))
    (hdog : ∀ s d s', P s → s.restoreDog d = .ok s' → P s')
    (hloot : ∀ s l s', P s → s.restoreLoot l = .ok s' → P s')
    (hcounters : ∀ s s', P s → s.setCounters saved.nextDogId saved.nextLootId = .ok s' → Q s')
    (h : g.rebuild saved = .ok s) : Q s := by
  unfold Game.rebuild at h
  split at h
  · rename_i m hm
    simp only [bind, Except.bind] at h
    -- a step the session accepts keeps the property; a refusal ends the rebuild
    have hstep : ∀ {R : Session → Prop} {r : Except SessionError Session} {s' : Session},
        (∀ t, r = .ok t → R t) →
        (match r with
          | .ok s => .ok s
          | .error e => .error (SaveError.corrupt saved.mapId e)) = Except.ok s' → R s' := by
      intro R r s' hr h
      split at h
      · cases h
        exact hr _ rfl
      · cases h
    split at h
    · cases h
    · rename_i s₁ h₁
      have hs₁ := foldlM_keeps P _ (fun s d s' hs hd => hstep (fun t ht => hdog s _ t hs ht) hd)
        _ _ _ (hnew m hm) h₁
      split at h
      · cases h
      · rename_i s₂ h₂
        have hs₂ := foldlM_keeps P _ (fun s l s' hs hl => hstep (fun t ht => hloot s l t hs ht) hl)
          _ _ _ hs₁ h₂
        exact hstep (fun t ht => hcounters s₂ t hs₂ ht) h
  · cases h

/-- A rebuilt session is on the map its saved map id finds. -/
theorem rebuild_map {saved : SavedSession} {s : Session} (h : g.rebuild saved = .ok s) :
    g.findMap saved.mapId = some s.map :=
  rebuild_keeps (fun s => g.findMap saved.mapId = some s.map)
    (fun s => g.findMap saved.mapId = some s.map) (fun _ hm => hm)
    (fun _ _ _ hs hd => by rw [hs, (Session.restoreDog_eq_ok hd).1]; rfl)
    (fun _ _ _ hs hl => by rw [hs, (Session.restoreLoot_eq_ok hl).1])
    (fun _ _ hs hc => by rw [hs, (Session.setCounters_eq_ok hc).1]) h

/-- A rebuilt session is consistent with its counters ahead, on the map it names, whatever the
saved data: every restored dog and item passes the session's checks, and the counters are
accepted only when they are ahead. -/
theorem Inv.rebuild (hg : g.Inv) {saved : SavedSession} {s : Session}
    (h : g.rebuild saved = .ok s) : s.Inv ∧ s.mapId = saved.mapId := by
  have hinv := rebuild_keeps (fun s => s.Sound) (fun s => s.Inv) (fun m hm =>
      (Session.new_inv (hg.maps m (List.mem_of_find?_eq_some hm)) _).toSound)
    (fun _ _ _ hs hd => Session.restoreDog_sound hs hd)
    (fun _ _ _ hs hl => Session.restoreLoot_sound hs hl)
    (fun _ _ hs hc => Session.setCounters_inv hs hc) h
  exact ⟨hinv, findMap_id (rebuild_map h)⟩

/-- Rebuilding saved sessions rebuilds each in order, and succeeds only when no map id
repeats an earlier one or one seen before. -/
theorem rebuildAll_eq_ok : ∀ {seen : List String} {saved : List SavedSession} {ss : List Session},
    g.rebuildAll seen saved = .ok ss →
      List.Forall₂ (fun sv s => g.rebuild sv = .ok s) saved ss ∧
        (saved.map (·.mapId)).Nodup ∧ ∀ sv ∈ saved, sv.mapId ∉ seen
  | _, [], ss, h => by
    cases h
    simp
  | seen, saved :: rest, ss, h => by
    unfold Game.rebuildAll at h
    split at h
    · cases h
    · rename_i hseen
      simp only [bind, Except.bind] at h
      split at h
      · cases h
      · rename_i s hs
        split at h
        · cases h
        · rename_i ss' hss'
          simp only [pure, Except.pure, Except.ok.injEq] at h
          subst h
          obtain ⟨hF, hnodup, hnew⟩ := rebuildAll_eq_ok hss'
          refine ⟨.cons hs hF, List.nodup_cons.mpr ⟨fun hmem => ?_, hnodup⟩, ?_⟩
          · obtain ⟨sv, hsv, hid⟩ := List.mem_map.mp hmem
            exact hnew sv hsv (List.mem_cons.mpr (.inl hid))
          · intro sv hsv
            rcases List.mem_cons.mp hsv with rfl | hsv
            · simpa using hseen
            · exact fun hmem => hnew sv hsv (List.mem_cons_of_mem _ hmem)

/-- Rebuilt sessions are consistent, on distinct maps none of which was seen before. -/
theorem Inv.rebuildAll (hg : g.Inv) : ∀ (seen : List String) (saved : List SavedSession)
    (ss : List Session), g.rebuildAll seen saved = .ok ss →
      (ss.map (·.mapId)).Nodup ∧ (∀ s ∈ ss, s.mapId ∉ seen) ∧ ∀ s ∈ ss, s.Inv := by
  intro seen saved ss h
  obtain ⟨hF, hnodup, hnew⟩ := rebuildAll_eq_ok h
  -- each rebuilt session is on the map its saved session names
  have hids : saved.map (·.mapId) = ss.map (·.mapId) :=
    @forall₂_map_eq _ _ _ _ (·.mapId) (·.mapId) (fun _ _ hr => (hg.rebuild hr).2.symm) _ _ hF
  refine ⟨hids ▸ hnodup, fun s hs => ?_, fun s hs => ?_⟩
  · obtain ⟨sv, hsv, hr⟩ := forall₂_exists_of_mem hF.flip hs
    rw [(hg.rebuild hr).2]
    exact hnew sv hsv
  · obtain ⟨sv, -, hr⟩ := forall₂_exists_of_mem hF.flip hs
    exact (hg.rebuild hr).1

/-- Restoring keeps a game consistent, whatever the saved data. -/
theorem Inv.restore (hg : g.Inv) {d : SaveData} (h : g.restore d = .ok g') : g'.Inv := by
  obtain ⟨ss, hss, rfl⟩ := restore_eq_ok h
  obtain ⟨hnodup, -, hall⟩ := hg.rebuildAll [] d.sessions ss hss
  exact { maps := hg.maps, sessionMaps := hnodup, sessions := hall }

theorem Inv.load (hg : g.Inv) {bytes : ByteArray} (h : g.load bytes = .ok g') : g'.Inv := by
  obtain ⟨d, -, hd⟩ := load_eq_ok h
  exact hg.restore hd

/-! ## Reachable games -/

/-- What an allowed request does to a game: it keeps the maps, the sessions and the
leaderboard (a refusal, a new saver, a shutdown), or it is one granted operation, or it is a
restore hook that keeps the session it goes to consistent on its map. -/
inductive Change (g : Game) : Game → Prop where
  | stay {g' : Game} : g'.maps = g.maps → g'.sessions = g.sessions →
      g'.leaderboard = g.leaderboard → Change g g'
  | addMap {m : Map} {g' : Game} : m.roads.Sound → g.addMap m = .ok g' → Change g g'
  | addSession {id : String} {g' : Game} : g.addSession id = .ok g' → Change g g'
  | join {id name : String} {dog : Nat} {g' : Game} : g.join id name = .ok (g', dog) → Change g g'
  | steer {id : String} {dog : Nat} {c : Steer} {g' : Game} : g.steer id dog c = .ok g' → Change g g'
  | tick {dt : Duration} {r : Except GameError Unit} {g' : Game} :
      g.tick dt = .ok (g', r) → Change g g'
  | load {bytes : ByteArray} {g' : Game} : g.load bytes = .ok g' → Change g g'
  | restore {d : SaveData} {g' : Game} : g.restore d = .ok g' → Change g g'
  | hook {id : String} {f : Session → Except SessionError Session} :
      (∀ s s', g.findSession id = some s → s.Inv → f s = .ok s' → s'.Inv ∧ s'.map = s.map) →
      Change g (g.onSession id f)

/-- A result that is a change whenever it is granted, or the game as it was. -/
theorem Change.getD {ε : Type} {x : Except ε Game} (hx : ∀ g', x = .ok g' → g.Change g') :
    g.Change (x.toOption.getD g) := by
  cases x with
  | ok g' => exact hx g' rfl
  | error e => exact .stay rfl rfl rfl

/-- Every allowed request makes one of the changes `Change` lists, granted, refused or halfway
done. -/
theorem serve_change {q : Request} (hq : q.Aligned ∧ q.Fresh g) (h : g.serve q = some g') :
    g.Change g' := by
  cases q with
  | addMap p =>
    simp only [Game.serve, Option.some.injEq] at h
    subst h
    split
    · rename_i m hm
      exact Change.getD fun _ h' => .addMap (MapPlan.build_sound hq.1 hm) h'
    · exact .stay rfl rfl rfl
  | addSession id =>
    simp only [Game.serve, Option.some.injEq] at h
    subst h
    exact Change.getD fun _ h' => .addSession h'
  | join id name =>
    simp only [Game.serve, Option.some.injEq] at h
    subst h
    rcases hj : g.join id name with _ | ⟨g₁, dog⟩
    · exact .stay rfl rfl rfl
    · exact .join hj
  | steer id dog c =>
    simp only [Game.serve, Option.some.injEq] at h
    subst h
    exact Change.getD fun _ h' => .steer h'
  | tick dt =>
    simp only [Game.serve] at h
    rcases ht : g.tick dt with _ | ⟨g₁, r⟩
    · simp [ht, Except.toOption] at h
    · simp only [ht, Except.toOption, Option.map_some, Option.some.injEq] at h
      subst h
      exact .tick ht
  | addSaver period =>
    simp only [Game.serve, Option.some.injEq] at h
    subst h
    exact .stay rfl rfl rfl
  | shutdown =>
    simp only [Game.serve, Option.some.injEq] at h
    subst h
    exact .stay rfl rfl rfl
  | load bytes =>
    simp only [Game.serve, Option.some.injEq] at h
    subst h
    exact Change.getD fun _ h' => .load h'
  | restore d =>
    simp only [Game.serve, Option.some.injEq] at h
    subst h
    exact Change.getD fun _ h' => .restore h'
  | restoreDog id d =>
    simp only [Game.serve, Option.some.injEq] at h
    subst h
    -- the hook brings back ids below the counters, so the session stays consistent
    refine .hook fun s s' hfind hs hd => ⟨?_, ?_⟩
    · obtain ⟨hid, hbag⟩ := hq.2 s hfind
      exact Session.restoreDog_inv hs hid hbag hd
    · rw [(Session.restoreDog_eq_ok hd).1]
      rfl
  | restoreLoot id l =>
    simp only [Game.serve, Option.some.injEq] at h
    subst h
    refine .hook fun s s' hfind hs hl => ⟨Session.restoreLoot_inv hs (hq.2 s hfind) hl, ?_⟩
    rw [(Session.restoreLoot_eq_ok hl).1]
  | setCounters id a b =>
    simp only [Game.serve, Option.some.injEq] at h
    subst h
    refine .hook fun s s' _ hs hc => ⟨Session.setCounters_inv hs.toSound hc, ?_⟩
    rw [(Session.setCounters_eq_ok hc).1]

/-- Every allowed request keeps a game consistent, granted, refused or halfway done. -/
theorem Inv.serve (hg : g.Inv) {q : Request} (hq : q.Aligned ∧ q.Fresh g) (h : g.serve q = some g') :
    g'.Inv := by
  cases serve_change hq h with
  | stay hmaps hsessions _ => exact ⟨hmaps ▸ hg.maps, hsessions ▸ hg.sessionMaps, hsessions ▸ hg.sessions⟩
  | addMap hm h => exact hg.addMap hm h
  | addSession h => exact hg.addSession h
  | join h => exact hg.join h
  | steer h => exact hg.steer h
  | tick h => exact hg.tick h
  | load h => exact hg.load h
  | restore h => exact hg.restore h
  | hook hf => exact hg.onSession hf

/-- A plan with one road from the origin ten cells east and one kind of loot. -/
def linePlan : MapPlan :=
  { id := "m", name := "m", roads := [Road.horizontal ⟨0, 0⟩ 10], buildings := [], offices := []
    lootKinds := [⟨1, []⟩] }

theorem linePlan_aligned : linePlan.Aligned := by
  intro r hr
  simp only [linePlan, List.mem_singleton] at hr
  subst hr
  decide

/-- Every game reached from an empty game, by requests whose new maps have their roads along
the grid and whose restore hooks bring back ids below their session's counters, is
consistent: its sessions are on distinct maps, and in each no two dogs share an id or a name,
the indexes hold exactly the dogs' ids and names, no two items of loot share an id, every bag
is within capacity, every dog and item is on the roads, and the counters are ahead of every
id held. -/
theorem reachable_consistent {g : Game} (h : Reachable (fun g q => q.Aligned ∧ q.Fresh g) g) :
    g.Inv := by
  induction h with
  | empty settings => exact ⟨by simp [Game.empty], by simp [Game.empty], by simp [Game.empty]⟩
  | step q _ hq hserve ih => exact ih.serve hq hserve

/-- Counters set ahead, a dog restored below them and a join: the game stays consistent, and
the join takes the id the counter holds. -/
theorem restored_game_consistent :
    ∃ g, Reachable (fun g q => q.Aligned ∧ q.Fresh g) g ∧
      g.sessions.map (fun s => s.dogs.items.map (·.id)) = [[3, 5]] ∧ g.Inv := by
  have h₁ : Reachable (fun g q => q.Aligned ∧ q.Fresh g) _ :=
    .step (.addMap linePlan) (.empty default) ⟨linePlan_aligned, trivial⟩ rfl
  have h₂ : Reachable (fun g q => q.Aligned ∧ q.Fresh g) _ :=
    .step (.addSession "m") h₁ ⟨trivial, trivial⟩ rfl
  have h₃ : Reachable (fun g q => q.Aligned ∧ q.Fresh g) _ :=
    .step (.setCounters "m" 5 5) h₂ ⟨trivial, trivial⟩ rfl
  have h₄ : Reachable (fun g q => q.Aligned ∧ q.Fresh g) _ :=
    .step (.restoreDog "m" (Dog.fresh 3 "a" ⟨0.0, 0.0⟩)) h₃
      ⟨trivial, by simp only [Request.Fresh]; decide +kernel⟩ rfl
  have h₅ : Reachable (fun g q => q.Aligned ∧ q.Fresh g) _ :=
    .step (.join "m" "b") h₄ ⟨trivial, trivial⟩ rfl
  exact ⟨_, h₅, by decide +kernel, reachable_consistent h₅⟩

/-- Without the freshness of the hooks, reachable games are not all consistent: a dog restored
with the id the counter holds is followed by a join that issues the same id again. -/
theorem reachable_duplicate_ids :
    ∃ g, Reachable (fun _ q => q.Aligned) g ∧
      ∃ s ∈ g.sessions, ¬ (s.dogs.items.map (·.id)).Nodup := by
  have h₁ : Reachable (fun _ q => q.Aligned) _ :=
    .step (.addMap linePlan) (.empty default) linePlan_aligned rfl
  have h₂ : Reachable (fun _ q => q.Aligned) _ := .step (.addSession "m") h₁ trivial rfl
  have h₃ : Reachable (fun _ q => q.Aligned) _ :=
    .step (.restoreDog "m" (Dog.fresh 0 "a" ⟨0.0, 0.0⟩)) h₂ trivial rfl
  have h₄ : Reachable (fun _ q => q.Aligned) _ := .step (.join "m" "b") h₃ trivial rfl
  exact ⟨_, h₄, by decide +kernel⟩

end Game

end DogCourier
