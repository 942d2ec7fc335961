import DogCourier.Proofs.Game.Reach
import DogCourier.Proofs.Session.Restore
import DogCourier.Proofs.Save.RoundTrip

/-! # A saved game resumes where it stopped

    Loading the bytes a game saves, on a game with the same maps, brings back what was
    saved: the same sessions in the same order, each with its dogs, its free loot and its
    counters, and the same leaderboard. Every query of a map's dogs and loot then answers
    as before, and the next join on a map issues the id it would have issued
    (`load_save_resumes`).

    This holds of every reachable game whose numbers fit the widths of the save. Such a
    game is `Resumable`: consistent, each session on the map the game finds by the
    session's map id, and the leaderboard in rank order; every request keeps that
    (`Resumable.serve`).

    * `Session.join_id_of_saved`, `Session.state_of_saved`: what a join issues and what a
      query shows depend only on what is saved of the session;
    * `rebuildAll_saved`: consistent sessions on their maps, no two on one map, are rebuilt
      from what is saved of them into consistent sessions saved the same way;
    * `restore_snapshot`: a resumable game's snapshot restores its sessions and leaderboard;
    * `join_id_eq`, `state_eq`: consistent games with the same maps and sessions saved
      alike answer joins and queries alike. -/

namespace DogCourier

/-- A saved game whose numbers fit their widths reads back from its bytes. -/
theorem SaveData.decode_encode {d : SaveData} (hd : d.Fits) : SaveData.decode d.encode = .ok d := by
  have hread := Codec.saveData_readsAll Codec.duration_readsAll d.encode 0 d [] hd (by simp)
  simp [SaveData.decode, hread, Except.map]

/-! ## What is saved of a session -/

namespace Session

variable {s t : Session}

@[simp] theorem saved_mapId (s : Session) : s.saved.mapId = s.mapId := rfl

/-- A join issues the dog counter, unless the name is taken or the counter is at the id
limit. -/
theorem join_id (s : Session) (name : String) :
    (s.join name).map (·.2) =
      if s.names.mem name then .error (.duplicateDogName name)
      else if s.nextDogId + 1 ≥ idLimit then .error (.idOverflow .dog)
      else .ok s.nextDogId := by
  unfold join
  by_cases hn : s.names.mem name
  · simp [hn, Except.map]
  · by_cases hl : s.nextDogId + 1 ≥ idLimit
    · simp [hn, hl, Except.map]
    · simp only [hn, hl, if_false, Bool.false_eq_true]
      rfl

/-- Sessions saved alike list the same dogs in id order. -/
theorem dogList_of_saved (h : t.saved = s.saved) : t.dogList = s.dogList := by
  have hdogs : t.dogList.map SavedDog.ofDog = s.dogList.map SavedDog.ofDog :=
    congrArg SavedSession.dogs h
  simpa [List.map_map, Function.comp_def] using congrArg (List.map SavedDog.toDog) hdogs

/-- Sessions saved alike show the same dogs and free loot. -/
theorem state_of_saved (h : t.saved = s.saved) : t.state = s.state := by
  rw [state, state, dogList_of_saved h]
  exact congrArg (SessionState.mk s.dogList) (congrArg SavedSession.loot h)

/-- Consistent sessions saved alike issue the same id to a join, or refuse it alike. -/
theorem join_id_of_saved (hs : s.Sound) (ht : t.Sound) (h : t.saved = s.saved) (name : String) :
    (t.join name).map (·.2) = (s.join name).map (·.2) := by
  -- the name index holds the names of the dogs, which both list in the same order
  have hnames : t.names.mem name = s.names.mem name := by
    rw [Bool.eq_iff_iff, ht.mem_names, hs.mem_names, ← (ht.dogList_perm.map _).mem_iff,
      ← (hs.dogList_perm.map _).mem_iff, dogList_of_saved h]
  have hcounter : t.nextDogId = s.nextDogId := congrArg SavedSession.nextDogId h
  rw [join_id, join_id, hnames, hcounter]

end Session

namespace Game

variable {g g' : Game} {id : String}

/-! ## Games whose save brings them back -/

/-- A game whose save brings it back: consistent, every session on the map the game finds
by the session's map id, and the leaderboard in rank order. -/
structure Resumable (g : Game) : Prop extends g.Inv where
  onMaps : ∀ s ∈ g.sessions, g.findMap s.mapId = some s.map
  ranked : g.leaderboard.Ranked

theorem Resumable.empty (settings : Settings) : (Game.empty settings).Resumable where
  maps := by simp [Game.empty]
  sessionMaps := by simp [Game.empty]
  sessions := by simp [Game.empty]
  onMaps := by simp [Game.empty]
  ranked := List.Pairwise.nil

theorem Resumable.addMap (hg : g.Resumable) {m : Map} (hm : m.roads.Sound) (h : g.addMap m = .ok g') :
    g'.Resumable := by
  have hinv := hg.toInv.addMap hm h
  obtain rfl := addMap_eq_ok h
  refine ⟨hinv, fun s hs => ?_, hg.ranked⟩
  -- a new map comes after the map of every session
  have hfound : g.maps.find? (fun m => m.id == s.mapId) = some s.map := hg.onMaps s hs
  show (g.maps ++ [m]).find? _ = _
  rw [List.find?_append, hfound, Option.some_or]

theorem Resumable.addSession (hg : g.Resumable) (h : g.addSession id = .ok g') : g'.Resumable := by
  have hinv := hg.toInv.addSession h
  rcases addSession_eq_ok h with rfl | ⟨m, -, hm, rfl⟩
  · exact hg
  · refine ⟨hinv, fun s hs => ?_, hg.ranked⟩
    rcases List.mem_append.mp hs with hs | hs
    · exact hg.onMaps s hs
    · rw [List.mem_singleton.mp hs]
      -- the fresh session is on the map its id finds, whose own id is that id
      show g.findMap m.id = some m
      rw [findMap_id hm, hm]

/-- Replacing the session on a map by a consistent one on the same map keeps a game
resumable. -/
theorem Resumable.putSession (hg : g.Resumable) {s s' : Session} (hs : g.findSession id = some s)
    (hs' : s'.Inv) (hmap : s'.map = s.map) : (g.putSession id s').Resumable := by
  obtain ⟨hmem, hid⟩ := mem_of_findSession hs
  refine ⟨hg.toInv.putSession hs' ((mapId_of_map hmap).trans hid), ?_, hg.ranked⟩
  intro t ht
  obtain ⟨u, hu, rfl⟩ := List.mem_map.mp ht
  split
  · show g.findMap s'.mapId = some s'.map
    rw [mapId_of_map hmap, hmap]
    exact hg.onMaps s hmem
  · exact hg.onMaps u hu

theorem Resumable.join (hg : g.Resumable) {name : String} {dog : Nat}
    (h : g.join id name = .ok (g', dog)) : g'.Resumable := by
  obtain ⟨g₁, s, s', h₁, hs, hj, rfl⟩ := join_eq_ok h
  have hg₁ := hg.addSession h₁
  exact hg₁.putSession hs (Session.join_inv (hg₁.sessions s (mem_of_findSession hs).1) hj)
    (Session.join_map hj)

theorem Resumable.steer (hg : g.Resumable) {dog : Nat} {c : Steer} (h : g.steer id dog c = .ok g') :
    g'.Resumable := by
  obtain ⟨s, s', hs, hst, rfl⟩ := steer_eq_ok h
  exact hg.putSession hs (Session.steer_inv (hg.sessions s (mem_of_findSession hs).1) hst)
    (Session.steer_map hst)

theorem Resumable.onSession (hg : g.Resumable) {f : Session → Except SessionError Session}
    (hf : ∀ s s', g.findSession id = some s → s.Inv → f s = .ok s' → s'.Inv ∧ s'.map = s.map) :
    (g.onSession id f).Resumable := by
  unfold Game.onSession
  split
  · rename_i s hs
    split
    · rename_i s' hs'
      obtain ⟨hinv, hmap⟩ := hf s s' hs (hg.sessions s (mem_of_findSession hs).1) hs'
      exact hg.putSession hs hinv hmap
    · exact hg
  · exact hg

/-- A game tick keeps a game resumable: each session stays on its map, and the retired dogs'
records go into the leaderboard in rank order. -/
theorem Resumable.tick (hg : g.Resumable) {dt : Duration} {r : Except GameError Unit}
    (h : g.tick dt = .ok (g', r)) : g'.Resumable := by
  obtain ⟨results, hres, hsessions, hmaps, hlb⟩ := tick_eq_ok h
  have hF := (mapM_eq_ok_iff _ _ _).mp hres
  refine ⟨hg.toInv.tick h, fun s hs => ?_, hlb ▸ Leaderboard.extend_ranked hg.ranked _⟩
  rw [hsessions] at hs
  obtain ⟨r, hr, rfl⟩ := List.mem_map.mp hs
  obtain ⟨s₀, hs₀, h₀⟩ := forall₂_exists_of_mem hF.flip hr
  have hmap := Session.tick_map h₀
  rw [findMap_congr hmaps, mapId_of_map hmap, hmap]
  exact hg.onMaps s₀ hs₀

/-- Restoring keeps a game resumable, whatever the saved data: every rebuilt session is on
the map its id finds, and the saved records are sorted into rank order. -/
theorem Resumable.restore (hg : g.Resumable) {d : SaveData} (h : g.restore d = .ok g') :
    g'.Resumable := by
  have hinv := hg.toInv.restore h
  obtain ⟨ss, hss, rfl⟩ := restore_eq_ok h
  refine ⟨hinv, fun s hs => ?_, Leaderboard.ofRecords_ranked _⟩
  obtain ⟨hF, -, -⟩ := rebuildAll_eq_ok hss
  obtain ⟨saved, -, hr⟩ := forall₂_exists_of_mem hF.flip hs
  have hmap := rebuild_map hr
  rw [Session.mapId, findMap_id hmap]
  exact hmap

theorem Resumable.load (hg : g.Resumable) {bytes : ByteArray} (h : g.load bytes = .ok g') :
    g'.Resumable := by
  obtain ⟨d, -, hd⟩ := load_eq_ok h
  exact hg.restore hd

/-- Every allowed request keeps a game resumable, granted, refused or halfway done. -/
theorem Resumable.serve (hg : g.Resumable) {q : Request} (hq : q.Aligned ∧ q.Fresh g)
    (h : g.serve q = some g') : g'.Resumable := by
  cases serve_change hq h with
  | stay hmaps hsessions hlb =>
    refine ⟨hg.toInv.serve hq h, fun s hs => ?_, hlb ▸ hg.ranked⟩
    rw [findMap_congr hmaps]
    exact hg.onMaps s (hsessions ▸ hs)
  | addMap hm h => exact hg.addMap hm h
  | addSession h => exact hg.addSession h
  | join h => exact hg.join h
  | steer h => exact hg.steer h
  | tick h => exact hg.tick h
  | load h => exact hg.load h
  | restore h => exact hg.restore h
  | hook hf => exact hg.onSession hf

/-- Every game reached from an empty game by allowed requests is resumable. -/
theorem reachable_resumable (h : Reachable (fun g q => q.Aligned ∧ q.Fresh g) g) : g.Resumable := by
  induction h with
  | empty settings => exact Resumable.empty settings
  | step q _ hq hserve ih => exact ih.serve hq hserve

/-! ## Restoring a snapshot -/

/-- Consistent sessions, each on the map its id finds and no two on one map, are rebuilt from
what is saved of them, in order, into consistent sessions on the same maps saved the same
way. -/
theorem rebuildAll_saved : ∀ (ss : List Session) (seen : List String),
    (∀ s ∈ ss, s.Inv ∧ g.findMap s.mapId = some s.map) → (ss.map (·.mapId)).Nodup →
    (∀ s ∈ ss, s.mapId ∉ seen) →
    ∃ ts, g.rebuildAll seen (ss.map Session.saved) = .ok ts ∧
      ts.map Session.saved = ss.map Session.saved ∧ ∀ t ∈ ts, t.Inv ∧ g.findMap t.mapId = some t.map
  | [], _, _, _, _ => ⟨[], rfl, rfl, by simp⟩
  | s :: ss, seen, hss, hnodup, hseen => by
    obtain ⟨hs, hmap⟩ := hss s List.mem_cons_self
    obtain ⟨t, ht, hsaved, htinv, htmap⟩ := rebuild_saved hs hmap
    obtain ⟨hfresh, hnodup'⟩ := List.nodup_cons.mp hnodup
    -- the later sessions are on maps neither seen before nor this one's
    have hseen' : ∀ u ∈ ss, u.mapId ∉ s.mapId :: seen := by
      intro u hu hmem
      rcases List.mem_cons.mp hmem with heq | hmem
      · exact hfresh (List.mem_map.mpr ⟨u, hu, heq⟩)
      · exact hseen u (List.mem_cons_of_mem _ hu) hmem
    obtain ⟨ts, hts, hsaveds, htsinv⟩ := rebuildAll_saved ss (s.mapId :: seen)
      (fun u hu => hss u (List.mem_cons_of_mem _ hu)) hnodup' hseen'
    refine ⟨t :: ts, ?_, by rw [List.map_cons, List.map_cons, hsaved, hsaveds], ?_⟩
    · have hnew : s.mapId ∉ seen := hseen s List.mem_cons_self
      rw [List.map_cons, rebuildAll, if_neg (by simpa using hnew)]
      simp only [bind, Except.bind, ht, Session.saved_mapId, hts, pure, Except.pure]
    · intro u hu
      rcases List.mem_cons.mp hu with rfl | hu
      · refine ⟨htinv, ?_⟩
        rw [mapId_of_map htmap, htmap]
        exact hmap
      · exact htsinv u hu

/-- A resumable game's snapshot, restored on a game with the same maps, gives a consistent
game on those maps with the same snapshot. -/
theorem restore_snapshot (hg : g.Resumable) {g₂ : Game} (hmaps : g₂.maps = g.maps) :
    ∃ g₃, g₂.restore g.snapshot = .ok g₃ ∧ g₃.snapshot = g.snapshot ∧ g₃.Inv ∧ g₃.maps = g.maps := by
  obtain ⟨ts, hts, hsaved, htinv⟩ := rebuildAll_saved (g := g₂) g.sessions []
    (fun s hs => ⟨hg.sessions s hs, (findMap_congr hmaps _).trans (hg.onMaps s hs)⟩)
    hg.sessionMaps (by simp)
  have hids : ts.map (·.mapId) = g.sessions.map (·.mapId) := by
    simpa [List.map_map, Function.comp_def] using congrArg (List.map SavedSession.mapId) hsaved
  refine ⟨{ g₂ with sessions := ts, leaderboard := Leaderboard.ofRecords g.leaderboard.records },
    ?_, ?_, ?_, hmaps⟩
  · unfold Game.restore
    simp [Game.snapshot, hts, bind, Except.bind, pure, Except.pure]
  · show (⟨saveVersion, ts.map Session.saved, (Leaderboard.ofRecords g.leaderboard.records).records⟩ :
      SaveData) = ⟨saveVersion, g.sessions.map Session.saved, g.leaderboard.records⟩
    rw [hsaved, Leaderboard.ofRecords_records hg.ranked]
  · exact ⟨hmaps ▸ hg.maps, hids ▸ hg.sessionMaps, fun t ht => (htinv t ht).1⟩

/-! ## Games saved alike answer alike -/

/-- Games whose sessions are saved alike find sessions saved alike on each map. -/
theorem findSession_saved (hsaved : g'.sessions.map Session.saved = g.sessions.map Session.saved)
    (id : String) : (g'.findSession id).map Session.saved = (g.findSession id).map Session.saved := by
  have h := congrArg (List.find? fun x : SavedSession => x.mapId == id) hsaved
  simpa [List.find?_map, Function.comp_def, findSession] using h

theorem join_id_of_findSession {s : Session} (h : g.findSession id = some s) (name : String) :
    (g.join id name).map (·.2) = ((s.join name).map (·.2)).mapError (.session id) := by
  have hadd : g.addSession id = .ok g := by simp [addSession, h]
  unfold Game.join
  simp only [bind, Except.bind, hadd, h]
  cases s.join name <;> rfl

theorem join_id_of_findMap (h : g.findSession id = none) {m : Map} (hm : g.findMap id = some m)
    (name : String) :
    (g.join id name).map (·.2) =
      (((Session.new m g.settings).join name).map (·.2)).mapError (.session id) := by
  have hadd : g.addSession id = .ok { g with sessions := g.sessions ++ [Session.new m g.settings] } := by
    simp [addSession, h, hm]
  -- the fresh session is the one the map's id finds
  have hfind : ({ g with sessions := g.sessions ++ [Session.new m g.settings] } : Game).findSession id =
      some (Session.new m g.settings) := by
    have hid : (Session.new m g.settings).mapId = id := findMap_id hm
    simp only [findSession] at h ⊢
    rw [List.find?_append, h, Option.none_or]
    simp [hid]
  unfold Game.join
  simp only [bind, Except.bind, hadd, hfind]
  cases (Session.new m g.settings).join name <;> rfl

theorem join_of_no_map (h : g.findSession id = none) (hm : g.findMap id = none) (name : String) :
    g.join id name = .error (.mapNotFound id) := by
  simp [Game.join, addSession, h, hm, bind, Except.bind]

/-- Consistent games on the same maps whose sessions are saved alike issue the same id to a
join on any map, or refuse it alike. -/
theorem join_id_eq (hg : g.Inv) (hg' : g'.Inv) (hmaps : g'.maps = g.maps)
    (hsaved : g'.sessions.map Session.saved = g.sessions.map Session.saved) (id name : String) :
    (g'.join id name).map (·.2) = (g.join id name).map (·.2) := by
  have hfind := findSession_saved hsaved id
  cases hs : g.findSession id with
  | some s =>
    rw [hs] at hfind
    obtain ⟨t, ht, hts⟩ := Option.map_eq_some_iff.mp hfind
    rw [join_id_of_findSession hs, join_id_of_findSession ht,
      Session.join_id_of_saved (hg.sessions s (mem_of_findSession hs).1).toSound
        (hg'.sessions t (mem_of_findSession ht).1).toSound hts]
  | none =>
    rw [hs] at hfind
    have ht : g'.findSession id = none := Option.map_eq_none_iff.mp hfind
    cases hm : g.findMap id with
    | some m =>
      rw [join_id_of_findMap hs hm, join_id_of_findMap ht ((findMap_congr hmaps id).trans hm),
        Session.join_id, Session.join_id]
      -- a fresh session has no names and its counter at zero, whatever the settings
      rfl
    | none =>
      rw [join_of_no_map hs hm, join_of_no_map ht ((findMap_congr hmaps id).trans hm)]

/-- Games whose sessions are saved alike show the same dogs and free loot on every map. -/
theorem state_eq (hsaved : g'.sessions.map Session.saved = g.sessions.map Session.saved)
    (id : String) : g'.state id = g.state id := by
  have hfind := findSession_saved hsaved id
  unfold Game.state
  cases hs : g.findSession id with
  | some s =>
    rw [hs] at hfind
    obtain ⟨t, ht, hts⟩ := Option.map_eq_some_iff.mp hfind
    rw [ht, Option.map_some, Option.map_some, Session.state_of_saved hts]
  | none =>
    rw [hs] at hfind
    rw [Option.map_eq_none_iff.mp hfind]

/-- Every reachable game whose numbers fit the widths of the save is brought back by loading
the bytes it saves, on any game with the same maps: the same sessions in the same order, each
with the same dogs, doubles bit for bit, the same free loot and the same counters, and the
same leaderboard in order. So every map shows the same dogs and free loot, and the next join
on any map issues the id it would have issued, or is refused alike. -/
theorem load_save_resumes (hg : Reachable (fun g q => q.Aligned ∧ q.Fresh g) g)
    (hfits : g.snapshot.Fits) {g₂ : Game} (hmaps : g₂.maps = g.maps) :
    ∃ g₃, g₂.load g.save = .ok g₃ ∧ g₃.snapshot = g.snapshot ∧
      (∀ map, g₃.state map = g.state map) ∧
      ∀ map name, (g₃.join map name).map (·.2) = (g.join map name).map (·.2) := by
  have hres := reachable_resumable hg
  obtain ⟨g₃, hrestore, hsnap, hinv, hmaps₃⟩ := restore_snapshot hres hmaps
  have hsaved : g₃.sessions.map Session.saved = g.sessions.map Session.saved :=
    congrArg SaveData.sessions hsnap
  refine ⟨g₃, ?_, hsnap, fun map => state_eq hsaved map,
    fun map name => join_id_eq hres.toInv hinv hmaps₃ hsaved map name⟩
  rw [Game.load, Game.save, SaveData.decode_encode hfits]
  exact hrestore

/-- A game with one dog joined on a one-road map comes back from its own save, on a game
with its maps and no sessions. -/
theorem load_save_resumes_one_dog :
    ∃ g, Reachable (fun g q => q.Aligned ∧ q.Fresh g) g ∧ g.snapshot.Fits ∧
      (g.sessions.map fun s => s.dogs.items.map (·.name)) = [["rex"]] ∧
      ∃ g₃, ((Game.empty g.settings).withMaps g.maps).load g.save = .ok g₃ ∧
        g₃.snapshot = g.snapshot ∧ (∀ map, g₃.state map = g.state map) ∧
        ∀ map name, (g₃.join map name).map (·.2) = (g.join map name).map (·.2) := by
  have h₁ : Reachable (fun g q => q.Aligned ∧ q.Fresh g) _ :=
    .step (.addMap linePlan) (.empty default) ⟨linePlan_aligned, trivial⟩ rfl
  have h₂ : Reachable (fun g q => q.Aligned ∧ q.Fresh g) _ :=
    .step (.join "m" "rex") h₁ ⟨trivial, trivial⟩ rfl
  refine ⟨_, h₂, ?fits, by decide +kernel, load_save_resumes h₂ ?fits rfl⟩
  decide +kernel

end Game

end DogCourier
