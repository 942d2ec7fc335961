import DogCourier.Proofs.Save.Validation
import DogCourier.Proofs.Road.Surface
import DogCourier.Game.Basic

/-! # The checks a configuration must pass

    Reading a configuration document checks it in a fixed order and refuses it at the first
    check that fails. This module writes that order down as a list of checks on the document
    alone, as `Proofs.Save.Checks` does for saved games:

    * the game-wide supply's period, when there is one, then the retirement time, both
      numbers of seconds that must make a duration; then each map in turn: its own supply's
      period, each road by index (exactly one far end), a road at all, a loot kind at all,
      and each office id new beside the ones before it (`ConfigDoc.checks`);
    * `ConfigDoc.Acceptable`: what a document must satisfy, said with `Nodup` and
      membership (`firstFailing_checks_eq_none`);
    * `ConfigDoc.Built`: what a document becomes when it passes: the settings, and each map
      with its own speed and capacity or the game-wide ones, its roads in order along the
      axis of the end they name, and its supply's probability limited to `[0, 1]`;
    * `ConfigDoc.check_answers`: checking answers the first failing check, or a
      configuration built from the document (`MapDoc.check_answers` for one map);
    * `GameConfig.toGame_answers`: a game registers the maps in order, or refuses the first
      map id that repeats an earlier one;
    * `parse_config_checks_in_order`: all of it for every text read as a document. -/

namespace DogCourier

section Repeats

variable {ε : Type}

/-- The checks that each key is new beside `seen` and the keys before it, each refusing with
`err` of the key it finds repeated. -/
def repeatChecks (err : String → ε) : List String → List String → List (Bool × ε)
  | _, [] => []
  | seen, k :: rest => (!seen.contains k, err k) :: repeatChecks err (seen ++ [k]) rest

/-- The first key that repeats one before it is the refusal of the first failing check, for
any list of keys seen with the same members. -/
theorem firstRepeat_eq_firstFailing (err : String → ε) :
    ∀ (l seen seen' : List String), (∀ k, seen.contains k = seen'.contains k) →
      (firstRepeat seen l).map err = firstFailing (repeatChecks err seen' l)
  | [], _, _, _ => rfl
  | k :: rest, seen, seen', hs => by
    rw [firstRepeat, repeatChecks, firstFailing_cons, ← hs k]
    cases hk : seen.contains k
    · -- the key is new: the scan goes on with it among the keys seen
      refine firstRepeat_eq_firstFailing err rest (k :: seen) (seen' ++ [k]) fun j => ?_
      simp only [List.contains_cons, List.contains_append, List.contains_nil, Bool.or_false, hs j]
      exact Bool.or_comm _ _
    · rfl

/-- The checks of a list of keys pass exactly when each is new beside `seen` and the keys
before it. -/
theorem repeatChecks_pass (err : String → ε) :
    ∀ (seen l : List String), (∀ c ∈ repeatChecks err seen l, c.1 = true) ↔ Fresh seen l
  | _, [] => by simp [repeatChecks, Fresh]
  | seen, k :: rest => by
    rw [repeatChecks, List.forall_mem_cons, repeatChecks_pass err (seen ++ [k]) rest, Fresh]
    simp

end Repeats

section Runs

variable {ε α β : Type} {cs : α → List (Bool × ε)} {R : α → β → Prop} {f : α → Except ε β}

/-- A run of steps over a list answers the checks of every item in order, with each item
related to its result. -/
theorem Answers.mapM :
    ∀ {l : List α}, (∀ a ∈ l, Answers (firstFailing (cs a)) (R a) (f a)) →
      Answers (firstFailing (l.flatMap cs)) (List.Forall₂ R l) (l.mapM f)
  | [], _ => ⟨[], rfl, .nil⟩
  | a :: l, h => by
    rw [List.mapM_cons, List.flatMap_cons, firstFailing_append]
    refine (h a List.mem_cons_self).bind fun b hb => ?_
    exact (Answers.mapM fun a' ha' => h a' (List.mem_cons_of_mem _ ha')).bind_pure
      fun bs hbs => .cons hb hbs

end Runs

/-! ## Seconds, supplies and roads -/

/-- The check of a number of seconds named `field`: it makes a duration. -/
def secondsCheck (field : String) (v : Float) : Bool × ConfigError :=
  ((Duration.ofSeconds? v).isSome, .invalidDuration field v)

theorem secondsAs_answers (field : String) (v : Float) :
    Answers (firstFailing [secondsCheck field v]) (fun t => Duration.ofSeconds? v = some t)
      (secondsAs field v) := by
  unfold secondsAs secondsCheck
  cases h : Duration.ofSeconds? v with
  | none => rfl
  | some t => exact ⟨t, rfl, rfl⟩

namespace SupplyDoc

/-- The checks of a written supply: its period makes a duration. -/
def checks (g : SupplyDoc) : List (Bool × ConfigError) := [secondsCheck "lootGeneratorConfig.period" g.period]

/-- A written supply is accepted when its period makes a duration. -/
def Acceptable (g : SupplyDoc) : Prop := (Duration.ofSeconds? g.period).isSome

/-- The supply checked from `g`: its period is `g`'s as a duration, and its probability is
`g`'s limited to `[0, 1]`. -/
structure Built (g : SupplyDoc) (c : SupplyConfig) : Prop where
  period : Duration.ofSeconds? g.period = some c.period
  probability : c.probability = clampUnit g.probability

theorem check_answers (g : SupplyDoc) : Answers (firstFailing g.checks) g.Built g.check :=
  (secondsAs_answers _ g.period).bind_pure fun _ ht => ⟨ht, rfl⟩

theorem checks_pass (g : SupplyDoc) : (∀ c ∈ g.checks, c.1 = true) ↔ g.Acceptable := by
  simp [checks, secondsCheck, Acceptable]

/-- A checked supply's probability is a number in `[0, 1]`, unless the written one was a NaN. -/
theorem Built.probability_unit {g : SupplyDoc} {c : SupplyConfig} (h : g.Built c)
    (hg : g.probability.toModel.unpack ≠ .notANumber) :
    ∃ p, exactValue c.probability = some p ∧ 0 ≤ p ∧ p ≤ 1 := by
  rw [h.probability]
  exact exactValue_clampUnit hg

end SupplyDoc

/-- The checks of an optional supply: none when it is absent. -/
def supplyChecks (g : Option SupplyDoc) : List (Bool × ConfigError) := (g.map SupplyDoc.checks).getD []

theorem supplyChecks_pass : ∀ g : Option SupplyDoc,
    (∀ c ∈ supplyChecks g, c.1 = true) ↔ ∀ s ∈ g, s.Acceptable
  | none => by simp [supplyChecks]
  | some g => by
    simp only [supplyChecks, Option.map_some, Option.getD_some, Option.mem_def, Option.some.injEq,
      forall_eq']
    exact g.checks_pass

namespace RoadDoc

/-- A written road names exactly one far end. -/
def oneEnd (r : RoadDoc) : Bool := r.x1.isSome != r.y1.isSome

/-- The road `r` describes: from its start along the x axis to the column it names, or along
the y axis to the row it names. -/
def Built (r : RoadDoc) (road : Road) : Prop :=
  (∀ x, r.x1 = some x → road = Road.horizontal ⟨r.x0, r.y0⟩ x) ∧
    (∀ y, r.y1 = some y → road = Road.vertical ⟨r.x0, r.y0⟩ y)

theorem check_answers (map : String) (i : Nat) (r : RoadDoc) :
    Answers (firstFailing [(r.oneEnd, .invalidRoad map i)]) r.Built (r.check map i) := by
  obtain ⟨x0, y0, x1, y1⟩ := r
  -- one case per pair of written ends
  cases x1 <;> cases y1 <;> simp [check, oneEnd, Built, Answers]

end RoadDoc

/-! ## Maps -/

/-- The plan a written map is built from, with the game-wide `speed` and `capacity` as its
defaults and the checked roads and supply. -/
def MapDoc.plan (m : MapDoc) (speed : Float) (capacity : Nat) (roads : List Road)
    (supply : Option SupplyConfig) : MapPlan :=
  { id := m.id, name := m.name, roads := roads, buildings := m.buildings
    offices := m.offices.map fun o => { id := o.id, position := ⟨o.x, o.y⟩, dx := o.offsetX, dy := o.offsetY }
    lootKinds := m.lootKinds, dogSpeed := m.dogSpeed.getD speed
    bagCapacity := m.bagCapacity.getD capacity, supply := supply }

/-- The checks of building a map from a plan, in order: a road, a loot kind, and each office
id new beside the ones before it. -/
def MapPlan.checks (p : MapPlan) : List (Bool × MapError) :=
  [(!p.roads.isEmpty, .noRoads p.id), (!p.lootKinds.isEmpty, .noLootTypes p.id)] ++
    repeatChecks (.duplicateOffice p.id) [] (p.offices.map (·.id))

theorem MapPlan.build_answers (p : MapPlan) :
    Answers (firstFailing p.checks) (fun map => map =
      { id := p.id, name := p.name, roads := ⟨p.roads.toArray, roadHalfWidth⟩, buildings := p.buildings
        offices := p.offices, lootKinds := p.lootKinds, dogSpeed := p.dogSpeed
        bagCapacity := p.bagCapacity, supply := p.supply }) p.build := by
  rw [checks, firstFailing_append, ← firstRepeat_eq_firstFailing _ _ [] [] fun _ => rfl]
  unfold build
  cases p.roads.isEmpty
  · cases p.lootKinds.isEmpty
    · cases firstRepeat [] (p.offices.map (·.id)) with
      | none => exact ⟨_, rfl, rfl⟩
      | some o => rfl
    · rfl
  · rfl

theorem repeatChecks_map {ε ε' : Type} (err : String → ε) (g : ε → ε') :
    ∀ (seen l : List String),
      (repeatChecks err seen l).map (fun c => (c.1, g c.2)) = repeatChecks (fun k => g (err k)) seen l
  | _, [] => rfl
  | seen, k :: rest => by
    rw [repeatChecks, repeatChecks, List.map_cons, repeatChecks_map err g (seen ++ [k]) rest]

namespace MapDoc

/-- The checks of a written map's roads, by index: each names exactly one far end. -/
def roadChecks (m : MapDoc) : List (Bool × ConfigError) :=
  m.roads.zipIdx.flatMap fun p => [(p.1.oneEnd, .invalidRoad m.id p.2)]

/-- The checks of building a written map, in order: a road, a loot kind, and each office id
new beside the ones before it. -/
def buildChecks (m : MapDoc) : List (Bool × ConfigError) :=
  [(!m.roads.isEmpty, .map (.noRoads m.id)), (!m.lootKinds.isEmpty, .map (.noLootTypes m.id))] ++
    repeatChecks (fun o => .map (.duplicateOffice m.id o)) [] (m.offices.map (·.id))

/-- The checks of a written map, in order: its supply's period, its roads, then building it. -/
def checks (m : MapDoc) : List (Bool × ConfigError) :=
  supplyChecks m.supply ++ (m.roadChecks ++ m.buildChecks)

/-- A written map is accepted: its supply's period makes a duration, each road names exactly one
far end, it has a road and a loot kind, and no two offices share an id. -/
structure Acceptable (m : MapDoc) : Prop where
  supply : ∀ g ∈ m.supply, g.Acceptable
  roads : ∀ r ∈ m.roads, r.x1.isSome ≠ r.y1.isSome
  hasRoad : m.roads ≠ []
  hasLootKind : m.lootKinds ≠ []
  offices : (m.offices.map (·.id)).Nodup

/-- The map built from `m` with the game-wide `speed` and `capacity`: its own id and name, its
speed and capacity or the game-wide ones, its roads in order, each along the axis of the end it
names and widened by the road half-width, its buildings, offices and loot kinds as written, and
its own supply if it has one. -/
structure Built (speed : Float) (capacity : Nat) (m : MapDoc) (map : Map) : Prop where
  id : map.id = m.id
  name : map.name = m.name
  dogSpeed : map.dogSpeed = m.dogSpeed.getD speed
  bagCapacity : map.bagCapacity = m.bagCapacity.getD capacity
  roads : List.Forall₂ RoadDoc.Built m.roads map.roads.roads.toList
  offset : map.roads.offset = roadHalfWidth
  buildings : map.buildings = m.buildings
  offices : map.offices = m.offices.map fun o =>
    { id := o.id, position := ⟨o.x, o.y⟩, dx := o.offsetX, dy := o.offsetY }
  lootKinds : map.lootKinds = m.lootKinds
  supply : Option.Rel SupplyDoc.Built m.supply map.supply

variable (speed : Float) (capacity : Nat) (m : MapDoc)

theorem supply_answers :
    Answers (firstFailing (supplyChecks m.supply)) (Option.Rel SupplyDoc.Built m.supply)
      (m.supply.mapM SupplyDoc.check) := by
  cases m.supply with
  | none => exact ⟨none, rfl, .none⟩
  | some g => exact g.check_answers.bind_pure fun c hc => .some hc

theorem roads_answers :
    Answers (firstFailing m.roadChecks) (List.Forall₂ RoadDoc.Built m.roads)
      (m.roads.zipIdx.mapM fun p => p.1.check m.id p.2) := by
  refine (Answers.mapM fun p _ => RoadDoc.check_answers m.id p.2 p.1).imp fun roads h => ?_
  -- the indexes drop out: the roads are related to the written ones in order
  have h' := List.forall₂_map_left_iff.mpr h
  rwa [List.zipIdx_map_fst] at h'

/-- Building reads of the checked roads only how many there are. -/
theorem buildChecks_eq {roads : List Road} (hlen : roads.length = m.roads.length)
    (supply : Option SupplyConfig) :
    (m.plan speed capacity roads supply).checks.map (fun c => (c.1, ConfigError.map c.2)) = m.buildChecks := by
  have hempty : roads.isEmpty = m.roads.isEmpty := by
    rw [Bool.eq_iff_iff, List.isEmpty_iff_length_eq_zero, List.isEmpty_iff_length_eq_zero, hlen]
  simp only [MapPlan.checks, plan, buildChecks, List.map_append, repeatChecks_map, List.map_map, hempty]
  rfl

theorem roadChecks_pass : (∀ c ∈ m.roadChecks, c.1 = true) ↔ ∀ r ∈ m.roads, r.x1.isSome ≠ r.y1.isSome := by
  -- a road's check does not read its index
  have h : (∀ c ∈ m.roadChecks, c.1 = true) ↔ ∀ r ∈ m.roads.zipIdx.map Prod.fst, r.oneEnd = true := by
    simp only [roadChecks, List.forall_mem_flatMap, List.forall_mem_singleton, List.forall_mem_map]
  rw [h, List.zipIdx_map_fst]
  simp [RoadDoc.oneEnd]

theorem buildChecks_pass : (∀ c ∈ m.buildChecks, c.1 = true) ↔
    m.roads ≠ [] ∧ m.lootKinds ≠ [] ∧ (m.offices.map (·.id)).Nodup := by
  rw [buildChecks, List.forall_mem_append, repeatChecks_pass, fresh_nil_iff]
  simp [and_assoc]

theorem checks_pass : (∀ c ∈ m.checks, c.1 = true) ↔ m.Acceptable := by
  rw [checks, List.forall_mem_append, List.forall_mem_append, supplyChecks_pass, roadChecks_pass,
    buildChecks_pass]
  constructor
  · rintro ⟨hs, hr, hroad, hloot, hoff⟩
    exact ⟨hs, hr, hroad, hloot, hoff⟩
  · rintro ⟨hs, hr, hroad, hloot, hoff⟩
    exact ⟨hs, hr, hroad, hloot, hoff⟩

/-- Checking a written map: its supply, then its roads, then building it from the plan. -/
theorem check_eq : m.check speed capacity =
    m.supply.mapM SupplyDoc.check >>= fun supply =>
      (m.roads.zipIdx.mapM fun p => p.1.check m.id p.2) >>= fun roads =>
        ((m.plan speed capacity roads supply).build).mapError ConfigError.map := by
  unfold check
  -- the supply's match is a join point of the do block; past it, the steps are the same
  cases m.supply <;>
  · refine congrArg (_ >>= ·) (funext fun supply => congrArg (_ >>= ·) (funext fun roads => ?_))
    dsimp only [plan]
    cases MapPlan.build _ <;> rfl

/-- Checking a written map answers its first failing check, or the map built from it. -/
theorem check_answers : Answers (firstFailing m.checks) (m.Built speed capacity) (m.check speed capacity) := by
  rw [check_eq, checks, firstFailing_append, firstFailing_append]
  refine (supply_answers m).bind fun supply hsupply => (roads_answers m).bind fun roads hroads => ?_
  rw [← buildChecks_eq speed capacity m hroads.length_eq.symm supply, firstFailing_map]
  refine ((MapPlan.build_answers _).mapError ConfigError.map).imp fun map hmap => ?_
  subst hmap
  exact ⟨rfl, rfl, rfl, rfl, hroads, rfl, rfl, rfl, rfl, hsupply⟩

end MapDoc

/-! ## Configurations -/

namespace ConfigDoc

/-- The checks of a written configuration, in order: the game-wide supply's period, the
retirement time, then each map's checks in turn. -/
def checks (d : ConfigDoc) : List (Bool × ConfigError) :=
  supplyChecks d.supply ++ ([secondsCheck "dogRetirementTime" d.retirementTime] ++ d.maps.flatMap MapDoc.checks)

/-- A written configuration is accepted: its supply's period and its retirement time make
durations, and every map is accepted. -/
structure Acceptable (d : ConfigDoc) : Prop where
  supply : ∀ g ∈ d.supply, g.Acceptable
  retirementTime : (Duration.ofSeconds? d.retirementTime).isSome
  maps : ∀ m ∈ d.maps, m.Acceptable

/-- The configuration built from `d`: the written supply, or the default one; the retirement
time as a duration; no random spawning and no seed; and each map built in order, with the
written speed and capacity as its defaults. -/
structure Built (d : ConfigDoc) (c : GameConfig) : Prop where
  supply : d.supply.elim (c.settings.supply = SupplyConfig.default) fun g => g.Built c.settings.supply
  retirementTime : Duration.ofSeconds? d.retirementTime = some c.settings.retirementTime
  randomizeSpawn : c.settings.randomizeSpawn = false
  seed : c.settings.seed = none
  maps : List.Forall₂ (MapDoc.Built d.dogSpeed d.bagCapacity) d.maps c.maps

variable (d : ConfigDoc)

theorem checks_pass : (∀ c ∈ d.checks, c.1 = true) ↔ d.Acceptable := by
  rw [checks, List.forall_mem_append, List.forall_mem_append, supplyChecks_pass,
    List.forall_mem_singleton, List.forall_mem_flatMap]
  simp only [secondsCheck, MapDoc.checks_pass]
  constructor
  · rintro ⟨hs, hr, hmaps⟩
    exact ⟨hs, hr, hmaps⟩
  · rintro ⟨hs, hr, hmaps⟩
    exact ⟨hs, hr, hmaps⟩

/-- No check of a written configuration fails exactly when it is accepted. -/
theorem firstFailing_checks_eq_none : firstFailing d.checks = none ↔ d.Acceptable := by
  rw [firstFailing_eq_none, checks_pass]

/-- Checking a written configuration: its supply, its retirement time, then its maps. -/
theorem check_eq : d.check =
    d.supply.elim (pure SupplyConfig.default) SupplyDoc.check >>= fun supply =>
      secondsAs "dogRetirementTime" d.retirementTime >>= fun retire =>
        d.maps.mapM (MapDoc.check d.dogSpeed d.bagCapacity) >>= fun maps =>
          pure ⟨{ supply := supply, retirementTime := retire }, maps⟩ := by
  unfold check
  cases d.supply <;> rfl

theorem supply_answers :
    Answers (firstFailing (supplyChecks d.supply))
      (fun c => d.supply.elim (c = SupplyConfig.default) fun g => g.Built c)
      (d.supply.elim (pure SupplyConfig.default) SupplyDoc.check) := by
  cases d.supply with
  | none => exact ⟨_, rfl, rfl⟩
  | some g => exact g.check_answers

/-- Checking a written configuration answers its first failing check, or the configuration
built from it. -/
theorem check_answers : Answers (firstFailing d.checks) d.Built d.check := by
  rw [check_eq, checks, firstFailing_append, firstFailing_append]
  refine (supply_answers d).bind fun supply hsupply =>
    (secondsAs_answers _ _).bind fun retire hretire => ?_
  refine (Answers.mapM fun m _ => MapDoc.check_answers d.dogSpeed d.bagCapacity m).bind_pure
    fun maps hmaps => ?_
  exact ⟨hsupply, hretire, rfl, rfl, hmaps⟩

end ConfigDoc

/-- A text read as a document is checked as that document. -/
theorem GameConfig.parse_eq_check {text : String} {d : ConfigDoc} (hd : ConfigDoc.parse text = .ok d) :
    GameConfig.parse text = d.check := by
  unfold GameConfig.parse
  rw [hd]

/-- A game registers the maps of a configuration in order, or refuses the first map id that
repeats an earlier one. -/
theorem GameConfig.toGame_answers (c : GameConfig) :
    Answers (firstFailing (repeatChecks ConfigError.duplicateMap [] (c.maps.map (·.id))))
      (· = (Game.empty c.settings).withMaps c.maps) c.toGame := by
  rw [← firstRepeat_eq_firstFailing _ _ [] [] fun _ => rfl]
  unfold GameConfig.toGame
  cases firstRepeat [] (c.maps.map (·.id)) with
  | none => exact ⟨_, rfl, rfl⟩
  | some k => rfl

/-- Reading a configuration text that makes a document: the text is accepted exactly when the
document is; it is refused with the first check that fails, in the order of `ConfigDoc.checks`,
or else gives the configuration built from the document; and a game made from the
configuration registers its maps in order, or refuses the first map id that repeats. -/
theorem parse_config_checks_in_order {text : String} {d : ConfigDoc} (hd : ConfigDoc.parse text = .ok d) :
    ((∃ c, GameConfig.parse text = .ok c) ↔ d.Acceptable) ∧
      Answers (firstFailing d.checks) d.Built (GameConfig.parse text) ∧
      ∀ c, GameConfig.parse text = .ok c →
        Answers (firstFailing (repeatChecks ConfigError.duplicateMap [] (c.maps.map (·.id))))
          (· = (Game.empty c.settings).withMaps c.maps) c.toGame := by
  have hcheck : Answers (firstFailing d.checks) d.Built (GameConfig.parse text) := by
    rw [GameConfig.parse_eq_check hd]
    exact d.check_answers
  refine ⟨?_, hcheck, fun c _ => c.toGame_answers⟩
  rw [hcheck.ok_iff, d.firstFailing_checks_eq_none]

/-- A configuration of one map with one road along the x axis and one loot kind reads as a
document, and so is checked in order. -/
theorem parse_config_one_town :
    let text := "\x7b\"maps\":[\x7b\"id\":\"town\",\"name\":\"Town\",\"roads\":[\x7b\"x0\":0,\"y0\":0,\"x1\":10\x7d],\"lootTypes\":[\x7b\"value\":1\x7d]\x7d]\x7d"
    ∃ d, ConfigDoc.parse text = .ok d ∧
      ((∃ c, GameConfig.parse text = .ok c) ↔ d.Acceptable) ∧
      Answers (firstFailing d.checks) d.Built (GameConfig.parse text) ∧
      ∀ c, GameConfig.parse text = .ok c →
        Answers (firstFailing (repeatChecks ConfigError.duplicateMap [] (c.maps.map (·.id))))
          (· = (Game.empty c.settings).withMaps c.maps) c.toGame := by
  intro text
  cases hd : ConfigDoc.parse text with
  | error e =>
    have hok : (ConfigDoc.parse text).isOk = true := by decide +kernel
    simp [hd, Except.isOk, Except.toBool] at hok
  | ok d => exact ⟨d, rfl, parse_config_checks_in_order hd⟩

end DogCourier
