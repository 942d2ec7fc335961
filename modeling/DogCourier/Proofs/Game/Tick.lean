import DogCourier.Game.Run
import DogCourier.Proofs.MapM
import DogCourier.Proofs.Leaderboard.Rank
import DogCourier.Proofs.Session.Refusal

/-! # A game tick is every session's own tick

    `Game.tick` runs each session's tick on that session alone, adds to the leaderboard
    the records of the sessions whose tick succeeded, and then tells every saver once,
    in order, about the game as the sessions left it. Its answer is the first refusal
    of a session, else the first failed write.

    * `tickSessions_eq`, `notifyTick_eq`: the two loops of a tick as `List.mapM` over
      the sessions and over the savers.
    * `tick_eq`: the whole tick as one equation over those two runs, and from it what a
      tick that does not halt leaves (`tick_eq_ok`) and when a tick halts (`tick_isOk`).
    * `tick_perm_sessions`: since no session's result depends on another's, ticking the
      sessions in another order only reorders the ticked sessions, and on a ranked
      board leaves the leaderboard as it was; either both orders halt or neither. -/

namespace DogCourier

namespace Game

/-- The records a session's tick adds to the leaderboard: those of the dogs it retired,
or none when the session refused the tick. -/
def retiredBy : Except SessionError Session.TickReport → List Record
  | .ok report => report.retired
  | .error _ => []

/-- The first refusal among ticked sessions, named by its map. -/
def firstRefusal : List (Session × Except SessionError Session.TickReport) → Option GameError
  | [] => none
  | (s, .error e) :: _ => some (.session s.mapId e)
  | (_, .ok _) :: rest => firstRefusal rest

/-- The state file after the savers' writes: the last bytes written, else as it was. -/
def lastWrite : List (Saver × Option (Except String ByteArray)) → Option ByteArray → Option ByteArray
  | [], file => file
  | (_, some (.ok b)) :: rest, _ => lastWrite rest (some b)
  | _ :: rest, file => lastWrite rest file

/-- The first failed write among the savers' outcomes. -/
def firstFailure : List (Saver × Option (Except String ByteArray)) → Option String
  | [] => none
  | (_, some (.error e)) :: _ => some e
  | _ :: rest => firstFailure rest

theorem tickSessions_eq (dt : Duration) :
    ∀ (ss : List Session) (lb : Leaderboard) (err : Option GameError),
      tickSessions dt ss lb err = (ss.mapM fun s : Session => s.tick dt).map fun results =>
        (results.map (·.1), lb.extend (results.flatMap fun r => retiredBy r.2),
          err <|> firstRefusal results)
  | [], lb, err => by
    cases err <;> simp [tickSessions, firstRefusal, Leaderboard.extend, pure, Except.pure, Except.map]
  | s :: rest, lb, err => by
    simp only [tickSessions, List.mapM_cons]
    cases hs : s.tick dt with
    | error h => rfl
    | ok p =>
      obtain ⟨s', result⟩ := p
      cases result with
      | ok report =>
        simp only [bind, Except.bind, tickSessions_eq dt rest]
        cases rest.mapM fun s : Session => s.tick dt <;>
          simp [Except.map, pure, Except.pure, retiredBy, firstRefusal, Leaderboard.extend_append]
      | error e =>
        simp only [bind, Except.bind, tickSessions_eq dt rest]
        cases rest.mapM fun s : Session => s.tick dt <;> cases err <;>
          simp [Except.map, pure, Except.pure, retiredBy, firstRefusal]

theorem notifyTick_eq (disk : ByteArray → Option String) (bytes : ByteArray) (dt : Duration) :
    ∀ (svs : List Saver) (file : Option ByteArray),
      notifyTick disk bytes dt svs file = (svs.mapM (Saver.onTick disk bytes dt)).map fun outs =>
        (outs.map (·.1), lastWrite outs file, firstFailure outs)
  | [], file => rfl
  | sv :: rest, file => by
    simp only [notifyTick, List.mapM_cons]
    cases hsv : Saver.onTick disk bytes dt sv with
    | error h => rfl
    | ok p =>
      obtain ⟨sv', out⟩ := p
      simp only [bind, Except.bind]
      rcases out with _ | _ | b <;>
        simp only [notifyTick_eq disk bytes dt rest] <;>
        cases rest.mapM (Saver.onTick disk bytes dt) <;>
        simp [Except.map, pure, Except.pure, lastWrite, firstFailure]

/-- Whether a saver's tick halts depends neither on the bytes to write nor on the disk. -/
theorem Saver.onTick_isOk (disk disk' : ByteArray → Option String) (bytes bytes' : ByteArray)
    (dt : Duration) (sv : Saver) :
    (Saver.onTick disk bytes dt sv).isOk = (Saver.onTick disk' bytes' dt sv).isOk := by
  unfold Saver.onTick
  by_cases hz : sv.period.isZero
  · simp [hz, pure, Except.pure]
  · cases hadd : sv.sinceSave.add dt with
    | error h => simp [hz, bind, Except.bind]
    | ok since =>
      -- whether it writes, and whatever the disk answers, the saver comes back
      by_cases hp : since ≥ sv.period <;> cases disk bytes <;> cases disk' bytes' <;>
        simp [hz, hp, bind, Except.bind, pure, Except.pure, Except.isOk, Except.toBool]

/-- The game after its sessions ticked: each session replaced by its own tick's result,
and the leaderboard extended by the records of those whose tick succeeded. -/
def advanced (g : Game) (results : List (Session × Except SessionError Session.TickReport)) : Game :=
  { g with
    sessions := results.map (·.1)
    leaderboard := g.leaderboard.extend (results.flatMap fun r => retiredBy r.2) }

/-- The answer of a tick: the first refusal of a session, else the first failed write. -/
def answer (results : List (Session × Except SessionError Session.TickReport))
    (outs : List (Saver × Option (Except String ByteArray))) : Except GameError Unit :=
  match firstRefusal results <|> (firstFailure outs).map .observer with
  | some e => .error e
  | none => .ok ()

/-- A refused session adds no records: a tick adds the records of the sessions whose tick
succeeded. -/
theorem flatMap_retiredBy :
    ∀ results : List (Session × Except SessionError Session.TickReport),
      results.flatMap (fun r => retiredBy r.2) = (results.filterMap (·.2.toOption)).flatMap (·.retired)
  | [] => rfl
  | (_, .error _) :: rest => by
    rw [List.flatMap_cons, List.filterMap_cons]
    exact flatMap_retiredBy rest
  | (_, .ok report) :: rest => by
    rw [List.flatMap_cons, List.filterMap_cons]
    exact congrArg (report.retired ++ ·) (flatMap_retiredBy rest)

section Answer

variable {results pre rest : List (Session × Except SessionError Session.TickReport)}
  {outs before after : List (Saver × Option (Except String ByteArray))}

/-- The first refusal is that of the first session that refused. -/
theorem firstRefusal_of_refused {s : Session} {e : SessionError} (hpre : ∀ x ∈ pre, x.2.isOk = true) :
    firstRefusal (pre ++ (s, .error e) :: rest) = some (.session s.mapId e) := by
  induction pre with
  | nil => rfl
  | cons x pre ih =>
    obtain ⟨t, _ | report⟩ := x
    · simp [Except.isOk, Except.toBool] at hpre
    · exact ih fun y hy => hpre y (List.mem_cons_of_mem _ hy)

theorem firstRefusal_of_isOk (h : ∀ x ∈ results, x.2.isOk = true) : firstRefusal results = none := by
  induction results with
  | nil => rfl
  | cons x rest ih =>
    obtain ⟨t, _ | report⟩ := x
    · simp [Except.isOk, Except.toBool] at h
    · exact ih fun y hy => h y (List.mem_cons_of_mem _ hy)

/-- The first failure is that of the first saver whose write failed. -/
theorem firstFailure_of_failed {sv : Saver} {msg : String}
    (hpre : ∀ o ∈ before, ∀ m, o.2 ≠ some (.error m)) :
    firstFailure (before ++ (sv, some (.error msg)) :: after) = some msg := by
  induction before with
  | nil => rfl
  | cons o before ih =>
    obtain ⟨t, _ | m | _⟩ := o
    · exact ih fun y hy => hpre y (List.mem_cons_of_mem _ hy)
    · exact absurd rfl (hpre _ List.mem_cons_self m)
    · exact ih fun y hy => hpre y (List.mem_cons_of_mem _ hy)

theorem firstFailure_of_none (h : ∀ o ∈ outs, ∀ m, o.2 ≠ some (.error m)) : firstFailure outs = none := by
  induction outs with
  | nil => rfl
  | cons o rest ih =>
    obtain ⟨t, _ | m | _⟩ := o
    · exact ih fun y hy => h y (List.mem_cons_of_mem _ hy)
    · exact absurd rfl (h _ List.mem_cons_self m)
    · exact ih fun y hy => h y (List.mem_cons_of_mem _ hy)

/-- A tick that a session refused answers with the first refusal, named by its map,
whatever the savers did. -/
theorem answer_of_refused {s : Session} {e : SessionError} (hpre : ∀ x ∈ pre, x.2.isOk = true)
    (outs : List (Saver × Option (Except String ByteArray))) :
    answer (pre ++ (s, .error e) :: rest) outs = .error (.session s.mapId e) := by
  rw [answer, firstRefusal_of_refused hpre]
  rfl

/-- When every session ticked, a tick answers with the first failed write. -/
theorem answer_of_failed {sv : Saver} {msg : String} (hres : ∀ x ∈ results, x.2.isOk = true)
    (hpre : ∀ o ∈ before, ∀ m, o.2 ≠ some (.error m)) :
    answer results (before ++ (sv, some (.error msg)) :: after) = .error (.observer msg) := by
  rw [answer, firstRefusal_of_isOk hres, firstFailure_of_failed hpre]
  rfl

/-- When every session ticked and every write went through, a tick answers `ok`. -/
theorem answer_of_isOk (hres : ∀ x ∈ results, x.2.isOk = true)
    (houts : ∀ o ∈ outs, ∀ m, o.2 ≠ some (.error m)) : answer results outs = .ok () := by
  rw [answer, firstRefusal_of_isOk hres, firstFailure_of_none houts]
  rfl

end Answer

/-- A game tick: every session ticks on its own, the savers are each told once, in order,
about the advanced game, and the answer is the first refusal, else the first failed write. -/
theorem tick_eq (g : Game) (dt : Duration) :
    g.tick dt = (g.sessions.mapM fun s : Session => s.tick dt).bind fun results =>
      (g.savers.mapM (Saver.onTick g.disk (g.advanced results).save dt)).map fun outs =>
        ({ g.advanced results with savers := outs.map (·.1), stateFile := lastWrite outs g.stateFile },
          answer results outs) := by
  simp only [tick, tickSessions_eq]
  cases g.sessions.mapM fun s : Session => s.tick dt with
  | error h => rfl
  | ok results =>
    simp only [Except.map, bind, Except.bind, notifyTick_eq]
    -- the tick builds the advanced game field by field
    rw [← advanced]
    cases g.savers.mapM (Saver.onTick g.disk (g.advanced results).save dt) <;> rfl

/-- A tick that does not halt told every saver once, in order, about the advanced game, kept
the savers as they came back, and answered from the sessions' results and the savers'
outcomes. -/
theorem tick_eq_ok_answer {g g' : Game} {dt : Duration} {r : Except GameError Unit}
    (h : g.tick dt = .ok (g', r)) :
    ∃ results outs, g.sessions.mapM (fun s : Session => s.tick dt) = .ok results ∧
      g.savers.mapM (Saver.onTick g.disk (g.advanced results).save dt) = .ok outs ∧
      g'.sessions = results.map (·.1) ∧ g'.maps = g.maps ∧
      g'.leaderboard = g.leaderboard.extend (results.flatMap fun r => retiredBy r.2) ∧
      g'.savers = outs.map (·.1) ∧ r = answer results outs := by
  rw [tick_eq] at h
  cases hres : g.sessions.mapM (fun s : Session => s.tick dt) with
  | error e =>
    rw [hres] at h
    cases h
  | ok results =>
    rw [hres] at h
    cases hout : g.savers.mapM (Saver.onTick g.disk (g.advanced results).save dt) with
    | error e => simp only [hout, Except.bind, Except.map, reduceCtorEq] at h
    | ok outs =>
      simp only [hout, Except.bind, Except.map, Except.ok.injEq, Prod.mk.injEq] at h
      obtain ⟨rfl, rfl⟩ := h
      exact ⟨results, outs, rfl, hout, rfl, rfl, rfl, rfl, rfl⟩

/-- A tick that does not halt replaces each session by its own tick's result and extends the
leaderboard by the records of the sessions that finished; the maps stay. -/
theorem tick_eq_ok {g g' : Game} {dt : Duration} {r : Except GameError Unit}
    (h : g.tick dt = .ok (g', r)) :
    ∃ results, g.sessions.mapM (fun s : Session => s.tick dt) = .ok results ∧
      g'.sessions = results.map (·.1) ∧ g'.maps = g.maps ∧
      g'.leaderboard = g.leaderboard.extend (results.flatMap fun r => retiredBy r.2) := by
  obtain ⟨results, -, hres, -, hsessions, hmaps, hboard, -⟩ := tick_eq_ok_answer h
  exact ⟨results, hres, hsessions, hmaps, hboard⟩

/-- A game tick halts exactly when a session's tick or a saver's tick halts, whatever the
savers would write. -/
theorem tick_isOk (g : Game) (dt : Duration) (bytes : ByteArray) :
    (g.tick dt).isOk = ((g.sessions.all fun s => (s.tick dt).isOk) &&
      g.savers.all fun sv => (Saver.onTick g.disk bytes dt sv).isOk) := by
  rw [tick_eq, ← mapM_isOk, ← mapM_isOk]
  cases g.sessions.mapM fun s : Session => s.tick dt with
  | error e => rfl
  | ok results =>
    -- whether the savers halt does not depend on the game they are shown
    have hsv : (g.savers.mapM (Saver.onTick g.disk (g.advanced results).save dt)).isOk =
        (g.savers.mapM (Saver.onTick g.disk bytes dt)).isOk := by
      rw [mapM_isOk, mapM_isOk]
      congr 1
      funext sv
      exact Saver.onTick_isOk _ _ _ _ dt sv
    rw [← hsv]
    simp only [Except.bind]
    cases g.savers.mapM (Saver.onTick g.disk (g.advanced results).save dt) <;> rfl

/-- Advancing by permuted results gives the sessions permuted the same way and, on a ranked
board, the same leaderboard. -/
theorem advanced_perm (g : Game) (σ : List Session) (hlb : g.leaderboard.Ranked)
    {results results' : List (Session × Except SessionError Session.TickReport)}
    (hp : results'.Perm results) :
    ({ g with sessions := σ }.advanced results').sessions.Perm (g.advanced results).sessions ∧
      ({ g with sessions := σ }.advanced results').leaderboard = (g.advanced results).leaderboard :=
  ⟨hp.map _, Leaderboard.extend_eq_of_perm hlb (hp.flatMap_right _)⟩

/-- Ticking the sessions in another order: both orders halt or neither, and when both
finish they hold the same sessions, in some order, and the same leaderboard. -/
theorem tick_perm_sessions (g : Game) (dt : Duration) (hlb : g.leaderboard.Ranked)
    {σ : List Session} (hσ : σ.Perm g.sessions) :
    (g.tick dt).isOk = ({ g with sessions := σ }.tick dt).isOk ∧
      ∀ g₁ r₁ g₂ r₂, g.tick dt = .ok (g₁, r₁) → { g with sessions := σ }.tick dt = .ok (g₂, r₂) →
        g₂.sessions.Perm g₁.sessions ∧ g₂.leaderboard = g₁.leaderboard := by
  refine ⟨?_, fun g₁ r₁ g₂ r₂ h₁ h₂ => ?_⟩
  · -- which sessions halt does not depend on their order
    rw [tick_isOk g dt ByteArray.empty, tick_isOk _ dt ByteArray.empty, hσ.all_eq]
  · obtain ⟨results, hres, hs₁, -, hlb₁⟩ := tick_eq_ok h₁
    obtain ⟨results₂, hres₂, hs₂, -, hlb₂⟩ := tick_eq_ok h₂
    -- the permuted sessions tick to the permuted results
    obtain ⟨results', hres', hp⟩ := mapM_perm _ hσ.symm hres
    obtain rfl : results₂ = results' := Except.ok.inj (hres₂.symm.trans hres')
    obtain ⟨hsessions, hboard⟩ := advanced_perm g σ hlb hp
    rw [hs₁, hs₂, hlb₁, hlb₂]
    exact ⟨hsessions, hboard⟩

/-- A game tick is every session's own tick, each on that session alone. A tick that does
not halt replaces each session by its own tick's result, adds to the leaderboard the records
of the sessions whose tick succeeded, tells every saver once, in order, about the game the
sessions left, keeps the savers in their order, and answers the first refusal, named by its
map, else the first failed write, else `ok`. So, on a ranked board, the order of the sessions
changes neither whether the tick halts nor the ticked sessions, up to that order, nor the
leaderboard. -/
theorem tick_sessions_independent (g : Game) (dt : Duration) (hlb : g.leaderboard.Ranked) :
    (∀ g' r, g.tick dt = .ok (g', r) →
      ∃ (results : List (Session × Except SessionError Session.TickReport))
        (outs : List (Saver × Option (Except String ByteArray))),
        List.Forall₂ (fun s res => s.tick dt = .ok res) g.sessions results ∧
        g'.sessions = results.map (·.1) ∧
        g'.leaderboard = g.leaderboard.extend ((results.filterMap (·.2.toOption)).flatMap (·.retired)) ∧
        List.Forall₂ (fun sv out => Saver.onTick g.disk
            { g with sessions := g'.sessions, leaderboard := g'.leaderboard }.save dt sv = .ok out)
          g.savers outs ∧
        g'.savers = outs.map (·.1) ∧
        (∀ pre s e rest, results = pre ++ (s, .error e) :: rest → (∀ x ∈ pre, x.2.isOk = true) →
          r = .error (.session s.mapId e)) ∧
        ((∀ x ∈ results, x.2.isOk = true) → ∀ before sv m after,
          outs = before ++ (sv, some (.error m)) :: after → (∀ o ∈ before, ∀ m', o.2 ≠ some (.error m')) →
          r = .error (.observer m)) ∧
        ((∀ x ∈ results, x.2.isOk = true) → (∀ o ∈ outs, ∀ m, o.2 ≠ some (.error m)) → r = .ok ())) ∧
    ∀ σ : List Session, σ.Perm g.sessions →
      (g.tick dt).isOk = ({ g with sessions := σ }.tick dt).isOk ∧
      ∀ g₁ r₁ g₂ r₂, g.tick dt = .ok (g₁, r₁) → { g with sessions := σ }.tick dt = .ok (g₂, r₂) →
        g₂.sessions.Perm g₁.sessions ∧ g₂.leaderboard = g₁.leaderboard := by
  refine ⟨fun g' r h => ?_, fun _ hσ => tick_perm_sessions g dt hlb hσ⟩
  obtain ⟨results, outs, hres, hout, hsessions, -, hboard, hsavers, hr⟩ := tick_eq_ok_answer h
  have hF := (mapM_eq_ok_iff _ _ _).mp hres
  -- the savers were shown the advanced game
  have hO : List.Forall₂ (fun sv out => Saver.onTick g.disk
      { g with sessions := g'.sessions, leaderboard := g'.leaderboard }.save dt sv = .ok out) g.savers outs := by
    rw [hsessions, hboard]
    exact (mapM_eq_ok_iff _ _ _).mp hout
  refine ⟨results, outs, hF, hsessions, by rw [hboard, flatMap_retiredBy], hO, hsavers, ?_, ?_, ?_⟩
  · rintro pre s e rest rfl hpre
    rw [hr]
    exact answer_of_refused hpre outs
  · rintro hok before sv m after rfl hpre
    rw [hr]
    exact answer_of_failed hok hpre
  · intro hok hnone
    rw [hr]
    exact answer_of_isOk hok hnone

/-- Two sessions and a saver: the first session's loot counter refuses its spawn, the second
retires its standing dog. The tick answers with the first session's refusal, the leaderboard
gains the retired dog's record alone, and the saver stays. -/
theorem tick_sessions_independent_with_a_refusal :
    let a : Map := { (default : Map) with
      id := "a", roads := ⟨#[Road.horizontal ⟨0, 0⟩ 10], roadHalfWidth⟩, lootKinds := [⟨1, []⟩]
      supply := some ⟨Duration.zero, 1.0⟩ }
    let b : Map := { (default : Map) with id := "b", roads := ⟨#[Road.horizontal ⟨0, 0⟩ 10], roadHalfWidth⟩ }
    let s₁ : Session :=
      { (Session.new a default).insertDog (Dog.fresh 0 "rex" Point.origin) with nextLootId := idLimit - 1 }
    let s₂ : Session := (Session.new b default).insertDog (Dog.fresh 0 "max" Point.origin)
    let g : Game := { Game.empty default with
      maps := [a, b], sessions := [s₁, s₂], savers := [{ period := Duration.ofSecs 10 }] }
    let dt := Duration.ofSecs 1
    g.leaderboard.Ranked ∧
    (∃ g' r, g.tick dt = .ok (g', r) ∧ r = .error (.session "a" (.idOverflow .loot)) ∧
      g'.leaderboard.records.map (·.name) = ["max"] ∧ g'.savers.length = 1) ∧
    (∀ g' r, g.tick dt = .ok (g', r) →
      ∃ (results : List (Session × Except SessionError Session.TickReport))
        (outs : List (Saver × Option (Except String ByteArray))),
        List.Forall₂ (fun s res => s.tick dt = .ok res) g.sessions results ∧
        g'.sessions = results.map (·.1) ∧
        g'.leaderboard = g.leaderboard.extend ((results.filterMap (·.2.toOption)).flatMap (·.retired)) ∧
        List.Forall₂ (fun sv out => Saver.onTick g.disk
            { g with sessions := g'.sessions, leaderboard := g'.leaderboard }.save dt sv = .ok out)
          g.savers outs ∧
        g'.savers = outs.map (·.1) ∧
        (∀ pre s e rest, results = pre ++ (s, .error e) :: rest → (∀ x ∈ pre, x.2.isOk = true) →
          r = .error (.session s.mapId e)) ∧
        ((∀ x ∈ results, x.2.isOk = true) → ∀ before sv m after,
          outs = before ++ (sv, some (.error m)) :: after → (∀ o ∈ before, ∀ m', o.2 ≠ some (.error m')) →
          r = .error (.observer m)) ∧
        ((∀ x ∈ results, x.2.isOk = true) → (∀ o ∈ outs, ∀ m, o.2 ≠ some (.error m)) → r = .ok ())) ∧
    ∀ σ : List Session, σ.Perm g.sessions →
      (g.tick dt).isOk = ({ g with sessions := σ }.tick dt).isOk ∧
      ∀ g₁ r₁ g₂ r₂, g.tick dt = .ok (g₁, r₁) → { g with sessions := σ }.tick dt = .ok (g₂, r₂) →
        g₂.sessions.Perm g₁.sessions ∧ g₂.leaderboard = g₁.leaderboard := by
  intro a b s₁ s₂ g dt
  have hlb : g.leaderboard.Ranked := List.Pairwise.nil
  have hind := tick_sessions_independent g dt hlb
  -- the kernel runs the game's tick and the first session's own tick
  have htick := eq_ok_getD default (show (g.tick dt).toBool = true by decide +kernel)
  have hnames : ((g.tick dt).toOption.getD default).1.leaderboard.records.map (·.name) = ["max"] := by
    decide +kernel
  have hsavers : ((g.tick dt).toOption.getD default).1.savers.length = 1 := by decide +kernel
  obtain ⟨s₁', hrefused⟩ := Session.eq_of_refusedByLootCounter
    (show Session.refusedByLootCounter (s₁.tick dt) = true by decide +kernel)
  generalize (g.tick dt).toOption.getD default = res at htick hnames hsavers
  -- the answer is the first session's refusal, by the theorem itself
  obtain ⟨results, outs, hF, -, -, -, -, hfirst, -, -⟩ := hind.1 res.1 res.2 htick
  obtain ⟨r₁, r₂, h₁, h₂, rfl⟩ : ∃ r₁ r₂, s₁.tick dt = .ok r₁ ∧ s₂.tick dt = .ok r₂ ∧ results = [r₁, r₂] := by
    rcases hF with _ | ⟨h₁, _ | ⟨h₂, hnil⟩⟩
    cases hnil
    exact ⟨_, _, h₁, h₂, rfl⟩
  obtain rfl : r₁ = (s₁', .error (.idOverflow .loot)) := Except.ok.inj (h₁.symm.trans hrefused)
  have hr := hfirst [] s₁' (.idOverflow .loot) [r₂] rfl (by simp)
  rw [show s₁'.mapId = "a" from congrArg Map.id (Session.tick_map hrefused)] at hr
  exact ⟨hlb, ⟨res.1, res.2, htick, hr, hnames, hsavers⟩, hind⟩

end Game

end DogCourier
