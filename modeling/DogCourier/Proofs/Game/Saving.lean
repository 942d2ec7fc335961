import DogCourier.Proofs.Game.Tick
import DogCourier.Proofs.Session.Retirement

/-! # When the state file is written

    A saver counts the game time since it last wrote the state file. Told of a tick of
    `dt`, a saver with a zero period does nothing. Any other adds `dt` to its count and,
    once the count reaches its period, writes the game as the tick left it and counts
    again from zero. Read along a run of ticks, a saver's history is each tick's step and
    whether the saver wrote in it, and its count is the time since its last write, all
    the steps when it never wrote: the `idleSince` of that history.

    * `Saver.onTick_eq_ok`: what one saver told of one tick can answer, and
      `Saver.onTick_accepted` when the disk takes the write;
    * `OnCadence`: each tick of a history writes exactly when the time since the last
      write, its own step included, reaches the period;
    * `tick_saver`: a game tick tells each saver once, and a saver that writes leaves
      the state file holding the game after the tick;
    * `Ticks.counts`: the run lemma, from `Counts.onTick`;
    * `shutdown_writes`: shutting down writes the game once more;
    * `state_file_cadence`: a saver registered on a game, along any run of ticks. -/

namespace DogCourier

namespace Game

open Session (History idleSince idleSince_concat)

section Lists

variable {α β : Type} {R : α → β → Prop}

/-- Related lists relate the members they hold at the same index. -/
theorem forall₂_getElem? : ∀ {l₁ : List α} {l₂ : List β}, List.Forall₂ R l₁ l₂ →
    ∀ {i : Nat} {a : α}, l₁[i]? = some a → ∃ b, l₂[i]? = some b ∧ R a b
  | _, _, .nil, _, _, h => by simp at h
  | _, _, .cons hab _, 0, _, h => by
    simp only [List.getElem?_cons_zero, Option.some.injEq] at h
    subst h
    exact ⟨_, rfl, hab⟩
  | _, _, .cons _ hrest, i + 1, _, h => forall₂_getElem? hrest h

end Lists

/-- Whether a saver's answer to a tick is a write that the disk took. -/
def written : Option (Except String ByteArray) → Bool
  | some (.ok _) => true
  | _ => false

section Saver

variable {disk : ByteArray → Option String} {bytes : ByteArray} {dt : Duration} {sv sv' : Saver}
  {out : Option (Except String ByteArray)}

/-- What a saver told of a tick answers. A saver with a zero period stays as it was and
writes nothing. Any other adds the step to its count without reaching the bound. When the sum
reaches the period it writes the bytes: if the disk takes them it counts from zero, and if not
it keeps the sum and answers the disk's error. Below the period it keeps the sum and writes
nothing. -/
theorem Saver.onTick_eq_ok (h : Saver.onTick disk bytes dt sv = .ok (sv', out)) :
    (sv.period.isZero = true ∧ sv' = sv ∧ out = none) ∨
      (sv.period.isZero = false ∧ ∃ since, sv.sinceSave.add dt = .ok since ∧
        ((sv.period ≤ since ∧ disk bytes = none ∧ sv' = { sv with sinceSave := Duration.zero } ∧
            out = some (.ok bytes)) ∨
          (sv.period ≤ since ∧ ∃ e, disk bytes = some e ∧ sv' = { sv with sinceSave := since } ∧
            out = some (.error ("IO error: " ++ e))) ∨
          (since < sv.period ∧ sv' = { sv with sinceSave := since } ∧ out = none))) := by
  unfold Saver.onTick at h
  by_cases hz : sv.period.isZero
  · simp only [hz, if_true, pure, Except.pure, Except.ok.injEq, Prod.mk.injEq] at h
    exact .inl ⟨hz, h.1.symm, h.2.symm⟩
  · cases hadd : sv.sinceSave.add dt with
    | error e => simp [hz, hadd, bind, Except.bind] at h
    | ok since =>
      refine .inr ⟨by simpa using hz, since, rfl, ?_⟩
      by_cases hp : since ≥ sv.period
      · -- the saver writes, and the disk's answer decides its count
        cases hd : disk bytes with
        | none =>
          simp only [hz, hadd, hp, hd, Bool.false_eq_true, if_false, if_true, bind, Except.bind, pure,
            Except.pure, Except.ok.injEq, Prod.mk.injEq] at h
          exact .inl ⟨hp, rfl, h.1.symm, h.2.symm⟩
        | some e =>
          simp only [hz, hadd, hp, hd, Bool.false_eq_true, if_false, if_true, bind, Except.bind, pure,
            Except.pure, Except.ok.injEq, Prod.mk.injEq] at h
          exact .inr (.inl ⟨hp, e, rfl, h.1.symm, h.2.symm⟩)
      · simp only [hz, hadd, hp, Bool.false_eq_true, if_false, bind, Except.bind, pure, Except.pure,
          Except.ok.injEq, Prod.mk.injEq] at h
        exact .inr (.inr ⟨Nat.lt_of_not_le hp, h.1.symm, h.2.symm⟩)

/-- One saver told of a tick whose write the disk takes. A saver with a zero period stays as
it was and writes nothing. Any other adds the step to its count without reaching the bound;
when the sum reaches the period it writes the bytes and counts from zero, and otherwise it
keeps the sum and writes nothing. -/
theorem Saver.onTick_accepted (hdisk : disk bytes = none) (h : Saver.onTick disk bytes dt sv = .ok (sv', out)) :
    (sv.period.isZero = true ∧ sv' = sv ∧ out = none) ∨
      (sv.period.isZero = false ∧ ∃ since, sv.sinceSave.add dt = .ok since ∧
        ((sv.period ≤ since ∧ sv' = { sv with sinceSave := Duration.zero } ∧ out = some (.ok bytes)) ∨
          (since < sv.period ∧ sv' = { sv with sinceSave := since } ∧ out = none))) := by
  rcases Saver.onTick_eq_ok h with hidle | ⟨hz, since, hadd, ⟨hp, -, hw⟩ | ⟨-, e, he, -⟩ | hkeep⟩
  · exact .inl hidle
  · exact .inr ⟨hz, since, hadd, .inl ⟨hp, hw⟩⟩
  · -- the disk takes the write, so it answers no error
    rw [hdisk] at he
    cases he
  · exact .inr ⟨hz, since, hadd, .inr hkeep⟩

/-- A saver writes nothing but the bytes of the tick. -/
theorem Saver.onTick_writes {b : ByteArray} (h : Saver.onTick disk bytes dt sv = .ok (sv', some (.ok b))) :
    b = bytes ∧ sv' = { sv with sinceSave := Duration.zero } := by
  -- every answer but an accepted write carries no bytes
  rcases Saver.onTick_eq_ok h with ⟨-, -, hout⟩ | ⟨-, since, -, ⟨-, -, hsv, hout⟩ | ⟨-, e, -, -, hout⟩ | ⟨-, -, hout⟩⟩
  · cases hout
  · cases hout
    exact ⟨rfl, hsv⟩
  · cases hout
  · cases hout

end Saver

/-! ## Cadence -/

/-- Each tick of the history writes exactly when the time since the last write before it, or
since the history began, reaches the period `p` once its own step is added. -/
def OnCadence (p : Duration) (hist : History) : Prop :=
  ∀ pre x, pre ++ [x] <+: hist → (x.2 = true ↔ p.nanos ≤ idleSince pre + x.1.nanos)

theorem onCadence_nil (p : Duration) : OnCadence p [] := by
  intro pre x hp
  simpa using hp.length_le

theorem onCadence_concat_iff {p : Duration} {hist : History} {x : Duration × Bool} :
    OnCadence p (hist ++ [x]) ↔ OnCadence p hist ∧ (x.2 = true ↔ p.nanos ≤ idleSince hist + x.1.nanos) := by
  constructor
  · intro h
    exact ⟨fun pre y hp => h pre y (hp.trans (List.prefix_append _ _)), h hist x (List.prefix_refl _)⟩
  · rintro ⟨h, hx⟩ pre y hp
    rcases List.prefix_concat_iff.mp hp with heq | hp
    · -- the prefix is the whole history: its last tick is the new one
      obtain ⟨rfl, hyx⟩ := List.append_inj' heq rfl
      obtain rfl := List.singleton_inj.mp hyx
      exact hx
    · exact h pre y hp

/-- What a saver of period `p` has counted along a history. With a zero period it never wrote
and counts nothing; with another the history keeps the cadence of `p` and the count is the
time since the last write. -/
structure Counts (p : Duration) (hist : History) (sv : Saver) : Prop where
  period : sv.period = p
  idle : p.isZero = true → sv.sinceSave.nanos = 0 ∧ ∀ x ∈ hist, x.2 = false
  busy : p.isZero = false → OnCadence p hist ∧ sv.sinceSave.nanos = idleSince hist

/-- A new saver has counted nothing. -/
theorem counts_new (p : Duration) : Counts p [] ⟨p, Duration.zero⟩ :=
  ⟨rfl, fun _ => ⟨rfl, by simp⟩, fun _ => ⟨onCadence_nil p, rfl⟩⟩

/-- One tick keeps the count: the history grows by the step and whether the saver wrote. -/
theorem Counts.onTick {p : Duration} {hist : History} {disk : ByteArray → Option String}
    {bytes : ByteArray} {dt : Duration} {sv sv' : Saver} {out : Option (Except String ByteArray)}
    (hc : Counts p hist sv) (hdisk : disk bytes = none) (h : Saver.onTick disk bytes dt sv = .ok (sv', out)) :
    Counts p (hist ++ [(dt, written out)]) sv' := by
  have hp := hc.period
  rcases Saver.onTick_accepted hdisk h with ⟨hz, rfl, rfl⟩ | ⟨hz, since, hadd, hstep⟩
  · -- a zero period: nothing changes and nothing is written
    refine ⟨hp, fun hz' => ⟨(hc.idle hz').1, ?_⟩, fun hz' => absurd (hp ▸ hz) (by simp [hz'])⟩
    intro y hy
    rcases List.mem_append.mp hy with hy | hy
    · exact (hc.idle hz').2 y hy
    · simp only [List.mem_singleton] at hy
      subst hy
      rfl
  · have hz' : p.isZero = false := hp ▸ hz
    obtain ⟨hcad, hcount⟩ := hc.busy hz'
    have hsum : since.nanos = idleSince hist + dt.nanos := by
      rw [Duration.nanos_of_add_eq_ok hadd, hcount]
    refine ⟨?_, fun h0 => absurd h0 (by simp [hz']), fun _ => ?_⟩
    · rcases hstep with ⟨-, rfl, -⟩ | ⟨-, rfl, -⟩ <;> exact hp
    · rw [onCadence_concat_iff, idleSince_concat]
      -- the saver writes exactly when the count with this step reaches the period
      rcases hstep with ⟨hle, rfl, rfl⟩ | ⟨hlt, rfl, rfl⟩
      · have hle' : p.nanos ≤ idleSince hist + dt.nanos := by
          rw [← hsum, ← hp]
          exact hle
        exact ⟨⟨hcad, iff_of_true rfl hle'⟩, rfl⟩
      · have hlt' : idleSince hist + dt.nanos < p.nanos := by
          rw [← hsum, ← hp]
          exact hlt
        refine ⟨⟨hcad, iff_of_false (by simp [written]) (Nat.not_le.mpr hlt')⟩, ?_⟩
        simp only [written, Bool.false_eq_true, if_false]
        exact hsum

/-! ## The savers at a game tick -/

/-- With no write among the savers' answers the state file stays as it was. -/
theorem lastWrite_of_none_written :
    ∀ {outs : List (Saver × Option (Except String ByteArray))} (file : Option ByteArray),
      (∀ o ∈ outs, written o.2 = false) → lastWrite outs file = file
  | [], _, _ => rfl
  | ⟨sv, out⟩ :: rest, file, hno => by
    have hrest := fun o ho => hno o (List.mem_cons_of_mem _ ho)
    rcases out with _ | _ | b
    · simpa only [lastWrite] using lastWrite_of_none_written file hrest
    · simpa only [lastWrite] using lastWrite_of_none_written file hrest
    · cases hno _ List.mem_cons_self

/-- When every write among the savers' answers is of the same bytes and one saver wrote, the
state file holds those bytes. -/
theorem lastWrite_of_written {bytes : ByteArray} :
    ∀ {outs : List (Saver × Option (Except String ByteArray))} (file : Option ByteArray),
      (∀ o ∈ outs, ∀ b, o.2 = some (.ok b) → b = bytes) → (∃ o ∈ outs, written o.2 = true) →
        lastWrite outs file = some bytes
  | [], _, _, ⟨_, ho, _⟩ => absurd ho List.not_mem_nil
  | ⟨sv, out⟩ :: rest, file, hall, ⟨o, ho, hw⟩ => by
    have hrest : ∀ o ∈ rest, ∀ b, o.2 = some (.ok b) → b = bytes :=
      fun o ho => hall o (List.mem_cons_of_mem _ ho)
    -- a later write leaves the same bytes; without one, this saver's write stands
    by_cases hlater : ∃ o ∈ rest, written o.2 = true
    · rcases out with _ | _ | b <;> simp only [lastWrite] <;> exact lastWrite_of_written _ hrest hlater
    · have hnone : ∀ o ∈ rest, written o.2 = false := fun o ho => by
        simpa using fun h => hlater ⟨o, ho, h⟩
      rcases List.mem_cons.mp ho with rfl | ho
      · rcases out with _ | _ | b
        · cases hw
        · cases hw
        · rw [hall _ List.mem_cons_self b rfl]
          simpa only [lastWrite] using lastWrite_of_none_written (some bytes) hnone
      · exact absurd ⟨o, ho, hw⟩ hlater

variable {g g' : Game} {dt : Duration} {r : Except GameError Unit}

/-- A game tick tells each saver once about the game it leaves: the saver at index `i` is
replaced by its own answer, and when that answer is a write the state file holds the game
after the tick. -/
theorem tick_saver (h : g.tick dt = .ok (g', r)) {i : Nat} {sv : Saver} (hi : g.savers[i]? = some sv) :
    ∃ sv' out, Saver.onTick g.disk g'.save dt sv = .ok (sv', out) ∧ g'.savers[i]? = some sv' ∧
      (written out = true → g'.stateFile = some g'.save) := by
  rw [tick_eq] at h
  cases hs : g.sessions.mapM fun s : Session => s.tick dt with
  | error e =>
    rw [hs] at h
    cases h
  | ok results =>
    rw [hs] at h
    cases ho : g.savers.mapM (Saver.onTick g.disk (g.advanced results).save dt) with
    | error e =>
      simp [ho, Except.bind, Except.map] at h
    | ok outs =>
      simp only [ho, Except.bind, Except.map, Except.ok.injEq, Prod.mk.injEq] at h
      obtain ⟨rfl, -⟩ := h
      have hF := (mapM_eq_ok_iff _ _ _).mp ho
      obtain ⟨⟨sv', out⟩, hout, hans⟩ := forall₂_getElem? hF hi
      -- the snapshot reads the sessions and the leaderboard only
      refine ⟨sv', out, hans, by simp [hout], fun hw => ?_⟩
      refine lastWrite_of_written _ (fun o ho b hb => ?_) ⟨(sv', out), List.mem_of_getElem? hout, hw⟩
      obtain ⟨x, -, hxo⟩ := forall₂_exists_of_mem hF.flip ho
      obtain ⟨sv₁, out₁⟩ := o
      dsimp only at hb
      subst hb
      exact (Saver.onTick_writes hxo).1

/-! ## Runs of ticks -/

/-- A tick of a run: the game before it, its step and the game after it. -/
structure Ticked where
  before : Game
  dt : Duration
  after : Game

/-- Whether the saver at index `i` wrote in a tick: its answer to the tick, about the game the
tick left, was a write the disk took. -/
def Ticked.wrote (i : Nat) (t : Ticked) : Bool :=
  match t.before.savers[i]? with
  | some sv =>
    match Saver.onTick t.before.disk t.after.save t.dt sv with
    | .ok (_, out) => written out
    | .error _ => false
  | none => false

theorem Ticked.wrote_eq {i : Nat} {sv sv' : Saver} {out : Option (Except String ByteArray)}
    (hi : g.savers[i]? = some sv) (h : Saver.onTick g.disk g'.save dt sv = .ok (sv', out)) :
    Ticked.wrote i ⟨g, dt, g'⟩ = written out := by
  simp [Ticked.wrote, hi, h]

/-- A saver that wrote in a tick left the state file holding the game after the tick, and
counts from zero again. -/
theorem Ticked.wrote_file {t : Ticked} {i : Nat} (h : t.before.tick t.dt = .ok (t.after, r))
    (hw : t.wrote i = true) :
    t.after.stateFile = some t.after.save ∧ ∃ sv, t.after.savers[i]? = some sv ∧ sv.sinceSave = Duration.zero := by
  cases hi : t.before.savers[i]? with
  | none => simp [Ticked.wrote, hi] at hw
  | some sv =>
    obtain ⟨sv', out, hans, hsv', hfile⟩ := tick_saver h hi
    rw [Ticked.wrote_eq hi hans] at hw
    refine ⟨hfile hw, sv', hsv', ?_⟩
    -- the answer was a write, so the saver came back counting from zero
    rcases out with _ | _ | b
    · cases hw
    · cases hw
    · rw [(Saver.onTick_writes hans).2]

/-- The history of the saver at index `i` along a run's ticks: each step and whether the saver
wrote in it. -/
def saves (i : Nat) (ts : List Ticked) : History := ts.map fun t => (t.dt, t.wrote i)

theorem saves_concat (i : Nat) (ts : List Ticked) (t : Ticked) :
    saves i (ts ++ [t]) = saves i ts ++ [(t.dt, t.wrote i)] := by
  simp [saves]

/-- The games a run of ticks leads to from `g₀`, with the ticks it took, oldest first; a tick
may answer with a refusal, but none halts. -/
inductive Ticks (g₀ : Game) : List Ticked → Game → Prop
  | start : Ticks g₀ [] g₀
  | tick {ts : List Ticked} {g g' : Game} {dt : Duration} {r : Except GameError Unit} :
      Ticks g₀ ts g → g.tick dt = .ok (g', r) → Ticks g₀ (ts ++ [⟨g, dt, g'⟩]) g'

theorem Ticks.mem {g₀ : Game} {ts : List Ticked} (hrun : Ticks g₀ ts g) :
    ∀ t ∈ ts, ∃ r, t.before.tick t.dt = .ok (t.after, r) := by
  induction hrun with
  | start => simp
  | tick _ htick ih =>
    intro t ht
    rcases List.mem_append.mp ht with ht | ht
    · exact ih t ht
    · rw [List.mem_singleton.mp ht]
      exact ⟨_, htick⟩

/-- Along a run whose writes the disk takes, a saver keeps its count: its history is the run's
steps, each with whether it wrote. -/
theorem Ticks.counts {g₀ : Game} {ts : List Ticked} {i : Nat} {p : Duration} {sv₀ : Saver}
    (hrun : Ticks g₀ ts g) (h₀ : g₀.savers[i]? = some sv₀) (hc₀ : Counts p [] sv₀)
    (hdisk : ∀ t ∈ ts, t.before.disk t.after.save = none) :
    ∃ sv, g.savers[i]? = some sv ∧ Counts p (saves i ts) sv := by
  induction hrun with
  | start => exact ⟨sv₀, h₀, hc₀⟩
  | tick _ htick ih =>
    obtain ⟨sv, hsv, hc⟩ := ih fun t ht => hdisk t (List.mem_append_left _ ht)
    obtain ⟨sv', out, hans, hsv', -⟩ := tick_saver htick hsv
    refine ⟨sv', hsv', ?_⟩
    rw [saves_concat, Ticked.wrote_eq hsv hans]
    exact hc.onTick (hdisk _ (List.mem_append_right _ (List.mem_singleton_self _))) hans

/-! ## Shutting down -/

/-- Shutting down, with the disk taking the write, makes every saver write the game and count
from zero; the state file holds the game unless there is no saver. -/
theorem notifyShutdown_accepted {disk : ByteArray → Option String} {bytes : ByteArray}
    (hdisk : disk bytes = none) :
    ∀ (svs : List Saver) (file : Option ByteArray),
      notifyShutdown disk bytes svs file =
        (svs.map fun sv => { sv with sinceSave := Duration.zero }, if svs = [] then file else some bytes, none)
  | [], _ => rfl
  | sv :: rest, file => by
    simp only [notifyShutdown, hdisk, notifyShutdown_accepted hdisk rest]
    cases rest <;> simp

/-- Shutting down a game that has a saver, with the disk taking the write, writes the game to
the state file, answers that all went well, and changes nothing a snapshot reads. -/
theorem shutdown_writes (hne : g.savers ≠ []) (hdisk : g.disk g.save = none) :
    g.shutdown.1.stateFile = some g.save ∧ g.shutdown.1.save = g.save ∧ g.shutdown.2 = .ok () := by
  unfold shutdown
  rw [notifyShutdown_accepted hdisk, if_neg hne]
  exact ⟨rfl, rfl, rfl⟩

/-! ## A saver registered on a game -/

/-- A saver with period `p` registered on a game, along any run of ticks whose writes the disk
takes. With a zero period no tick writes. With another, each tick writes exactly when the game
time since the saver's last write, or since it was registered, reaches `p` with the tick's step,
and the saver's count is that time. A tick that writes leaves the state file holding the game
after the tick and the saver counting from zero. Shutting down after the run writes the game as
it stands. -/
theorem state_file_cadence {g₀ : Game} {p : Duration} {ts : List Ticked}
    (hrun : Ticks (g₀.addSaver p) ts g) (hdisk : ∀ t ∈ ts, t.before.disk t.after.save = none) :
    ∃ sv, g.savers[g₀.savers.length]? = some sv ∧ sv.period = p ∧
      (p.isZero = true → ∀ t ∈ ts, t.wrote g₀.savers.length = false) ∧
      (p.isZero = false → OnCadence p (saves g₀.savers.length ts) ∧
        sv.sinceSave.nanos = idleSince (saves g₀.savers.length ts)) ∧
      (∀ t ∈ ts, t.wrote g₀.savers.length = true → t.after.stateFile = some t.after.save ∧
        ∃ sv', t.after.savers[g₀.savers.length]? = some sv' ∧ sv'.sinceSave = Duration.zero) ∧
      (g.disk g.save = none → g.shutdown.1.stateFile = some g.save ∧ g.shutdown.1.save = g.save) := by
  have h₀ : (g₀.addSaver p).savers[g₀.savers.length]? = some ⟨p, Duration.zero⟩ := by
    simp [addSaver]
  obtain ⟨sv, hsv, hc⟩ := hrun.counts h₀ (counts_new p) hdisk
  refine ⟨sv, hsv, hc.period, fun hz t ht => ?_, hc.busy, fun t ht hw => ?_, fun hd => ?_⟩
  · exact (hc.idle hz).2 _ (List.mem_map_of_mem ht)
  · obtain ⟨r, htick⟩ := hrun.mem t ht
    exact Ticked.wrote_file htick hw
  · have hne : g.savers ≠ [] := fun he => by simp [he] at hsv
    obtain ⟨hfile, hsave, -⟩ := shutdown_writes hne hd
    exact ⟨hfile, hsave⟩

/-- A saver of one second registered on a game without maps, through two ticks of 600 ms:
the first leaves it counting 600 ms, the second writes the game. -/
theorem state_file_cadence_two_ticks :
    let p := Duration.ofMillis 1000
    let g₀ : Game := Game.empty default
    let g₁ : Game := { g₀.addSaver p with savers := [⟨p, Duration.ofMillis 600⟩] }
    let g₂ : Game := { g₁ with savers := [⟨p, Duration.zero⟩], stateFile := some g₁.save }
    let ts : List Ticked := [⟨g₀.addSaver p, Duration.ofMillis 600, g₁⟩, ⟨g₁, Duration.ofMillis 600, g₂⟩]
    Ticks (g₀.addSaver p) ts g₂ ∧ (∀ t ∈ ts, t.before.disk t.after.save = none) ∧
    ∃ sv, g₂.savers[g₀.savers.length]? = some sv ∧ sv.period = p ∧
      (p.isZero = true → ∀ t ∈ ts, t.wrote g₀.savers.length = false) ∧
      (p.isZero = false → OnCadence p (saves g₀.savers.length ts) ∧
        sv.sinceSave.nanos = idleSince (saves g₀.savers.length ts)) ∧
      (∀ t ∈ ts, t.wrote g₀.savers.length = true → t.after.stateFile = some t.after.save ∧
        ∃ sv', t.after.savers[g₀.savers.length]? = some sv' ∧ sv'.sinceSave = Duration.zero) ∧
      (g₂.disk g₂.save = none → g₂.shutdown.1.stateFile = some g₂.save ∧ g₂.shutdown.1.save = g₂.save) := by
  intro p g₀ g₁ g₂ ts
  have h₁ : ((Game.empty default).addSaver (Duration.ofMillis 1000)).tick (Duration.ofMillis 600) =
      .ok ({ (Game.empty default).addSaver (Duration.ofMillis 1000) with
        savers := [⟨Duration.ofMillis 1000, Duration.ofMillis 600⟩] }, .ok ()) := by
    rfl
  have h₂ : ({ (Game.empty default).addSaver (Duration.ofMillis 1000) with
        savers := [⟨Duration.ofMillis 1000, Duration.ofMillis 600⟩] } : Game).tick (Duration.ofMillis 600) =
      .ok ({ (Game.empty default).addSaver (Duration.ofMillis 1000) with
        savers := [⟨Duration.ofMillis 1000, Duration.zero⟩],
        stateFile := some ({ (Game.empty default).addSaver (Duration.ofMillis 1000) with
          savers := [⟨Duration.ofMillis 1000, Duration.ofMillis 600⟩] } : Game).save }, .ok ()) := by
    rfl
  have hrun : Ticks (g₀.addSaver p) ts g₂ := (Ticks.start.tick h₁).tick h₂
  -- the game's disk takes every write
  have hdisk : ∀ t ∈ ts, t.before.disk t.after.save = none := by
    intro t ht
    simp only [ts, List.mem_cons, List.mem_nil_iff, or_false] at ht
    rcases ht with rfl | rfl <;> rfl
  exact ⟨hrun, hdisk, state_file_cadence hrun hdisk⟩

end Game

end DogCourier
