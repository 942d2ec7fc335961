import Mathlib

/-! # Runs of a failing step over a list

    `List.mapM` in `Except` runs a step on every item in order and stops at the first
    failure. A run succeeds exactly when every step gives its result (`mapM_eq_ok_iff`),
    so a permuted list gives the results permuted the same way (`mapM_perm`), and
    whether a run fails depends only on whether its steps do (`mapM_isOk`); a run that
    fails fails at one of its items (`exists_of_mapM_eq_error`). Related
    lists, in turn, relate their members and agree under maps that agree on related
    items, and an answer that is not an error holds its value (`eq_ok_getD`). -/

namespace DogCourier

section MapM

variable {α β γ ε : Type}

/-- A run over a list succeeds with `rs` exactly when every item gives its result. -/
theorem mapM_eq_ok_iff (f : α → Except ε β) (l : List α) (rs : List β) :
    l.mapM f = .ok rs ↔ List.Forall₂ (fun a r => f a = .ok r) l rs := by
  induction l generalizing rs with
  | nil => cases rs <;> simp [pure, Except.pure]
  | cons a l ih =>
    rw [List.mapM_cons]
    cases hfa : f a with
    | error e => cases rs <;> simp [bind, Except.bind, hfa]
    | ok b =>
      cases hl : l.mapM f with
      | error e => cases rs <;> simp [bind, Except.bind, ← ih, hl, hfa]
      | ok bs => cases rs <;> simp [bind, Except.bind, pure, Except.pure, ← ih, hl, hfa]

/-- Running over a permuted list gives the results permuted the same way. -/
theorem mapM_perm (f : α → Except ε β) {l l' : List α} (hp : l.Perm l') {rs : List β}
    (h : l.mapM f = .ok rs) : ∃ rs', l'.mapM f = .ok rs' ∧ rs'.Perm rs := by
  obtain ⟨rs', h₁, h₂⟩ := List.perm_comp_forall₂ hp.symm ((mapM_eq_ok_iff f l rs).mp h)
  exact ⟨rs', (mapM_eq_ok_iff f l' rs').mpr h₁, h₂⟩

/-- A run succeeds exactly when every step does. -/
theorem mapM_isOk (f : α → Except ε β) : ∀ l : List α, (l.mapM f).isOk = l.all fun a => (f a).isOk
  | [] => rfl
  | a :: l => by
    rw [List.mapM_cons, List.all_cons, ← mapM_isOk f l]
    cases f a <;> cases l.mapM f <;> rfl

/-- A run that fails fails at an item whose step gives that failure. -/
theorem exists_of_mapM_eq_error {f : α → Except ε β} {e : ε} :
    ∀ {l : List α}, l.mapM f = .error e → ∃ a ∈ l, f a = .error e
  | [], h => by simp [pure, Except.pure] at h
  | a :: l, h => by
    rw [List.mapM_cons] at h
    cases hfa : f a with
    | error e' =>
      simp only [hfa, bind, Except.bind, Except.error.injEq] at h
      exact ⟨a, List.mem_cons_self, h ▸ hfa⟩
    | ok b =>
      cases hl : l.mapM f with
      | error e' =>
        simp only [hfa, hl, bind, Except.bind, Except.error.injEq] at h
        obtain ⟨x, hx, hfx⟩ := exists_of_mapM_eq_error (h ▸ hl)
        exact ⟨x, List.mem_cons_of_mem _ hx, hfx⟩
      | ok bs => simp [hfa, hl, bind, Except.bind, pure, Except.pure] at h

/-- Related lists relate every item of the first to some item of the second. -/
theorem forall₂_exists_of_mem {R : α → β → Prop} :
    ∀ {l₁ : List α} {l₂ : List β}, List.Forall₂ R l₁ l₂ → ∀ {a : α}, a ∈ l₁ → ∃ b ∈ l₂, R a b
  | _, _, .nil, _, ha => absurd ha List.not_mem_nil
  | _, _, .cons hab hrest, _, ha => by
    rcases List.mem_cons.mp ha with rfl | ha
    · exact ⟨_, List.mem_cons_self, hab⟩
    · obtain ⟨b, hb, hr⟩ := forall₂_exists_of_mem hrest ha
      exact ⟨b, List.mem_cons_of_mem _ hb, hr⟩

/-- Related lists have the same image under maps that agree on related items. -/
theorem forall₂_map_eq {R : α → β → Prop} {f : α → γ} {g : β → γ} (hfg : ∀ a b, R a b → f a = g b) :
    ∀ {l₁ : List α} {l₂ : List β}, List.Forall₂ R l₁ l₂ → l₁.map f = l₂.map g
  | _, _, .nil => rfl
  | _, _, .cons hab hrest => by
    rw [List.map_cons, List.map_cons, hfg _ _ hab, forall₂_map_eq hfg hrest]

/-- An answer that is not an error is the value it holds. -/
theorem eq_ok_getD {x : Except ε α} (d : α) (h : x.toBool = true) : x = .ok (x.toOption.getD d) := by
  cases x with
  | error => cases h
  | ok a => rfl

end MapM

end DogCourier
