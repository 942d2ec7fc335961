import Mathlib
import DogCourier.World.Store

/-! # Lookups, changes and despawns in a store

    A store's own fields say that no two entities share a handle and that every handle lies
    below the next one to be issued; the lemmas here read what follows off them.

    * The entity under a handle is the stored one (`get?_eq_some_iff`), and a handle
      splits the storage around its one entity (`split_of_mem`).
    * Changing an entity replaces it in place (`modify_split`), so whatever the entities
      carry is kept up to the one change (`flatMap_modify_perm`).
    * Despawning takes exactly its entity out, whatever the swap moves
      (`despawn_perm`).
    * On keys of their own an index finds what it stores (`Index.find?_eq_some_iff`),
      and erasing keys keeps the other entries (`Index.foldl_erase`). -/

namespace DogCourier

namespace Store

variable {α : Type}

/-- No two entities of a store share a handle. -/
theorem handles_nodup (st : Store α) : st.handles.Nodup := st.nodup

theorem lt_fresh_of_mem {st : Store α} {h : Nat} (hh : h ∈ st.handles) : h < st.fresh :=
  st.lt_fresh h hh

@[simp] theorem items_eq (st : Store α) : st.items = st.slots.toList.map (·.2) := rfl

@[simp] theorem size_eq (st : Store α) : st.size = st.slots.toList.length := by
  simp [size]

section Lookup

variable {st : Store α} {h : Nat} {x : α}

theorem get?_eq_some_of_mem (hx : (h, x) ∈ st.slots.toList) :
    st.get? h = some x := by
  obtain ⟨e, he, hfound⟩ : ∃ e, st.slots.toList.find? (fun e => e.1 == h) = some e ∧ e.1 = h := by
    cases hf : st.slots.toList.find? (fun e => e.1 == h) with
    | none => exact absurd hx (by simpa using List.find?_eq_none.mp hf (h, x))
    | some e => exact ⟨e, rfl, by simpa using List.find?_some hf⟩
  -- the entity found first has handle `h`, and only `(h, x)` has it
  have hmem := List.mem_of_find?_eq_some he
  have : e = (h, x) := List.inj_on_of_nodup_map st.nodup hmem hx hfound
  simp [get?, ← Array.find?_toList, he, this]

theorem mem_of_get?_eq_some (hx : st.get? h = some x) : (h, x) ∈ st.slots.toList := by
  simp only [get?, ← Array.find?_toList, Option.map_eq_some_iff] at hx
  obtain ⟨e, he, rfl⟩ := hx
  have hh : e.1 = h := by simpa using List.find?_some he
  have : e = (h, e.2) := by rw [← hh]
  exact this ▸ List.mem_of_find?_eq_some he

/-- The entity under a handle is the one stored with it. -/
theorem get?_eq_some_iff : st.get? h = some x ↔ (h, x) ∈ st.slots.toList :=
  ⟨mem_of_get?_eq_some, get?_eq_some_of_mem⟩

/-- A handle of its own splits the storage around its entity. -/
theorem split_of_mem (hx : (h, x) ∈ st.slots.toList) :
    ∃ pre post, st.slots.toList = pre ++ (h, x) :: post ∧
      (∀ e ∈ pre, e.1 ≠ h) ∧ (∀ e ∈ post, e.1 ≠ h) :=
  slots_split st.nodup hx

end Lookup

section Change

variable {st : Store α} {h : Nat} {x : α} (f : α → α)

@[simp] theorem modify_slots :
    (st.modify h f).slots.toList = st.slots.toList.map fun e => if e.1 == h then (e.1, f e.2) else e := by
  simp [modify]

@[simp] theorem modify_fresh : (st.modify h f).fresh = st.fresh := rfl

@[simp] theorem handles_modify : (st.modify h f).handles = st.handles := by
  unfold handles
  rw [modify_slots, List.map_map]
  apply List.map_congr_left
  intro e _
  by_cases he : e.1 = h <;> simp [he]

theorem items_modify :
    (st.modify h f).items = st.slots.toList.map fun e => if e.1 == h then f e.2 else e.2 := by
  simp only [items_eq, modify_slots, List.map_map]
  apply List.map_congr_left
  intro e _
  by_cases he : e.1 = h <;> simp [he]

/-- A changed store holds changed entities and unchanged ones. -/
theorem mem_items_modify {y : α} (hy : y ∈ (st.modify h f).items) :
    ∃ x ∈ st.items, y = f x ∨ y = x := by
  rw [items_modify] at hy
  obtain ⟨e, he, rfl⟩ := List.mem_map.mp hy
  refine ⟨e.2, List.mem_map_of_mem he, ?_⟩
  by_cases he1 : e.1 = h <;> simp [he1]

/-- A change that keeps what `g` reads of an entity keeps what `g` reads of the store. -/
theorem map_items_modify {β : Type} (g : α → β) (hg : ∀ x, g (f x) = g x) :
    (st.modify h f).items.map g = st.items.map g := by
  rw [items_modify, List.map_map, items_eq, List.map_map]
  apply List.map_congr_left
  intro e _
  by_cases he1 : e.1 = h <;> simp [he1, hg]

/-- Changing an entity replaces it in place. -/
theorem modify_split (hx : (h, x) ∈ st.slots.toList) :
    ∃ pre post, st.slots.toList = pre ++ (h, x) :: post ∧
      (st.modify h f).slots.toList = pre ++ (h, f x) :: post := by
  obtain ⟨pre, post, hsplit, hpre, hpost⟩ := split_of_mem hx
  -- entities under other handles are left as they are
  have keep : ∀ l : List (Nat × α), (∀ e ∈ l, e.1 ≠ h) →
      (l.map fun e => if e.1 == h then (e.1, f e.2) else e) = l := by
    intro l hl
    conv_rhs => rw [← List.map_id l]
    apply List.map_congr_left
    intro e he
    simp [hl e he]
  refine ⟨pre, post, hsplit, ?_⟩
  rw [modify_slots, hsplit, List.map_append, List.map_cons, keep pre hpre, keep post hpost]
  simp

theorem get?_modify_self (hx : st.get? h = some x) :
    (st.modify h f).get? h = some (f x) := by
  obtain ⟨pre, post, -, hmod⟩ := modify_split f (mem_of_get?_eq_some hx)
  apply get?_eq_some_of_mem
  rw [hmod]
  simp

theorem get?_modify_of_ne {h' : Nat} (hne : h' ≠ h) :
    (st.modify h f).get? h' = st.get? h' := by
  apply Option.ext
  intro y
  rw [get?_eq_some_iff, get?_eq_some_iff, modify_slots, List.mem_map]
  constructor
  · rintro ⟨e, he, heq⟩
    by_cases he1 : e.1 = h
    · simp only [he1, beq_self_eq_true, ite_true, Prod.mk.injEq] at heq
      exact absurd heq.1.symm (by simpa [he1] using hne)
    · simp only [he1, beq_iff_eq, ite_false] at heq
      exact heq ▸ he
  · intro hy
    exact ⟨(h', y), hy, by simp [hne]⟩

/-- Whatever the entities carry is kept up to the one change. -/
theorem flatMap_modify_perm {β : Type} (g : α → List β) (hx : st.get? h = some x) :
    ((st.modify h f).items.flatMap g ++ g x).Perm (st.items.flatMap g ++ g (f x)) := by
  obtain ⟨pre, post, hsplit, hmod⟩ := modify_split f (mem_of_get?_eq_some hx)
  simp only [items_eq, hsplit, hmod, List.map_append, List.map_cons, List.flatMap_append,
    List.flatMap_cons, List.append_assoc]
  apply List.Perm.append_left
  -- g (f x) ++ (B ++ g x) ~ g x ++ (B ++ g (f x)), through B ++ (g x ++ g (f x))
  exact (List.perm_append_comm_assoc _ _ _).trans
    ((List.perm_append_comm.append_left _).trans (List.perm_append_comm_assoc _ _ _).symm)

@[simp] theorem spawn_slots : (st.spawn x).1.slots.toList = st.slots.toList ++ [(st.fresh, x)] := by
  simp [spawn]

@[simp] theorem spawn_fresh : (st.spawn x).1.fresh = st.fresh + 1 := rfl

@[simp] theorem zipValues_slots {β γ : Type} (ys : List β) (f : α → β → γ) :
    (st.zipValues ys f).slots.toList = (st.slots.toList.zip ys).map fun p => (p.1.1, f p.1.2 p.2) :=
  List.toList_toArray

@[simp] theorem zipValues_fresh {β γ : Type} (ys : List β) (f : α → β → γ) :
    (st.zipValues ys f).fresh = st.fresh := rfl

/-- Despawning takes out exactly the entity under the handle. -/
theorem despawn_perm (hx : (h, x) ∈ st.slots.toList) :
    ((h, x) :: (st.despawn h).slots.toList).Perm st.slots.toList :=
  removeSlot_perm st.nodup hx

@[simp] theorem despawn_fresh : (st.despawn h).fresh = st.fresh := rfl

/-- Despawning a handle that is not stored changes nothing. -/
theorem despawn_of_not_mem (hh : h ∉ st.handles) : st.despawn h = st :=
  Store.ext (removeSlot_of_not_mem hh) rfl

theorem handles_despawn_perm (hx : (h, x) ∈ st.slots.toList) :
    (h :: (st.despawn h).handles).Perm st.handles := by
  simpa [handles] using (despawn_perm hx).map (·.1)

/-- Despawning stored entities one after another takes out exactly them. -/
theorem foldl_despawn_perm : ∀ {L K : List (Nat × α)} {st : Store α},
    st.slots.toList.Perm (K ++ L) → (L.foldl (fun st e => st.despawn e.1) st).slots.toList.Perm K
  | [], K, st, hp => by simpa using hp
  | (h, x) :: L, K, st, hp => by
    have hx : (h, x) ∈ st.slots.toList := hp.symm.subset (by simp)
    -- after the first despawn the store holds the rest
    have hrest : (st.despawn h).slots.toList.Perm (K ++ L) :=
      (List.perm_cons (h, x)).mp ((despawn_perm hx).trans (hp.trans List.perm_middle))
    rw [List.foldl_cons]
    exact foldl_despawn_perm hrest

@[simp] theorem foldl_despawn_fresh : ∀ (L : List (Nat × α)) (st : Store α),
    (L.foldl (fun st e => st.despawn e.1) st).fresh = st.fresh
  | [], _ => rfl
  | e :: L, st => (foldl_despawn_fresh L (st.despawn e.1)).trans despawn_fresh

/-- Despawning the marked entities of a list is despawning the list's marked part. -/
theorem foldl_despawn_marked : ∀ (E : List ((Nat × α) × Bool)) (st : Store α),
    E.foldl (fun st (e, t) => if t then st.despawn e.1 else st) st =
      ((E.filter (·.2)).map (·.1)).foldl (fun st e => st.despawn e.1) st
  | [], _ => rfl
  | (e, t) :: E, st => by
    cases t <;> simp [foldl_despawn_marked E]

end Change

end Store

namespace Index

variable {κ : Type} [BEq κ] [LawfulBEq κ] {ix : Index κ} {k : κ} {v : Nat}

theorem mem_iff : ix.mem k = true ↔ k ∈ ix.keys := by
  simp only [mem, find?, List.lookup_isSome_iff, keys, List.mem_map, beq_iff_eq]
  exact ⟨fun ⟨p, hp, he⟩ => ⟨p, hp, he.symm⟩, fun ⟨p, hp, he⟩ => ⟨p, hp, he.symm⟩⟩

theorem mem_of_find? (h : ix.find? k = some v) : (k, v) ∈ ix := by
  obtain ⟨l₁, l₂, rfl, -⟩ := List.lookup_eq_some_iff.mp h
  simp

/-- On keys of their own, a key finds the number it is stored with. -/
theorem find?_eq_some_iff (hn : ix.keys.Nodup) : ix.find? k = some v ↔ (k, v) ∈ ix := by
  refine ⟨mem_of_find?, fun hmem => ?_⟩
  obtain ⟨w, hw⟩ := Option.isSome_iff_exists.mp
    (List.lookup_isSome_iff.mpr ⟨(k, v), hmem, beq_self_eq_true k⟩)
  have := List.inj_on_of_nodup_map hn hmem (mem_of_find? hw) rfl
  rw [find?, hw, ← (Prod.mk.inj this).2]

/-- Erasing an absent key changes nothing. -/
theorem erase_of_not_mem (hk : k ∉ ix.keys) : ix.erase k = ix := by
  apply List.filter_eq_self.mpr
  intro e he
  have : e.1 ≠ k := fun h => hk (List.mem_map.mpr ⟨e, he, h⟩)
  simpa using this

/-- Inserting an absent key adds its entry. -/
theorem insert_of_not_mem (hk : k ∉ ix.keys) : ix.insert k v = (k, v) :: ix := by
  rw [insert, erase_of_not_mem hk]

/-- Erasing keys one after another keeps the entries of the other keys. -/
theorem foldl_erase : ∀ (L : List κ) (ix : Index κ),
    L.foldl Index.erase ix = ix.filter fun e => !L.contains e.1
  | [], ix => by simp
  | k :: L, ix => by
    rw [List.foldl_cons, foldl_erase L]
    simp only [erase, List.filter_filter, List.contains_cons, Bool.not_or]
    congr 1
    funext e
    rw [Bool.and_comm]

end Index

end DogCourier
