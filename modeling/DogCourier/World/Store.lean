/-! # Entity storage and indexes

    A store keeps the entities of one kind in storage order, each under a handle that
    is never reused: no two entities share a handle, and every handle lies below the next
    one to be issued. The store carries both facts, and each operation proves them where
    it builds its store (`spawn`, `modify`, `despawn`, and `zipValues`, which the phases of
    a tick use to replace every entity at once). Spawning appends. Despawning moves the
    last entity into the freed slot, so storage order is spawn order only until the first
    despawn; everything that walks a store in storage order (movement, retirement) sees
    this order.

    An index maps keys to numbers (dog ids to handles, names to dog ids). Inserting a
    key that is present replaces its entry, and erasing a key removes it whatever it
    maps to; an index is not kept in step with a store, and a lookup through a handle
    whose entity is gone finds nothing. -/

namespace DogCourier

/-- Entities of one kind in storage order, each with its handle, and the next handle. No
two entities share a handle, and every handle lies below the next one. -/
@[ext] structure Store (α : Type) where
  slots : Array (Nat × α)
  fresh : Nat
  nodup : (slots.toList.map (·.1)).Nodup
  lt_fresh : ∀ h ∈ slots.toList.map (·.1), h < fresh

namespace Store

variable {α β γ : Type}

/-! ## Handles of rebuilt storage -/

section Slots

variable {L : List (Nat × α)} {h : Nat} {x : α}

/-- A change that keeps every handle keeps the handles in order. -/
theorem map_fst_map_of_keep (g : Nat × α → Nat × β) (hg : ∀ e, (g e).1 = e.1) :
    (L.map g).map (·.1) = L.map (·.1) := by
  rw [List.map_map]
  exact List.map_congr_left fun e _ => hg e

/-- Pairing storage with values keeps a prefix of its handles. -/
theorem zip_handles_sublist : ∀ (L : List (Nat × α)) (ys : List β),
    ((L.zip ys).map (·.1.1)).Sublist (L.map (·.1))
  | [], _ => List.Sublist.slnil
  | _ :: _, [] => List.nil_sublist _
  | e :: L, _ :: ys => (zip_handles_sublist L ys).cons_cons e.1

/-- A handle of its own splits the storage around its entity. -/
theorem slots_split (hn : (L.map (·.1)).Nodup) (hx : (h, x) ∈ L) :
    ∃ pre post, L = pre ++ (h, x) :: post ∧
      (∀ e ∈ pre, e.1 ≠ h) ∧ (∀ e ∈ post, e.1 ≠ h) := by
  obtain ⟨pre, post, hsplit⟩ := List.append_of_mem hx
  have hn' : (pre.map (·.1) ++ h :: post.map (·.1)).Nodup := by
    rw [hsplit, List.map_append, List.map_cons] at hn
    exact hn
  obtain ⟨-, hpost, hacross⟩ := List.nodup_append.mp hn'
  refine ⟨pre, post, hsplit, ?_, ?_⟩
  · intro e he heq
    exact hacross e.1 (List.mem_map_of_mem he) h List.mem_cons_self heq
  · intro e he heq
    exact (List.nodup_cons.mp hpost).1 (heq ▸ List.mem_map_of_mem he)

theorem findIdx?_handle {post : List (Nat × α)} :
    ∀ {pre : List (Nat × α)}, (∀ e ∈ pre, e.1 ≠ h) →
      (pre ++ (h, x) :: post).findIdx? (fun e => e.1 == h) = some pre.length
  | [], _ => by simp [List.findIdx?_cons]
  | e :: pre, hpre => by
    have he : (e.1 == h) = false := by simpa using hpre e List.mem_cons_self
    simp [List.findIdx?_cons, he, findIdx?_handle (fun e' he' => hpre e' (List.mem_cons_of_mem _ he'))]

/-- The slots with the entity under handle `h` taken out, the last entity moved into its
slot; the slots themselves when no entity has handle `h`. -/
def removeSlot (slots : Array (Nat × α)) (h : Nat) : Array (Nat × α) :=
  match slots.findIdx? (fun e => e.1 == h), slots.back? with
  | some i, some last => (slots.set! i last).pop
  | _, _ => slots

variable {slots : Array (Nat × α)}

/-- Taking out a stored entity leaves exactly the others. -/
theorem removeSlot_perm (hn : (slots.toList.map (·.1)).Nodup) (hx : (h, x) ∈ slots.toList) :
    ((h, x) :: (removeSlot slots h).toList).Perm slots.toList := by
  obtain ⟨pre, post, hsplit, hpre, -⟩ := slots_split hn hx
  obtain ⟨slots⟩ := slots
  dsimp only at hsplit
  subst hsplit
  simp only [removeSlot, List.findIdx?_toArray, List.back?_toArray]
  rw [findIdx?_handle hpre]
  rcases List.eq_nil_or_concat post with rfl | ⟨post, z, rfl⟩
  · simpa using List.perm_append_singleton (h, x) pre |>.symm
  · rw [List.concat_eq_append]
    have hlast : (pre ++ (h, x) :: (post ++ [z])).getLast? = some z := by
      have hcat : pre ++ (h, x) :: (post ++ [z]) = (pre ++ (h, x) :: post) ++ [z] := by simp
      rw [hcat, List.getLast?_concat]
    have hset : (pre ++ (h, x) :: (post ++ [z])).set pre.length z = pre ++ z :: post ++ [z] := by
      simp [List.set_append_right]
    rw [hlast]
    simp only [hset, Array.toList_pop, Array.toList_set!, List.dropLast_concat]
    -- the last entity now stands where `(h, x)` stood
    exact ((List.perm_append_singleton z post).symm.append_left pre |>.cons (h, x)).trans
      List.perm_middle.symm

/-- Taking out a handle that is not stored changes nothing. -/
theorem removeSlot_of_not_mem (hh : h ∉ slots.toList.map (·.1)) : removeSlot slots h = slots := by
  have hnone : slots.findIdx? (fun e => e.1 == h) = none := by
    simp only [Array.findIdx?_eq_none_iff]
    intro e he
    simp only [beq_eq_false_iff_ne, ne_eq]
    intro heq
    exact hh (List.mem_map.mpr ⟨e, Array.mem_toList_iff.mpr he, heq⟩)
  simp [removeSlot, hnone]

/-- The handles left after taking one out are handles of their own, of the storage before. -/
theorem removeSlot_handles (hn : (slots.toList.map (·.1)).Nodup) :
    ((removeSlot slots h).toList.map (·.1)).Nodup ∧
      ∀ k ∈ (removeSlot slots h).toList.map (·.1), k ∈ slots.toList.map (·.1) := by
  by_cases hh : h ∈ slots.toList.map (·.1)
  · obtain ⟨e, he, rfl⟩ := List.mem_map.mp hh
    have hp := (removeSlot_perm hn he).map (·.1)
    rw [List.map_cons] at hp
    exact ⟨(List.nodup_cons.mp (hp.nodup_iff.mpr hn)).2,
      fun k hk => hp.subset (List.mem_cons_of_mem _ hk)⟩
  · rw [removeSlot_of_not_mem hh]
    exact ⟨hn, fun _ hk => hk⟩

end Slots

/-! ## Operations -/

/-- The empty store. -/
def empty : Store α where
  slots := #[]
  fresh := 0
  nodup := List.nodup_nil
  lt_fresh := fun _ h => absurd h List.not_mem_nil

instance : Inhabited (Store α) := ⟨empty⟩

/-- The handles in storage order. -/
def handles (st : Store α) : List Nat := st.slots.toList.map (·.1)

/-- Spawning appends under the next handle, which no entity has. -/
theorem push_handles (st : Store α) (x : α) :
    ((st.slots.push (st.fresh, x)).toList.map (·.1)).Nodup ∧
      ∀ h ∈ (st.slots.push (st.fresh, x)).toList.map (·.1), h < st.fresh + 1 := by
  rw [Array.toList_push, List.map_append, List.map_cons, List.map_nil]
  refine ⟨List.nodup_append.mpr ⟨st.nodup, List.nodup_cons.mpr ⟨List.not_mem_nil, List.nodup_nil⟩, ?_⟩,
    fun h hm => ?_⟩
  · have hk : st.fresh ∉ st.slots.toList.map (·.1) := fun hm => Nat.lt_irrefl _ (st.lt_fresh _ hm)
    intro a ha b hb hab
    rw [List.mem_singleton] at hb
    rw [hab, hb] at ha
    exact hk ha
  · rcases List.mem_append.mp hm with hm | hm
    · exact Nat.lt_succ_of_lt (st.lt_fresh h hm)
    · rw [List.mem_singleton.mp hm]
      exact Nat.lt_succ_self _

/-- Appends an entity and returns its handle. -/
def spawn (st : Store α) (x : α) : Store α × Nat :=
  (⟨st.slots.push (st.fresh, x), st.fresh + 1, (push_handles st x).1, (push_handles st x).2⟩,
    st.fresh)

/-- The entity with handle `h`, if it is present. -/
def get? (st : Store α) (h : Nat) : Option α := (st.slots.find? fun e => e.1 == h).map (·.2)

/-- Whether the entity with handle `h` is present. -/
def has (st : Store α) (h : Nat) : Bool := st.slots.any fun e => e.1 == h

/-- Changing the entity with handle `h` keeps every handle. -/
theorem modify_keeps (st : Store α) (h : Nat) (f : α → α) :
    (st.slots.map fun e => if e.1 == h then (e.1, f e.2) else e).toList.map (·.1) =
      st.slots.toList.map (·.1) := by
  rw [Array.toList_map]
  exact map_fst_map_of_keep _ fun e => by
    show (if e.1 == h then (e.1, f e.2) else e).1 = e.1
    cases e.1 == h <;> rfl

/-- Changes the entity with handle `h`; nothing happens if it is absent. -/
def modify (st : Store α) (h : Nat) (f : α → α) : Store α where
  slots := st.slots.map fun e => if e.1 == h then (e.1, f e.2) else e
  fresh := st.fresh
  nodup := (modify_keeps st h f).symm ▸ st.nodup
  lt_fresh := (modify_keeps st h f).symm ▸ st.lt_fresh

/-- Removes the entity with handle `h`, moving the last entity into its slot. -/
def despawn (st : Store α) (h : Nat) : Store α where
  slots := removeSlot st.slots h
  fresh := st.fresh
  nodup := (removeSlot_handles st.nodup).1
  lt_fresh := fun k hk => st.lt_fresh k ((removeSlot_handles st.nodup).2 k hk)

/-- Pairing keeps the handles it pairs. -/
theorem zip_handles (st : Store α) (ys : List β) (f : α → β → γ) :
    ((st.slots.toList.zip ys).map fun p => (p.1.1, f p.1.2 p.2)).toArray.toList.map (·.1) =
      (st.slots.toList.zip ys).map (·.1.1) := by
  rw [List.toList_toArray, List.map_map]
  rfl

/-- Each entity replaced by `f` of it and the value of `ys` at its place, under the same
handle; entities past the end of `ys` are left out. -/
def zipValues (st : Store α) (ys : List β) (f : α → β → γ) : Store γ where
  slots := ((st.slots.toList.zip ys).map fun p => (p.1.1, f p.1.2 p.2)).toArray
  fresh := st.fresh
  nodup := (zip_handles st ys f).symm ▸ (zip_handles_sublist _ ys).nodup st.nodup
  lt_fresh := fun k hk =>
    st.lt_fresh k ((zip_handles_sublist _ ys).subset ((zip_handles st ys f) ▸ hk))

/-- The entities in storage order. -/
def items (st : Store α) : List α := st.slots.toList.map (·.2)

/-- The number of entities. -/
def size (st : Store α) : Nat := st.slots.size

end Store

/-- Keys mapped to numbers; a key occurs at most once. -/
abbrev Index (κ : Type) := List (κ × Nat)

namespace Index

variable {κ : Type} [BEq κ]

/-- The number a key maps to. -/
def find? (ix : Index κ) (k : κ) : Option Nat := List.lookup k ix

/-- Whether a key is present. -/
def mem (ix : Index κ) (k : κ) : Bool := (find? ix k).isSome

/-- Removes a key. -/
def erase (ix : Index κ) (k : κ) : Index κ := ix.filter fun e => !(e.1 == k)

/-- Maps `k` to `v`, replacing any entry of `k`. -/
def insert (ix : Index κ) (k : κ) (v : Nat) : Index κ := (k, v) :: erase ix k

/-- The keys. -/
def keys (ix : Index κ) : List κ := ix.map (·.1)

end Index

end DogCourier
