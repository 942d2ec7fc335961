import Mathlib
import DogCourier.Session.Tick
import DogCourier.Proofs.World.Store

/-! # Gathering moves loot and only moves it

    A gathering event does one of two deeds, or nothing: a dog puts a free item in its
    bag, or it empties its bag at an office. `deed` reads the deed off the state the
    event meets and `collect_eq` says the event does exactly that deed; replaying the
    events keeps the log of their deeds (`deeds`). Against that log the phase balances,
    for any events whatever:

    * the free items left untaken and the items picked up are the free items
      (`run_untaken`);
    * the bags lose what was delivered and gain what was picked up (`run_bags`);
    * the report counts the log (`run_report`), and each dog's score rises by the value
      of what it delivered (`run_score`). -/

namespace DogCourier

namespace Session

/-- The dogs, the taken marks of the free loot and the report, as gathering carries them
from event to event. -/
abbrev Gathering := Store Dog × List Bool × GatherReport

/-- What a gathering event does. -/
inductive Deed where
  /-- The dog under handle `dog` puts `item`, the free item in slot `slot`, in its bag. -/
  | pickUp (dog slot : Nat) (item : Loot)
  /-- The dog under handle `dog` empties its bag, `bag`, at an office. -/
  | deliver (dog : Nat) (bag : List Loot)

namespace Deed

/-- The item a deed puts in a bag. -/
def picked : Deed → List Loot
  | pickUp _ _ l => [l]
  | deliver _ _ => []

/-- The items a deed delivers. -/
def delivered : Deed → List Loot
  | pickUp _ _ _ => []
  | deliver _ bag => bag

/-- The items a deed delivers for the dog under handle `h`. -/
def deliveredBy (h : Nat) : Deed → List Loot
  | pickUp _ _ _ => []
  | deliver h' bag => if h' = h then bag else []

/-- Doing a deed. -/
def perform (m : Map) : Deed → Gathering → Gathering
  | pickUp h i l, (store, taken, rep) =>
    (store.modify h (fun d => { d with bag := d.bag ++ [l] }), taken.set i true,
      { rep with pickedUp := rep.pickedUp + 1 })
  | deliver h bag, (store, taken, rep) =>
    (store.modify h (fun d => { d with score := d.score + bagValue m bag, bag := [] }), taken,
      { rep with delivered := rep.delivered + bag.length, points := rep.points + bagValue m bag })

end Deed

section Events

variable (m : Map) (dogs : List (Nat × Dog)) (loot : List (Nat × Loot))

/-- The deed an event does in the state it meets, if any. -/
def deed (acc : Gathering) (ev : Event) : Option Deed :=
  if !ev.collected then none
  else match dogs[ev.gatherer]? with
    | none => none
    | some (h, _) =>
      match acc.1.get? h with
      | none => none
      | some d =>
        match loot[ev.item]? with
        | some (_, l) =>
          if acc.2.1.getD ev.item false || d.bag.length ≥ m.bagCapacity then none
          else some (.pickUp h ev.item l)
        | none => if d.bag.isEmpty then none else some (.deliver h d.bag)

/-- An event does its deed and nothing else. -/
theorem collect_eq (acc : Gathering) (ev : Event) :
    collect m dogs loot acc ev = ((deed m dogs loot acc ev).map (·.perform m acc)).getD acc := by
  obtain ⟨store, taken, rep⟩ := acc
  unfold collect deed
  by_cases hc : ev.collected
  · simp only [hc, Bool.not_true]
    rcases dogs[ev.gatherer]? with _ | ⟨h, _⟩
    · rfl
    · dsimp only
      rcases store.get? h with _ | d
      · rfl
      · dsimp only
        rcases loot[ev.item]? with _ | ⟨_, l⟩
        · by_cases he : d.bag.isEmpty <;> simp [he, Deed.perform]
        · cases taken.getD ev.item false <;>
            by_cases hcap : d.bag.length ≥ m.bagCapacity <;> simp [hcap, Deed.perform]
  · simp [hc]

/-- The log of the deeds of a run of events, in order. -/
def deeds : Gathering → List Event → List Deed
  | _, [] => []
  | acc, ev :: evs => (deed m dogs loot acc ev).toList ++ deeds (collect m dogs loot acc ev) evs

variable {m dogs loot}

/-- A dog picks up only a free item not yet taken, while its bag has room. -/
theorem deed_pickUp {acc : Gathering} {ev : Event} {h i : Nat} {l : Loot}
    (hd : deed m dogs loot acc ev = some (.pickUp h i l)) :
    ∃ d, acc.1.get? h = some d ∧ d.bag.length < m.bagCapacity ∧
      acc.2.1.getD i false = false ∧ ∃ hl, loot[i]? = some (hl, l) := by
  unfold deed at hd
  split at hd
  · cases hd
  · split at hd
    · cases hd
    · rename_i h' _ _
      split at hd
      · cases hd
      · rename_i d hget
        split at hd
        · rename_i hl' l' hitem
          split at hd
          · cases hd
          · rename_i hfree
            simp only [Option.some.injEq, Deed.pickUp.injEq] at hd
            obtain ⟨rfl, rfl, rfl⟩ := hd
            simp only [Bool.or_eq_true, decide_eq_true_eq, not_or, Bool.not_eq_true] at hfree
            exact ⟨d, hget, by omega, hfree.1, hl', hitem⟩
        · split at hd <;> cases hd

/-- A dog delivers only its whole bag, and only a bag that holds something. -/
theorem deed_deliver {acc : Gathering} {ev : Event} {h : Nat} {bag : List Loot}
    (hd : deed m dogs loot acc ev = some (.deliver h bag)) :
    ∃ d, acc.1.get? h = some d ∧ d.bag = bag ∧ bag ≠ [] := by
  unfold deed at hd
  split at hd
  · cases hd
  · split at hd
    · cases hd
    · split at hd
      · cases hd
      · rename_i d hget
        split at hd
        · split at hd <;> cases hd
        · split at hd
          · cases hd
          · rename_i hne
            simp only [Option.some.injEq, Deed.deliver.injEq] at hd
            obtain ⟨rfl, rfl⟩ := hd
            exact ⟨d, hget, rfl, by simpa using hne⟩

end Events

/-- The loot in the bags, in storage order. -/
def bags (st : Store Dog) : List Loot := st.items.flatMap (·.bag)

/-- Where the dogs of a store stand, with their handles, ids and names: what gathering
never changes. -/
def places (st : Store Dog) : List (Nat × Nat × String × Point × Point) :=
  st.slots.toList.map fun e => (e.1, e.2.id, e.2.name, e.2.position, e.2.previous)

/-- The free items whose marks are not set, with their handles. -/
def untaken (loot : List (Nat × Loot)) (taken : List Bool) : List (Nat × Loot) :=
  ((loot.zip taken).filter fun p => !p.2).map (·.1)

theorem bagValue_eq_sum (m : Map) (bag : List Loot) :
    bagValue m bag = (bag.map fun l => m.lootValue l.kind).sum := rfl

theorem bagValue_append (m : Map) (a b : List Loot) :
    bagValue m (a ++ b) = bagValue m a + bagValue m b := by
  simp [bagValue_eq_sum]

@[simp] theorem bagValue_nil (m : Map) : bagValue m [] = 0 := rfl

theorem untaken_replicate : ∀ loot : List (Nat × Loot),
    untaken loot (List.replicate loot.length false) = loot
  | [] => rfl
  | e :: loot => by
    simpa [untaken, List.replicate_succ] using untaken_replicate loot

/-- Setting the mark of an untaken item takes exactly that item out. -/
theorem untaken_set : ∀ {loot : List (Nat × Loot)} {taken : List Bool} {i : Nat} {e : Nat × Loot},
    taken.length = loot.length → loot[i]? = some e → taken.getD i false = false →
    (e :: untaken loot (taken.set i true)).Perm (untaken loot taken)
  | [], _, _, _, _, he, _ => by simp at he
  | _ :: _, [], _, _, hlen, _, _ => by simp at hlen
  | e' :: loot, t :: taken, 0, e, _, he, ht => by
    simp only [List.getElem?_cons_zero, Option.some.injEq] at he
    simp only [List.getD_cons_zero] at ht
    subst he ht
    simp [untaken]
  | e' :: loot, t :: taken, i + 1, e, hlen, he, ht => by
    have ih : (e :: untaken loot (taken.set i true)).Perm (untaken loot taken) :=
      untaken_set (by simpa using hlen) (by simpa using he) (by simpa using ht)
    cases t
    · simp only [untaken, List.set_cons_succ, List.zip_cons_cons, List.filter_cons,
        Bool.not_false, ite_true, List.map_cons] at ih ⊢
      exact (List.Perm.swap e' e _).trans (ih.cons e')
    · simpa [untaken] using ih

section Step

variable {m : Map} {dogs : List (Nat × Dog)} {loot : List (Nat × Loot)}
variable {acc : Gathering} {ev : Event}

theorem perform_handles (dd : Deed) : (dd.perform m acc).1.handles = acc.1.handles := by
  obtain ⟨store, taken, rep⟩ := acc
  cases dd <;> simp [Deed.perform]

theorem perform_length (dd : Deed) : (dd.perform m acc).2.1.length = acc.2.1.length := by
  obtain ⟨store, taken, rep⟩ := acc
  cases dd <;> simp [Deed.perform]

/-- A deed changes nothing of a dog but its score and its bag. -/
theorem perform_frame {β : Type} (f : Dog → β)
    (hf : ∀ (d : Dog) sc b, f { d with score := sc, bag := b } = f d) (dd : Deed) :
    (dd.perform m acc).1.slots.toList.map (fun e => (e.1, f e.2)) =
      acc.1.slots.toList.map fun e => (e.1, f e.2) := by
  obtain ⟨store, taken, rep⟩ := acc
  -- either deed modifies one dog's score and bag only
  cases dd with
  | pickUp h i l =>
    simp only [Deed.perform, Store.modify_slots, List.map_map]
    apply List.map_congr_left
    intro e _
    by_cases he : e.1 = h <;> simp [he, hf _ _ (_ ++ [l])]
  | deliver h bag =>
    simp only [Deed.perform, Store.modify_slots, List.map_map]
    apply List.map_congr_left
    intro e _
    by_cases he : e.1 = h <;> simp [he, hf]

theorem perform_fresh (dd : Deed) : (dd.perform m acc).1.fresh = acc.1.fresh := by
  obtain ⟨store, taken, rep⟩ := acc
  cases dd <;> rfl

/-- A deed fills no bag beyond the capacity: a dog picks up only while its bag has room. -/
theorem perform_fits {dd : Deed} (hd : deed m dogs loot acc ev = some dd)
    (hfit : ∀ d ∈ acc.1.items, d.bag.length ≤ m.bagCapacity) :
    ∀ d ∈ (dd.perform m acc).1.items, d.bag.length ≤ m.bagCapacity := by
  obtain ⟨store, taken, rep⟩ := acc
  cases dd with
  | pickUp h i l =>
    obtain ⟨d₀, hget, hroom, -⟩ := deed_pickUp hd
    intro d hd'
    rw [Deed.perform, Store.items_modify] at hd'
    obtain ⟨e, he, rfl⟩ := List.mem_map.mp hd'
    by_cases he1 : e.1 = h
    · -- the dog under `h` is the one whose bag had room
      have : e = (h, d₀) := List.inj_on_of_nodup_map store.nodup he (Store.mem_of_get?_eq_some hget) he1
      subst this
      simp only [beq_self_eq_true, ite_true, List.length_append, List.length_singleton]
      exact hroom
    · simpa [he1] using hfit e.2 (List.mem_map_of_mem he)
  | deliver h bag =>
    intro d hd'
    rw [Deed.perform, Store.items_modify] at hd'
    obtain ⟨e, he, rfl⟩ := List.mem_map.mp hd'
    by_cases he1 : e.1 = h
    · simp [he1]
    · simpa [he1] using hfit e.2 (List.mem_map_of_mem he)

/-- A deed counts itself in the report. -/
theorem perform_report (dd : Deed) :
    (dd.perform m acc).2.2 =
      { pickedUp := acc.2.2.pickedUp + dd.picked.length
        delivered := acc.2.2.delivered + dd.delivered.length
        points := acc.2.2.points + bagValue m dd.delivered } := by
  obtain ⟨store, taken, rep⟩ := acc
  cases dd <;> simp [Deed.perform, Deed.picked, Deed.delivered]

/-- A deed moves its items between the bags and the office. -/
theorem perform_bags {dd : Deed} (hd : deed m dogs loot acc ev = some dd) :
    (bags (dd.perform m acc).1 : Multiset Loot) + dd.delivered = bags acc.1 + dd.picked := by
  obtain ⟨store, taken, rep⟩ := acc
  cases dd with
  | pickUp h i l =>
    obtain ⟨d, hget, -⟩ := deed_pickUp hd
    have hp := Multiset.coe_eq_coe.mpr
      (store.flatMap_modify_perm (fun d => { d with bag := d.bag ++ [l] }) Dog.bag hget)
    simp only [← Multiset.coe_add] at hp
    -- the picked item joins the bag it went into; cancel that bag on both sides
    have hmoved : (bags (store.modify h fun d => { d with bag := d.bag ++ [l] }) : Multiset Loot) + d.bag =
        (bags store + [l]) + d.bag := by
      rw [bags, bags, hp]
      abel
    simpa [Deed.perform, Deed.delivered, Deed.picked] using add_right_cancel hmoved
  | deliver h bag =>
    obtain ⟨d, hget, rfl, -⟩ := deed_deliver hd
    have hp := Multiset.coe_eq_coe.mpr
      (store.flatMap_modify_perm (fun e => { e with score := e.score + bagValue m d.bag, bag := [] })
        Dog.bag hget)
    simpa [Deed.perform, Deed.delivered, Deed.picked, bags] using hp

/-- A pickup takes its item off the free loot. -/
theorem perform_untaken {dd : Deed} (hlen : acc.2.1.length = loot.length)
    (hd : deed m dogs loot acc ev = some dd) :
    (((untaken loot (dd.perform m acc).2.1).map (·.2) : List Loot) : Multiset Loot) + dd.picked =
      (untaken loot acc.2.1).map (·.2) := by
  obtain ⟨store, taken, rep⟩ := acc
  cases dd with
  | pickUp h i l =>
    obtain ⟨d, -, -, hfree, hl, hitem⟩ := deed_pickUp hd
    have hp := (untaken_set hlen hitem hfree).map (·.2)
    rw [← Multiset.coe_eq_coe] at hp
    simpa [Deed.perform, Deed.picked, add_comm] using hp
  | deliver h bag => simp [Deed.perform, Deed.picked]

/-- A deed raises only its own dog's score, by the value of what that dog delivered. -/
theorem perform_score {dd : Deed} {h : Nat} {d : Dog} (hd : deed m dogs loot acc ev = some dd)
    (hget : acc.1.get? h = some d) :
    ∃ d', (dd.perform m acc).1.get? h = some d' ∧
      d'.score = d.score + bagValue m (dd.deliveredBy h) ∧ d'.id = d.id ∧ d'.name = d.name := by
  obtain ⟨store, taken, rep⟩ := acc
  cases dd with
  | pickUp h₀ i l =>
    by_cases hh : h = h₀
    · subst hh
      exact ⟨_, Store.get?_modify_self _ hget, by simp [Deed.deliveredBy], rfl, rfl⟩
    · exact ⟨d, (Store.get?_modify_of_ne _ hh).trans hget, by simp [Deed.deliveredBy], rfl, rfl⟩
  | deliver h₀ bag =>
    obtain ⟨d₀, hget₀, rfl, -⟩ := deed_deliver hd
    by_cases hh : h = h₀
    · subst hh
      obtain rfl : d = d₀ := Option.some.inj (hget.symm.trans hget₀)
      exact ⟨_, Store.get?_modify_self _ hget, by simp [Deed.deliveredBy], rfl, rfl⟩
    · exact ⟨d, (Store.get?_modify_of_ne _ hh).trans hget,
        by simp [Deed.deliveredBy, Ne.symm hh], rfl, rfl⟩

end Step

section Run

variable (m : Map) (dogs : List (Nat × Dog)) (loot : List (Nat × Loot))

section Keeps

variable {β : Type} (get : Gathering → β)

/-- What every deed keeps of a gathering, collecting an event keeps. -/
theorem collect_keeps (hp : ∀ (dd : Deed) (acc : Gathering), get (dd.perform m acc) = get acc)
    (acc : Gathering) (ev : Event) : get (collect m dogs loot acc ev) = get acc := by
  rw [collect_eq]
  cases deed m dogs loot acc ev with
  | none => rfl
  | some dd => exact hp dd acc

/-- What collecting an event keeps, a run of events keeps. -/
theorem run_keeps (hc : ∀ acc ev, get (collect m dogs loot acc ev) = get acc) :
    ∀ (acc : Gathering) (evs : List Event), get (evs.foldl (collect m dogs loot) acc) = get acc
  | _, [] => rfl
  | acc, ev :: evs => (run_keeps hc _ evs).trans (hc acc ev)

end Keeps

variable (acc : Gathering) (ev : Event)

theorem collect_handles : (collect m dogs loot acc ev).1.handles = acc.1.handles :=
  collect_keeps m dogs loot (·.1.handles) (fun dd _ => perform_handles dd) acc ev

theorem collect_length : (collect m dogs loot acc ev).2.1.length = acc.2.1.length :=
  collect_keeps m dogs loot (·.2.1.length) (fun dd _ => perform_length dd) acc ev

theorem collect_frame {β : Type} (f : Dog → β)
    (hf : ∀ (d : Dog) sc b, f { d with score := sc, bag := b } = f d) :
    (collect m dogs loot acc ev).1.slots.toList.map (fun e => (e.1, f e.2)) =
      acc.1.slots.toList.map fun e => (e.1, f e.2) :=
  collect_keeps m dogs loot (·.1.slots.toList.map fun e => (e.1, f e.2))
    (fun dd _ => perform_frame f hf dd) acc ev

theorem collect_fresh : (collect m dogs loot acc ev).1.fresh = acc.1.fresh :=
  collect_keeps m dogs loot (·.1.fresh) (fun dd _ => perform_fresh dd) acc ev

theorem collect_fits
    (hfit : ∀ d ∈ acc.1.items, d.bag.length ≤ m.bagCapacity) :
    ∀ d ∈ (collect m dogs loot acc ev).1.items, d.bag.length ≤ m.bagCapacity := by
  rw [collect_eq]
  cases hd : deed m dogs loot acc ev with
  | none => exact hfit
  | some dd => exact perform_fits hd hfit

theorem collect_report :
    (collect m dogs loot acc ev).2.2 =
      { pickedUp := acc.2.2.pickedUp + ((deed m dogs loot acc ev).toList.flatMap Deed.picked).length
        delivered := acc.2.2.delivered + ((deed m dogs loot acc ev).toList.flatMap Deed.delivered).length
        points := acc.2.2.points + bagValue m ((deed m dogs loot acc ev).toList.flatMap Deed.delivered) } := by
  rw [collect_eq]
  cases deed m dogs loot acc ev with
  | none => rfl
  | some dd => simpa using perform_report dd

theorem collect_bags :
    (bags (collect m dogs loot acc ev).1 : Multiset Loot) +
        ((deed m dogs loot acc ev).toList.flatMap Deed.delivered : List Loot) =
      bags acc.1 + ((deed m dogs loot acc ev).toList.flatMap Deed.picked : List Loot) := by
  rw [collect_eq]
  cases hd : deed m dogs loot acc ev with
  | none => simp
  | some dd => simpa using perform_bags hd

theorem collect_untaken (hlen : acc.2.1.length = loot.length) :
    (((untaken loot (collect m dogs loot acc ev).2.1).map (·.2) : List Loot) : Multiset Loot) +
        ((deed m dogs loot acc ev).toList.flatMap Deed.picked : List Loot) =
      (untaken loot acc.2.1).map (·.2) := by
  rw [collect_eq]
  cases hd : deed m dogs loot acc ev with
  | none => simp
  | some dd => simpa using perform_untaken hlen hd

theorem collect_score {h : Nat} {d : Dog} (hget : acc.1.get? h = some d) :
    ∃ d', (collect m dogs loot acc ev).1.get? h = some d' ∧
      d'.score = d.score + bagValue m ((deed m dogs loot acc ev).toList.flatMap (Deed.deliveredBy h)) ∧
      d'.id = d.id ∧ d'.name = d.name := by
  rw [collect_eq]
  cases hd : deed m dogs loot acc ev with
  | none => exact ⟨d, hget, by simp, rfl, rfl⟩
  | some dd => simpa using perform_score hd hget

theorem run_handles : ∀ (acc : Gathering) (evs : List Event),
    (evs.foldl (collect m dogs loot) acc).1.handles = acc.1.handles :=
  run_keeps m dogs loot (·.1.handles) (collect_handles m dogs loot)

theorem run_length : ∀ (acc : Gathering) (evs : List Event),
    (evs.foldl (collect m dogs loot) acc).2.1.length = acc.2.1.length :=
  run_keeps m dogs loot (·.2.1.length) (collect_length m dogs loot)

theorem run_frame {β : Type} (f : Dog → β)
    (hf : ∀ (d : Dog) sc b, f { d with score := sc, bag := b } = f d) :
    ∀ (acc : Gathering) (evs : List Event),
      (evs.foldl (collect m dogs loot) acc).1.slots.toList.map (fun e => (e.1, f e.2)) =
        acc.1.slots.toList.map fun e => (e.1, f e.2) :=
  run_keeps m dogs loot (·.1.slots.toList.map fun e => (e.1, f e.2))
    fun acc ev => collect_frame m dogs loot acc ev f hf

theorem run_fresh : ∀ (acc : Gathering) (evs : List Event),
    (evs.foldl (collect m dogs loot) acc).1.fresh = acc.1.fresh :=
  run_keeps m dogs loot (·.1.fresh) (collect_fresh m dogs loot)

/-- No run of events fills a bag beyond the capacity. -/
theorem run_fits : ∀ (acc : Gathering) (evs : List Event),
    (∀ d ∈ acc.1.items, d.bag.length ≤ m.bagCapacity) →
    ∀ d ∈ (evs.foldl (collect m dogs loot) acc).1.items, d.bag.length ≤ m.bagCapacity
  | _, [], hfit => hfit
  | acc, ev :: evs, hfit => run_fits _ evs (collect_fits m dogs loot acc ev hfit)

/-- The report of a run counts the items its deeds picked up and delivered. -/
theorem run_report : ∀ (acc : Gathering) (evs : List Event),
    (evs.foldl (collect m dogs loot) acc).2.2 =
      { pickedUp := acc.2.2.pickedUp + ((deeds m dogs loot acc evs).flatMap Deed.picked).length
        delivered := acc.2.2.delivered + ((deeds m dogs loot acc evs).flatMap Deed.delivered).length
        points := acc.2.2.points + bagValue m ((deeds m dogs loot acc evs).flatMap Deed.delivered) }
  | acc, [] => by simp [deeds]
  | acc, ev :: evs => by
    rw [List.foldl_cons, run_report _ evs, collect_report m dogs loot acc ev]
    simp [deeds, List.flatMap_append, bagValue_append, Nat.add_assoc]

/-- Over a run the bags lose what its deeds delivered and gain what they picked up. -/
theorem run_bags : ∀ (acc : Gathering) (evs : List Event),
    (bags (evs.foldl (collect m dogs loot) acc).1 : Multiset Loot) +
        ((deeds m dogs loot acc evs).flatMap Deed.delivered : List Loot) =
      bags acc.1 + ((deeds m dogs loot acc evs).flatMap Deed.picked : List Loot)
  | acc, [] => by simp [deeds]
  | acc, ev :: evs => by
    have ih := run_bags (collect m dogs loot acc ev) evs
    have hstep := collect_bags m dogs loot acc ev
    -- count every item: the first event and the rest of the run add up
    classical
    ext a
    have h₁ := congrArg (Multiset.count a) ih
    have h₂ := congrArg (Multiset.count a) hstep
    simp only [List.foldl_cons, deeds, List.flatMap_append, ← Multiset.coe_add,
      Multiset.count_add] at h₁ h₂ ⊢
    omega

/-- Over a run the free items not taken and the items picked up are the free items. -/
theorem run_untaken : ∀ (acc : Gathering) (evs : List Event), acc.2.1.length = loot.length →
    (((untaken loot (evs.foldl (collect m dogs loot) acc).2.1).map (·.2) : List Loot) : Multiset Loot) +
        ((deeds m dogs loot acc evs).flatMap Deed.picked : List Loot) =
      (untaken loot acc.2.1).map (·.2)
  | acc, [], _ => by simp [deeds]
  | acc, ev :: evs, hlen => by
    have ih := run_untaken (collect m dogs loot acc ev) evs (by rwa [collect_length])
    have hstep := collect_untaken m dogs loot acc ev hlen
    classical
    ext a
    have h₁ := congrArg (Multiset.count a) ih
    have h₂ := congrArg (Multiset.count a) hstep
    simp only [List.foldl_cons, deeds, List.flatMap_append, ← Multiset.coe_add,
      Multiset.count_add] at h₁ h₂ ⊢
    omega

/-- Over a run each dog's score rises by the value of what it delivered. -/
theorem run_score : ∀ (acc : Gathering) (evs : List Event) {h : Nat} {d : Dog}, acc.1.get? h = some d →
      ∃ d', (evs.foldl (collect m dogs loot) acc).1.get? h = some d' ∧
        d'.score = d.score + bagValue m ((deeds m dogs loot acc evs).flatMap (Deed.deliveredBy h)) ∧
        d'.id = d.id ∧ d'.name = d.name
  | acc, [], _, d, hget => ⟨d, hget, by simp [deeds], rfl, rfl⟩
  | acc, ev :: evs, h, d, hget => by
    obtain ⟨d₁, hget₁, hscore₁, hid₁, hname₁⟩ := collect_score m dogs loot acc ev hget
    obtain ⟨d', hget', hscore', hid', hname'⟩ := run_score (collect m dogs loot acc ev) evs hget₁
    refine ⟨d', hget', ?_, hid'.trans hid₁, hname'.trans hname₁⟩
    rw [hscore', hscore₁]
    simp [deeds, List.flatMap_append, bagValue_append, Nat.add_assoc]

/-- Every delivery of a run is made by a dog of the store. -/
theorem run_deliver_mem : ∀ (acc : Gathering) (evs : List Event) {h : Nat} {bag : List Loot},
    Deed.deliver h bag ∈ deeds m dogs loot acc evs → h ∈ acc.1.handles
  | _, [], _, _, hmem => by simp [deeds] at hmem
  | acc, ev :: evs, h, bag, hmem => by
    simp only [deeds, List.mem_append, Option.mem_toList] at hmem
    rcases hmem with hd | hrest
    · obtain ⟨d, hget, -, -⟩ := deed_deliver hd
      exact List.mem_map.mpr ⟨(h, d), Store.mem_of_get?_eq_some hget, rfl⟩
    · rw [← collect_handles m dogs loot acc ev]
      exact run_deliver_mem _ evs hrest

end Run

section Phase

variable (s : Session)

/-- The dogs, the marks and the report at the end of a session's gathering events. -/
def gatherRun : Gathering :=
  s.gatherEvents.foldl (collect s.map s.dogsById s.lootById)
    (s.dogs, List.replicate s.lootById.length false, {})

/-- The log of a session's gathering phase. -/
def gatherDeeds : List Deed :=
  deeds s.map s.dogsById s.lootById (s.dogs, List.replicate s.lootById.length false, {}) s.gatherEvents

/-- The items the gathering phase puts in bags. -/
def pickedLoot : List Loot := s.gatherDeeds.flatMap Deed.picked

/-- The items the gathering phase delivers at offices. -/
def deliveredLoot : List Loot := s.gatherDeeds.flatMap Deed.delivered

/-- The items the gathering phase delivers for the dog under handle `h`. -/
def deliveredBy (h : Nat) : List Loot := s.gatherDeeds.flatMap (Deed.deliveredBy h)

theorem lootById_perm : s.lootById.Perm s.loot.slots.toList := List.mergeSort_perm _ _

/-- Dogs stored in id order are met in the order they are stored. -/
theorem dogsById_of_pairwise (h : s.dogs.slots.toList.Pairwise fun a b => a.2.id ≤ b.2.id) :
    s.dogsById = s.dogs.slots.toList :=
  List.mergeSort_of_pairwise (by simpa using h)

/-- Free loot stored in id order is met in the order it is stored. -/
theorem lootById_of_pairwise (h : s.loot.slots.toList.Pairwise fun a b => a.2.id ≤ b.2.id) :
    s.lootById = s.loot.slots.toList :=
  List.mergeSort_of_pairwise (by simpa using h)

theorem gatherRun_length : s.gatherRun.2.1.length = s.lootById.length := by
  have hrun := run_length s.map s.dogsById s.lootById
    (s.dogs, List.replicate s.lootById.length false, {}) s.gatherEvents
  rw [List.length_replicate] at hrun
  exact hrun

@[simp] theorem gather_dogs_handles : s.gather.1.dogs.handles = s.dogs.handles :=
  run_handles s.map s.dogsById s.lootById _ s.gatherEvents

/-- Gathering despawns the items marked taken, and only those. -/
theorem gather_loot_eq : s.gather.1.loot =
    (((s.lootById.zip s.gatherRun.2.1).filter (·.2)).map (·.1)).foldl
      (fun st e => st.despawn e.1) s.loot :=
  Store.foldl_despawn_marked _ _

/-- The free loot after gathering is the loot left untaken. -/
theorem gather_loot_perm :
    s.gather.1.loot.slots.toList.Perm (untaken s.lootById s.gatherRun.2.1) := by
  have hlen := s.gatherRun_length
  rw [gather_loot_eq]
  apply Store.foldl_despawn_perm
  -- the free loot splits into the untaken items and the taken ones
  have hle : s.lootById.length ≤ s.gatherRun.2.1.length := by omega
  have hsplit : (s.lootById.zip s.gatherRun.2.1).Perm
      ((s.lootById.zip s.gatherRun.2.1).filter (fun p => !p.2) ++
        (s.lootById.zip s.gatherRun.2.1).filter (·.2)) := by
    simpa using (List.filter_append_perm (fun p : (Nat × Loot) × Bool => !p.2) _).symm
  have hfst := hsplit.map (·.1)
  rw [List.map_append, List.map_fst_zip hle] at hfst
  exact s.lootById_perm.symm.trans hfst

/-- Gathering changes nothing of a dog but its score and its bag. -/
theorem gather_frame {β : Type} (f : Dog → β)
    (hf : ∀ (d : Dog) sc b, f { d with score := sc, bag := b } = f d) :
    s.gather.1.dogs.slots.toList.map (fun e => (e.1, f e.2)) = s.dogs.slots.toList.map fun e => (e.1, f e.2) :=
  run_frame s.map s.dogsById s.lootById f hf _ s.gatherEvents

@[simp] theorem gather_places : places s.gather.1.dogs = places s.dogs :=
  gather_frame s (fun d => (d.id, d.name, d.position, d.previous)) fun _ _ _ => rfl

@[simp] theorem gather_dogs_fresh : s.gather.1.dogs.fresh = s.dogs.fresh :=
  run_fresh s.map s.dogsById s.lootById _ s.gatherEvents

/-- Gathering fills no bag beyond the map's capacity. -/
theorem gather_fits
    (hfit : ∀ d ∈ s.dogs.items, d.bag.length ≤ s.map.bagCapacity) :
    ∀ d ∈ s.gather.1.dogs.items, d.bag.length ≤ s.map.bagCapacity :=
  run_fits s.map s.dogsById s.lootById _ s.gatherEvents hfit

/-- The free loot before gathering is the free loot after it and the items picked up. -/
theorem gather_loot :
    (s.loot.items : Multiset Loot) = s.gather.1.loot.items + s.pickedLoot := by
  have hrun := run_untaken s.map s.dogsById s.lootById
    (s.dogs, List.replicate s.lootById.length false, {}) s.gatherEvents (by simp)
  rw [untaken_replicate] at hrun
  have hbefore : (s.loot.items : Multiset Loot) = s.lootById.map (·.2) :=
    Multiset.coe_eq_coe.mpr (s.lootById_perm.symm.map _)
  have hafter : (s.gather.1.loot.items : Multiset Loot) = (untaken s.lootById s.gatherRun.2.1).map (·.2) :=
    Multiset.coe_eq_coe.mpr (s.gather_loot_perm.map _)
  rw [hbefore, hafter, ← hrun]
  rfl

/-- Gathering takes the delivered items out of the bags and puts the picked ones in. -/
theorem gather_bags :
    (bags s.gather.1.dogs : Multiset Loot) + s.deliveredLoot = bags s.dogs + s.pickedLoot :=
  run_bags s.map s.dogsById s.lootById _ s.gatherEvents

/-- The gathering report counts the items picked up and delivered and their value. -/
theorem gather_report :
    s.gather.2 =
      { pickedUp := s.pickedLoot.length, delivered := s.deliveredLoot.length
        points := bagValue s.map s.deliveredLoot } := by
  rw [show s.gather.2 = s.gatherRun.2.2 from rfl, gatherRun, run_report]
  simp [pickedLoot, deliveredLoot, gatherDeeds]

/-- Each dog's score rises by the value of what it delivered. -/
theorem gather_score {h : Nat} {d : Dog} (hget : s.dogs.get? h = some d) :
    ∃ d', s.gather.1.dogs.get? h = some d' ∧ d'.score = d.score + bagValue s.map (s.deliveredBy h) ∧
      d'.id = d.id ∧ d'.name = d.name :=
  run_score s.map s.dogsById s.lootById _ s.gatherEvents hget

/-- On handles of their own, a deed's deliveries split by dog add up to its deliveries. -/
theorem sum_deliveredBy (m : Map) {H : List Nat} (hH : H.Nodup) {dd : Deed}
    (hdd : ∀ h bag, dd = .deliver h bag → h ∈ H) :
    (H.map fun k => bagValue m (dd.deliveredBy k)).sum = bagValue m dd.delivered := by
  cases dd with
  | pickUp h i l => simp [Deed.deliveredBy, Deed.delivered]
  | deliver h bag =>
    have hh := hdd h bag rfl
    clear hdd
    induction H with
    | nil => cases hh
    | cons k H ih =>
      obtain ⟨hk, hH'⟩ := List.nodup_cons.mp hH
      by_cases hkh : h = k
      · subst hkh
        -- no other handle shares in the delivery
        have hrest : (H.map fun k => bagValue m (if h = k then bag else [])).sum = 0 := by
          apply List.sum_eq_zero_iff_forall_eq_nat.mpr
          intro x hx
          obtain ⟨k', hk', rfl⟩ := List.mem_map.mp hx
          have hne : h ≠ k' := fun e => hk (e ▸ hk')
          simp [hne]
        simp [Deed.deliveredBy, Deed.delivered, hrest]
      · have hsum := ih hH' (by simpa [hkh] using hh)
        simp only [Deed.deliveredBy, Deed.delivered] at hsum ⊢
        simp [hkh, hsum]

/-- The deliveries of the gathering phase, split by dog, add up to all of them. -/
theorem deliveredBy_sum :
    (s.dogs.handles.map fun k => bagValue s.map (s.deliveredBy k)).sum = bagValue s.map s.deliveredLoot := by
  have hmem : ∀ h bag, Deed.deliver h bag ∈ s.gatherDeeds → h ∈ s.dogs.handles :=
    fun _ _ hdel => run_deliver_mem s.map s.dogsById s.lootById _ s.gatherEvents hdel
  unfold deliveredBy deliveredLoot
  generalize s.gatherDeeds = L at hmem ⊢
  induction L with
  | nil => simp
  | cons dd L ih =>
    have hdd : ∀ h bag, dd = .deliver h bag → h ∈ s.dogs.handles :=
      fun h bag e => hmem h bag (e ▸ List.mem_cons_self)
    have hL := ih fun h bag hdel => hmem h bag (List.mem_cons_of_mem _ hdel)
    simp only [List.flatMap_cons, bagValue_append, List.sum_map_add, hL,
      sum_deliveredBy s.map s.dogs.handles_nodup hdd]

end Phase

end Session

end DogCourier
