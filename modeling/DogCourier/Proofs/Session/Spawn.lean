import DogCourier.Session.Tick
import DogCourier.Proofs.Road.Surface
import DogCourier.Proofs.World.Store

/-! # Where new things appear

    A new dog stands at the first road's start, or with random spawning at a random
    point of a random road; new loot lies at a random point of a random road. Both land
    on the road surface, because the random draws are what the placement needs:

    * a draw below `n` is below `n` (`below_lt`), so a random road is a road of the map;
    * a unit draw is a number (`unit_ne_nan`), so the point of the road it picks is one of
      its centre line (`pointAt_contains`).

    * `spawnPoint_contains`: a joining dog starts on the surface;
    * `placeLoot_onRoad`: placed loot lies on the surface. -/

namespace DogCourier

open Float.Model Float.Model.UnpackedFloat

namespace Stream

/-! ## Draws -/

theorem nextWord_lt (s : Stream) : s.nextWord.1 < 2 ^ 32 :=
  UInt32.toNat_lt _

theorem nextWide_lt (s : Stream) : s.nextWide.1 < 2 ^ 64 := by
  have hlo := nextWord_lt s
  have hhi := nextWord_lt s.nextWord.2
  show s.nextWord.2.nextWord.1 * 2 ^ 32 + s.nextWord.1 < 2 ^ 64
  omega

/-- Every try of a draw below `range` lands below it, and so does giving up. -/
theorem sample_lt {bits range : Nat} {draw : Stream → Nat × Stream} (hr : 0 < range)
    (hdraw : ∀ s, (draw s).1 < 2 ^ bits) : ∀ (fuel : Nat) (s : Stream),
      (sample bits draw range fuel s).1 < range
  | 0, _ => hr
  | fuel + 1, s => by
    unfold sample
    dsimp only
    split
    · -- an accepted draw `v` scales to `v · range / 2^bits`, below `range`
      have hv := hdraw s
      exact Nat.div_lt_of_lt_mul (Nat.mul_lt_mul_of_pos_right hv hr)
    · exact sample_lt hr hdraw fuel _

/-- A draw below a positive `n` is below `n`. -/
theorem below_lt (s : Stream) {n : Nat} (hn : 0 < n) : (s.below n).1 < n := by
  unfold below
  rw [if_neg (Nat.pos_iff_ne_zero.mp hn)]
  exact sample_lt hn nextWide_lt _ _

/-- The number `2^53` that scales a unit draw. -/
theorem exactValue_two_pow_53 : exactValue 9007199254740992.0 = some (2 ^ 53) := by
  unfold exactValue
  rw [show (9007199254740992.0 : Float).toModel.unpack =
    .finite .positive (2 ^ 52) 1 (by decide) by rfl]
  simp [Sign.apply]
  norm_num

/-- A unit draw is a number. -/
theorem unit_ne_nan (s : Stream) : s.unit.1.toModel.unpack ≠ .notANumber := by
  have hn : ((UInt64.ofNat (s.nextWide.1 / 2 ^ 11)).toNat : ℚ) ≤ 2 ^ (64 : Int) := by
    exact_mod_cast (UInt64.toNat_lt _).le
  obtain ⟨q, hq, -⟩ := exactValue_toFloat _ (by norm_num) (by norm_num) hn
  exact div_ne_nan hq exactValue_two_pow_53 (by norm_num)

end Stream

/-! ## Placing -/

/-- A road drawn at random from a map's roads is one of them. -/
theorem drawn_mem {roads : Array Road} (hpos : 0 < roads.size) (st : Stream) :
    roads[(st.below roads.size).1]! ∈ roads := by
  have hi := Stream.below_lt st hpos
  rw [getElem!_pos roads _ hi]
  exact Array.getElem_mem hi

namespace Session

/-- A joining dog starts on the surface, and choosing its place only draws from the
stream. -/
theorem spawnPoint_contains {s : Session} (hnet : s.map.roads.Sound) :
    s.map.roads.contains s.spawnPoint.1 = true ∧ ∃ st, s.spawnPoint.2 = { s with stream := st } := by
  unfold spawnPoint
  dsimp only
  split
  · exact ⟨pointAt_contains hnet (drawn_mem hnet.nonempty _) (Stream.unit_ne_nan _), _, rfl⟩
  · split
    · rename_i r hr
      exact ⟨start_contains hnet (Array.mem_of_getElem? hr), _, rfl⟩
    · rename_i hr
      have := hnet.nonempty
      simp only [Array.getElem?_eq_none_iff] at hr
      omega

end Session

/-- Placed loot lies on the surface, as does the loot already there. -/
theorem placeLoot_onRoad {net : RoadNet} (hnet : net.Sound) (kinds : Nat) :
    ∀ (n first : Nat) (store : Store Loot) (st : Stream),
      (∀ l ∈ store.items, net.contains l.position.toPoint = true) →
      ∀ l ∈ (Session.placeLoot net.roads kinds n first store st).1.items,
        net.contains l.position.toPoint = true
  | 0, _, _, _, h => h
  | n + 1, first, store, st, h => by
    simp only [Session.placeLoot]
    apply placeLoot_onRoad hnet kinds n
    intro l hl
    simp only [Store.items_eq, Store.spawn_slots, List.map_append, List.map_cons, List.map_nil,
      List.mem_append, List.mem_singleton] at hl
    rcases hl with hl | rfl
    · exact h l (by simpa using hl)
    · exact contains_toPoint_ofPoint hnet.narrow
        (pointAt_contains hnet (drawn_mem hnet.nonempty st) (Stream.unit_ne_nan _))

end DogCourier
