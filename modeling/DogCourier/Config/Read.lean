import DogCourier.Config.Doc
import DogCourier.Json.Shape

/-! # Reading configuration documents

    Each record of a configuration is read from an object, or from an array of its
    members in declaration order (loot kinds only from an object). Absent members take
    their defaults: the top level's speed 1, capacity 3, retirement time 60 s and no
    supply; a map's empty lists; an office's zero offset. Optional members may also be
    `null`. Any other absent member is a fault naming it; a loot kind keeps every key
    but `value` as its extras. -/

namespace DogCourier

namespace Scan

/-- Reads a loot supply. -/
def supplyDoc (depth : Nat) : Scan SupplyDoc :=
  record "LootGeneratorDto" depth
    (fun _ => do
      let (p, q) ← members ["period", "probability"]
        (fun i (p, q) => match i with
          | 0 => do pure (some (← f64), q)
          | _ => do pure (p, some (← f64)))
        (none, none)
      conclude do pure ⟨← required "period" p, ← required "probability" q⟩)
    (some fun _ => do
      let e := "struct LootGeneratorDto with 2 elements"
      pure ⟨← field true 0 e none f64, ← field false 1 e none f64⟩)

/-- Reads a road. -/
def roadDoc (depth : Nat) : Scan RoadDoc :=
  record "RoadDto" depth
    (fun _ => do
      let (a, b, c, d) ← members ["x0", "y0", "x1", "y1"]
        (fun i (a, b, c, d) => match i with
          | 0 => do pure (some (← int32), b, c, d)
          | 1 => do pure (a, some (← int32), c, d)
          | 2 => do pure (a, b, ← optional int32, d)
          | _ => do pure (a, b, c, ← optional int32))
        (none, none, none, none)
      conclude do pure ⟨← required "x0" a, ← required "y0" b, c, d⟩)
    (some fun _ => do
      let e := "struct RoadDto with 4 elements"
      pure ⟨← field true 0 e none int32, ← field false 1 e none int32,
        ← field false 2 e none (optional int32), ← field false 3 e none (optional int32)⟩)

/-- Reads a building. -/
def building (depth : Nat) : Scan Building :=
  record "Building" depth
    (fun _ => do
      let (a, b, c, d) ← members ["x", "y", "w", "h"]
        (fun i (a, b, c, d) => match i with
          | 0 => do pure (some (← int32), b, c, d)
          | 1 => do pure (a, some (← int32), c, d)
          | 2 => do pure (a, b, some (← int32), d)
          | _ => do pure (a, b, c, some (← int32)))
        (none, none, none, none)
      conclude do pure ⟨← required "x" a, ← required "y" b, ← required "w" c, ← required "h" d⟩)
    (some fun _ => do
      let e := "struct Building with 4 elements"
      pure ⟨← field true 0 e none int32, ← field false 1 e none int32,
        ← field false 2 e none int32, ← field false 3 e none int32⟩)

/-- Reads an office. -/
def officeDoc (depth : Nat) : Scan OfficeDoc :=
  record "OfficeDto" depth
    (fun _ => do
      let (a, b, c, d, f) ← members ["id", "x", "y", "offsetX", "offsetY"]
        (fun i (a, b, c, d, f) => match i with
          | 0 => do pure (some (← text), b, c, d, f)
          | 1 => do pure (a, some (← int32), c, d, f)
          | 2 => do pure (a, b, some (← int32), d, f)
          | 3 => do pure (a, b, c, some (← int32), f)
          | _ => do pure (a, b, c, d, some (← int32)))
        (none, none, none, none, none)
      conclude do
        pure ⟨← required "id" a, ← required "x" b, ← required "y" c, d.getD 0, f.getD 0⟩)
    (some fun _ => do
      let e := "struct OfficeDto with 5 elements"
      pure ⟨← field true 0 e none text, ← field false 1 e none int32,
        ← field false 2 e none int32, ← field false 3 e (some 0) int32,
        ← field false 4 e (some 0) int32⟩)

/-- Reads a loot kind: `value` once, every other key as a tree in its extras. -/
def lootKind (depth : Nat) : Scan LootKind :=
  record "LootType" depth
    (fun inner => do
      let (v, extra) ← membersWith ["value"]
        (fun _ (_, extra) => do pure (some (← unsigned "u64"), extra))
        (fun k (v, extra) => do
          let x ← value inner (← budget)
          pure (v, JsonValue.setField extra k x))
        (none, [])
      conclude do pure ⟨← required "value" v, extra⟩)
    none

/-- The members of a map as read so far. -/
structure MapSlots where
  id : Option String := none
  name : Option String := none
  dogSpeed : Option Float := none
  bagCapacity : Option Nat := none
  supply : Option SupplyDoc := none
  roads : List RoadDoc := []
  buildings : List Building := []
  offices : List OfficeDoc := []
  lootKinds : List LootKind := []

/-- Reads a map. -/
def mapDoc (depth : Nat) : Scan MapDoc :=
  record "MapDto" depth
    (fun inner => do
      let s ← members
        ["id", "name", "dogSpeed", "bagCapacity", "lootGeneratorConfig", "roads", "buildings",
          "offices", "lootTypes"]
        (fun i s => match i with
          | 0 => do pure { s with id := some (← text) }
          | 1 => do pure { s with name := some (← text) }
          | 2 => do pure { s with dogSpeed := ← optional f64 }
          | 3 => do pure { s with bagCapacity := ← optional (unsigned "usize") }
          | 4 => do pure { s with supply := ← optional (supplyDoc inner) }
          | 5 => do pure { s with roads := ← seqOf inner roadDoc }
          | 6 => do pure { s with buildings := ← seqOf inner building }
          | 7 => do pure { s with offices := ← seqOf inner officeDoc }
          | _ => do pure { s with lootKinds := ← seqOf inner lootKind })
        ({} : MapSlots)
      conclude do
        pure ⟨← required "id" s.id, ← required "name" s.name, s.dogSpeed, s.bagCapacity,
          s.supply, s.roads, s.buildings, s.offices, s.lootKinds⟩)
    (some fun inner => do
      let e := "struct MapDto with 9 elements"
      pure ⟨← field true 0 e none text, ← field false 1 e none text,
        ← field false 2 e none (optional f64), ← field false 3 e none (optional (unsigned "usize")),
        ← field false 4 e none (optional (supplyDoc inner)),
        ← field false 5 e (some []) (seqOf inner roadDoc),
        ← field false 6 e (some []) (seqOf inner building),
        ← field false 7 e (some []) (seqOf inner officeDoc),
        ← field false 8 e (some []) (seqOf inner lootKind)⟩)

/-- Reads a whole configuration. -/
def configDoc (depth : Nat) : Scan ConfigDoc :=
  record "GameConfigDto" depth
    (fun inner => do
      let (a, b, c, d, f) ← members
        ["defaultDogSpeed", "defaultBagCapacity", "dogRetirementTime", "lootGeneratorConfig", "maps"]
        (fun i (a, b, c, d, f) => match i with
          | 0 => do pure (some (← f64), b, c, d, f)
          | 1 => do pure (a, some (← unsigned "usize"), c, d, f)
          | 2 => do pure (a, b, some (← f64), d, f)
          | 3 => do pure (a, b, c, ← optional (supplyDoc inner), f)
          | _ => do pure (a, b, c, d, some (← seqOf inner mapDoc)))
        (none, none, none, none, none)
      conclude do
        pure ⟨a.getD defaultDogSpeed, b.getD defaultBagCapacity, c.getD 60.0, d,
          ← required "maps" f⟩)
    (some fun inner => do
      let e := "struct GameConfigDto with 5 elements"
      pure ⟨← field true 0 e (some defaultDogSpeed) f64,
        ← field false 1 e (some defaultBagCapacity) (unsigned "usize"),
        ← field false 2 e (some 60.0) f64,
        ← field false 3 e (some none) (optional (supplyDoc inner)),
        ← field false 4 e none (seqOf inner mapDoc)⟩)

end Scan

/-- Reads a configuration text into its document. -/
def ConfigDoc.parse (text : String) : Except ReadError ConfigDoc :=
  (Scan.run (Scan.document (Scan.configDoc 0)) text.toUTF8).1

end DogCourier
