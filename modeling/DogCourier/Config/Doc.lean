import DogCourier.Map.Basic

/-! # Configuration documents

    What a configuration text says, before any of it is checked: numbers as written
    (durations still in seconds), optional parts as options, and each road with the
    ends it names. Defaults for absent members are filled in when reading. -/

namespace DogCourier

/-- A loot supply as written: its period in seconds and its probability. -/
structure SupplyDoc where
  period : Float
  probability : Float
  deriving Inhabited

/-- A road as written: a start and whichever ends are given. -/
structure RoadDoc where
  x0 : Int32
  y0 : Int32
  x1 : Option Int32
  y1 : Option Int32
  deriving Inhabited

/-- An office as written. -/
structure OfficeDoc where
  id : String
  x : Int32
  y : Int32
  offsetX : Int32
  offsetY : Int32
  deriving Inhabited

/-- A map as written. -/
structure MapDoc where
  id : String
  name : String
  dogSpeed : Option Float
  bagCapacity : Option Nat
  supply : Option SupplyDoc
  roads : List RoadDoc
  buildings : List Building
  offices : List OfficeDoc
  lootKinds : List LootKind
  deriving Inhabited

/-- A whole configuration as written. -/
structure ConfigDoc where
  dogSpeed : Float
  bagCapacity : Nat
  retirementTime : Float
  supply : Option SupplyDoc
  maps : List MapDoc
  deriving Inhabited

end DogCourier
