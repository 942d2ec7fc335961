import DogCourier.Road.Network
import DogCourier.Text.Quoted

/-! # Session errors

    What a session refuses, and the text of each refusal. Ids are written in decimal and
    names quoted with escapes. -/

namespace DogCourier

/-- The two id counters of a session. -/
inductive IdKind where
  | dog
  | loot
  deriving DecidableEq, Inhabited

/-- The word naming an id counter. -/
def IdKind.word : IdKind → String
  | .dog => "dog"
  | .loot => "loot"

/-- Why a session refused a request or a tick. -/
inductive SessionError where
  /-- Movement ran into a malformed road graph. -/
  | roadGraph (e : RoadError)
  /-- A counter has no id left to issue. -/
  | idOverflow (kind : IdKind)
  | duplicateDogName (name : String)
  | unknownDog (id : Nat)
  | duplicateDogId (id : Nat)
  | duplicateLootId (id : Nat)
  | bagOverCapacity (id carried capacity : Nat)
  | offRoad (id : Nat)
  | lootOffRoad (id : Nat)
  /-- A counter that would issue an id already present. -/
  | counterBehind (kind : IdKind) (counter issued : Nat)
  deriving Inhabited

/-- The error's text. -/
def SessionError.message : SessionError → String
  | .roadGraph e => e.message
  | .idOverflow k => k.word ++ " id counter overflowed"
  | .duplicateDogName n => "dog name " ++ quoted n ++ " is already taken"
  | .unknownDog i => s!"no dog with id {i}"
  | .duplicateDogId i => s!"dog id {i} is already in use"
  | .duplicateLootId i => s!"loot id {i} is already in use"
  | .bagOverCapacity i n c => s!"dog {i} carries {n} items but bag capacity is {c}"
  | .offRoad i => s!"dog {i} is off the road network"
  | .lootOffRoad i => s!"loot {i} is off the road network"
  | .counterBehind k c i => k.word ++ s!" counter {c} does not exceed issued id {i}"

end DogCourier
