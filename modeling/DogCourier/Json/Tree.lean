import DogCourier.Json.Scan
import DogCourier.Json.Value

/-! # Reading arrays, objects and whole documents

    Arrays and objects share a frame: the opening bracket counts toward a nesting limit
    of 127, the body runs, and the closing bracket is read even when the body failed,
    so that a fault without a place is placed after the bracket. The first fault wins.
    Between items, a comma must be followed by another item; a comma before the
    closing bracket is a trailing comma. A document is one value followed only by
    blanks. -/

namespace DogCourier

namespace Scan

/-- Opens a bracket at nesting depth `depth`, runs `body`, then `close`; the body's fault
wins over the close's. -/
def nested (depth : Nat) (body : Scan α) (close : Scan Unit) : Scan α := do
  if depth + 1 ≥ 128 then failAhead .recursionLimit
  bump
  let r ← attempt body
  let c ← attempt close
  match r, c with
  | .ok v, .ok () => pure v
  | .error e, _ => throw e
  | .ok _, .error e => throw e

/-- Reads the end of an array after its last item. -/
def closeSeq : Scan Unit := do
  match ← skipBlanks with
  | some 93 => bump
  | some 44 => do
    bump
    match ← skipBlanks with
    | some 93 => failAhead .trailingComma
    | _ => failAhead .trailingCharacters
  | some _ => failAhead .trailingCharacters
  | none => failAhead .eofList

/-- Reads the end of an object after its last member. -/
def closeMap : Scan Unit := do
  match ← skipBlanks with
  | some 125 => bump
  | some 44 => failAhead .trailingComma
  | some _ => failAhead .trailingCharacters
  | none => failAhead .eofObject

/-- Whether another array item follows; takes the comma before it. -/
def hasItem (first : Bool) : Scan Bool := do
  match ← skipBlanks with
  | none => failAhead .eofList
  | some 93 => pure false
  | some c =>
    if first then pure true
    else if c == 44 then do
      bump
      match ← skipBlanks with
      | some 93 => failAhead .trailingComma
      | some _ => pure true
      | none => failAhead .eofValue
    else failAhead .expectedListCommaOrEnd

/-- Whether another object member follows; takes the comma before it and stops at the
key's opening quote. -/
def hasMember (first : Bool) : Scan Bool := do
  match ← skipBlanks with
  | none => failAhead .eofObject
  | some 125 => pure false
  | some c =>
    if first then
      if c == 34 then pure true else failAhead .keyMustBeString
    else if c == 44 then do
      bump
      match ← skipBlanks with
      | some 34 => pure true
      | some 125 => failAhead .trailingComma
      | some _ => failAhead .keyMustBeString
      | none => failAhead .eofValue
    else failAhead .expectedObjectCommaOrEnd

/-- Reads a member's key from its opening quote. -/
def key : Scan String := do
  bump
  string

/-- Reads the colon between a key and its value. -/
def colon : Scan Unit := do
  match ← skipBlanks with
  | some 58 => bump
  | some _ => failAhead .expectedColon
  | none => failAhead .eofObject

/-- A number as a tree. -/
def Num.toJson : Num → JsonValue
  | .nat n => .int n.toNat
  | .neg n => .int n
  | .float x => .float x

/-- Reads one value as a tree; an object keeps the last value of a repeated key. -/
def value (depth : Nat) : Nat → Scan JsonValue
  | 0 => pure .null
  | fuel + 1 => settle do
    match ← skipBlanks with
    | none => failAhead .eofValue
    | some 110 => do bump; word ull; pure .null
    | some 116 => do bump; word rue; pure (.bool true)
    | some 102 => do bump; word alse; pure (.bool false)
    | some 45 => do bump; pure (← integer false).toJson
    | some 34 => do bump; pure (.str (← string))
    | some 91 => nested depth (items (depth + 1) fuel true []) closeSeq
    | some 123 => nested depth (members (depth + 1) fuel true []) closeMap
    | some c =>
      if isDigit c then pure (← integer true).toJson else failAhead .expectedValue
where
  /-- The items of an array. -/
  items (depth : Nat) : Nat → Bool → List JsonValue → Scan JsonValue
    | 0, _, acc => pure (.arr acc.reverse)
    | fuel + 1, first, acc => do
      if ← hasItem first then
        let v ← value depth fuel
        items depth fuel false (v :: acc)
      else pure (.arr acc.reverse)
  /-- The members of an object. -/
  members (depth : Nat) : Nat → Bool → List (String × JsonValue) → Scan JsonValue
    | 0, _, acc => pure (.obj acc)
    | fuel + 1, first, acc => do
      if ← hasMember first then
        let k ← key
        colon
        let v ← value depth fuel
        members depth fuel false (JsonValue.setField acc k v)
      else pure (.obj acc)

/-- Fails unless only blanks remain. -/
def finish : Scan Unit := do
  match ← skipBlanks with
  | some _ => failAhead .trailingCharacters
  | none => pure ()

/-- Reads a whole document with `s`: the value, then nothing but blanks. -/
def document (s : Scan α) : Scan α := do
  let v ← s
  finish
  return v

end Scan

/-- Reads a JSON text as a tree. -/
def JsonValue.parse (text : String) : Except ReadError JsonValue :=
  (Scan.run (Scan.document do Scan.value 0 (2 * (← Scan.budget) + 4)) text.toUTF8).1

end DogCourier
