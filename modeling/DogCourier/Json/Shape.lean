import DogCourier.Json.Tree

/-! # Reading values of a fixed shape

    Readers for the shapes a configuration is made of: doubles, unsigned and 32-bit
    integers, strings, optional values, arrays of one shape, and records. A value of
    another kind is described in the fault by what was found (`integer 5`, `string
    "15"`, `null`, `sequence`) and what was wanted. A record is read from an object,
    with unknown keys skipped and a repeated key refused, or, where it allows, from an
    array of its fields in order. -/

namespace DogCourier

namespace Scan

/-- Reads the value at the position only to describe it, and fails saying that
`expected` was wanted instead. -/
def mismatch (expected : String) : Scan α := settle do
  let found ← match ← peekOrNull with
    | 110 => do bump; word ull; pure Unexpected.null
    | 116 => do bump; word rue; pure (Unexpected.bool true)
    | 102 => do bump; word alse; pure (Unexpected.bool false)
    | 45 => do bump; pure (← integer false).unexpected
    | 34 => do bump; pure (Unexpected.str (← string))
    | 91 => pure Unexpected.seq
    | 123 => pure Unexpected.map
    | c => if isDigit c then pure (← integer true).unexpected else failAhead .expectedValue
  raise (.invalidType found expected)

/-- Reads a number and hands it to `accept`, whose fault is placed after the number;
anything but a number is a mismatch with `expected`. -/
def numberAs (expected : String) (accept : Num → Except Fault α) : Scan α := settle do
  match ← skipBlanks with
  | none => failAhead .eofValue
  | some c =>
    if c == 45 || isDigit c then
      match accept (← number) with
      | .ok v => pure v
      | .error f => raise f
    else mismatch expected

/-- Reads a double; an integer is converted. -/
def f64 : Scan Float :=
  numberAs "f64" fun
    | .nat n => .ok n.toFloat
    | .neg n => .ok (-(Decimal.natToFloat n.natAbs))
    | .float x => .ok x

/-- Reads an unsigned 64-bit integer; `expected` names it in faults. -/
def unsigned (expected : String) : Scan Nat :=
  numberAs expected fun
    | .nat n => .ok n.toNat
    | .neg n => .error (.invalidValue (.signed n) expected)
    | .float x => .error (.invalidType (.float x) expected)

/-- Reads a 32-bit signed integer. -/
def int32 : Scan Int32 :=
  numberAs "i32" fun
    | .nat n =>
      if n.toNat ≤ 2147483647 then .ok (Int32.ofInt n.toNat)
      else .error (.invalidValue (.unsigned n.toNat) "i32")
    | .neg n =>
      if n ≥ -2147483648 then .ok (Int32.ofInt n) else .error (.invalidValue (.signed n) "i32")
    | .float x => .error (.invalidType (.float x) "i32")

/-- Reads a string. -/
def text : Scan String := settle do
  match ← skipBlanks with
  | none => failAhead .eofValue
  | some 34 => do bump; string
  | some _ => mismatch "a string"

/-- Reads `null` as nothing, anything else with `r`. -/
def optional (r : Scan α) : Scan (Option α) := do
  match ← skipBlanks with
  | some 110 => do bump; word ull; pure none
  | _ => some <$> r

/-- Reads an array whose items all have the shape `r`, given the depth inside it. -/
def seqOf (depth : Nat) (r : Nat → Scan α) : Scan (List α) := settle do
  match ← skipBlanks with
  | none => failAhead .eofValue
  | some 91 =>
    let rec go (first : Bool) (acc : List α) : Nat → Scan (List α)
      | 0 => pure acc.reverse
      | fuel + 1 => do
        if ← hasItem first then
          let v ← r (depth + 1)
          go false (v :: acc) fuel
        else pure acc.reverse
    nested depth (go true [] (← budget)) closeSeq
  | some _ => mismatch "a sequence"

/-- Reads the next item of an array read as a record, if there is one. -/
def element (first : Bool) (r : Scan α) : Scan (Option α) := do
  if ← hasItem first then some <$> r else pure none

/-- Reads the members of an object after its brace: a key among `keys` goes to `step`
with its index once its colon is read, a repeated one is refused, and any other key
goes to `other`. -/
def membersWith (keys : List String) (step : Nat → σ → Scan σ)
    (other : String → σ → Scan σ) (init : σ) : Scan σ := do
  let rec go (first : Bool) (seen : List Nat) (st : σ) : Nat → Scan σ
    | 0 => pure st
    | fuel + 1 => do
      if ← hasMember first then
        let k ← key
        match keys.idxOf? k with
        | some i =>
          if seen.contains i then raise (.duplicateField k)
          else do
            colon
            let st ← step i st
            go false (i :: seen) st fuel
        | none => do
          colon
          let st ← other k st
          go false seen st fuel
      else pure st
  go true [] init (← budget)

/-- Reads the members of an object, skipping unknown keys. -/
def members (keys : List String) (step : Nat → σ → Scan σ) (init : σ) : Scan σ :=
  membersWith keys step (fun _ st => do skipValue; pure st) init

/-- Ends a record: a fault from `finish` is raised without a place. -/
def conclude (r : Except Fault α) : Scan α :=
  match r with
  | .ok v => pure v
  | .error f => raise f

/-- Reads a record called `name` from an object through `ofMap`, or from an array
through `ofSeq` when given; both get the depth inside the bracket. -/
def record (name : String) (depth : Nat) (ofMap : Nat → Scan α)
    (ofSeq : Option (Nat → Scan α)) : Scan α := settle do
  match ← skipBlanks with
  | none => failAhead .eofValue
  | some 123 => nested depth (ofMap (depth + 1)) closeMap
  | some 91 =>
    match ofSeq with
    | some f => nested depth (f (depth + 1)) closeSeq
    | none => mismatch ("struct " ++ name)
  | some _ => mismatch ("struct " ++ name)

/-- A field read in order from an array: missing means the default, or a fault naming
the record's length. -/
def field (first : Bool) (index : Nat) (expected : String) (dflt : Option α) (r : Scan α) :
    Scan α := do
  match ← element first r with
  | some v => pure v
  | none =>
    match dflt with
    | some d => pure d
    | none => raise (.invalidLength index expected)

/-- A required member, or a fault naming it. -/
def required (name : String) : Option α → Except Fault α
  | some v => .ok v
  | none => .error (.missingField name)

end Scan

end DogCourier
