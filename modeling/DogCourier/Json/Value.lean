import DogCourier.Decimal.Layout

/-! # JSON values and their text

    A `JsonValue` is a JSON document: integers and doubles are kept apart, and an
    object is a list of distinct keys in insertion order. `render` writes compact JSON:
    strings escape the quote, the backslash and control characters, and doubles use the
    compact layout, so an integral double keeps `.0` and stays a double when read
    back. A double that is not finite has no JSON form and is written `null`. -/

namespace DogCourier

/-- A JSON document. -/
inductive JsonValue where
  | null
  | bool (b : Bool)
  | int (n : Int)
  | float (x : Float)
  | str (s : String)
  | arr (items : List JsonValue)
  | obj (fields : List (String × JsonValue))
  deriving Inhabited

namespace JsonValue

/-- The field `key` of an object. -/
def field? (v : JsonValue) (key : String) : Option JsonValue :=
  match v with
  | .obj fs => fs.lookup key
  | _ => none

/-- Sets `key` in a field list: replaced in place when present, appended otherwise. -/
def setField (fs : List (String × JsonValue)) (key : String) (v : JsonValue) :
    List (String × JsonValue) :=
  if fs.any (·.1 == key) then fs.map fun (k, w) => if k == key then (k, v) else (k, w)
  else fs ++ [(key, v)]

/-- The lowercase hexadecimal digit of a value below 16. -/
def hexDigit (n : Nat) : Char :=
  if n < 10 then Char.ofNat (48 + n) else Char.ofNat (87 + n)

/-- The JSON escape of one character inside a string. -/
def escapeChar (c : Char) : String :=
  if c = '"' then "\\\""
  else if c = '\\' then "\\\\"
  else if c = '\n' then "\\n"
  else if c = '\r' then "\\r"
  else if c = '\t' then "\\t"
  else if c.toNat = 8 then "\\b"
  else if c.toNat = 12 then "\\f"
  else if c.toNat < 32 then
    "\\u00" ++ String.singleton (hexDigit (c.toNat / 16)) ++ String.singleton (hexDigit (c.toNat % 16))
  else String.singleton c

/-- A string as a JSON string literal. -/
def quote (s : String) : String := "\"" ++ String.join (s.toList.map escapeChar) ++ "\""

/-- A double as a JSON number; not finite gives `null`. -/
def number (x : Float) : String :=
  if x.isNaN || x.isInf then "null" else Layout.compact.render x

mutual

/-- Compact JSON text of a value. -/
def render : JsonValue → String
  | .null => "null"
  | .bool b => if b then "true" else "false"
  | .int n => toString n
  | .float x => number x
  | .str s => quote s
  | .arr items => "[" ++ renderItems items ++ "]"
  | .obj fields => "\x7b" ++ renderFields fields ++ "\x7d"

/-- The items of an array, comma separated. -/
def renderItems : List JsonValue → String
  | [] => ""
  | [v] => render v
  | v :: rest => render v ++ "," ++ renderItems rest

/-- The members of an object, comma separated. -/
def renderFields : List (String × JsonValue) → String
  | [] => ""
  | [(k, v)] => quote k ++ ":" ++ render v
  | (k, v) :: rest => quote k ++ ":" ++ render v ++ "," ++ renderFields rest

end

end JsonValue

end DogCourier
