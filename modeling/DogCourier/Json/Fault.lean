import DogCourier.Decimal.Layout
import DogCourier.Text.Quoted

/-! # Why reading JSON failed

    A `Fault` is one cause: a syntax fault of the text, or a value of the wrong shape for
    what was asked. A `ReadError` pairs it with the line and byte column where it was
    noticed; the column counts bytes since the last newline. Faults about shapes are
    raised without a place and get one from the reader that was running when they
    surfaced. -/

namespace DogCourier

/-- What a reader found where it wanted something else. -/
inductive Unexpected where
  | bool (b : Bool)
  | unsigned (n : Nat)
  | signed (n : Int)
  | float (x : Float)
  | str (s : String)
  | null
  | seq
  | map

/-- How a reader names what it found. -/
def Unexpected.describe : Unexpected → String
  | .bool b => s!"boolean `{b}`"
  | .unsigned n => s!"integer `{n}`"
  | .signed n => s!"integer `{n}`"
  | .float x => "floating point `" ++ Layout.compact.render x ++ "`"
  | .str s => "string " ++ quoted s
  | .null => "null"
  | .seq => "sequence"
  | .map => "map"

/-- A reason why reading stopped. -/
inductive Fault where
  | eofList
  | eofObject
  | eofString
  | eofValue
  | expectedColon
  | expectedListCommaOrEnd
  | expectedObjectCommaOrEnd
  | expectedIdent
  | expectedValue
  | invalidEscape
  | invalidNumber
  | numberOutOfRange
  | controlCharacter
  | keyMustBeString
  | loneLeadingSurrogate
  | trailingComma
  | trailingCharacters
  | unexpectedEndOfHexEscape
  | recursionLimit
  | invalidType (found : Unexpected) (expected : String)
  | invalidValue (found : Unexpected) (expected : String)
  | invalidLength (length : Nat) (expected : String)
  | missingField (name : String)
  | duplicateField (name : String)

/-- The text of a fault. -/
def Fault.message : Fault → String
  | .eofList => "EOF while parsing a list"
  | .eofObject => "EOF while parsing an object"
  | .eofString => "EOF while parsing a string"
  | .eofValue => "EOF while parsing a value"
  | .expectedColon => "expected `:`"
  | .expectedListCommaOrEnd => "expected `,` or `]`"
  | .expectedObjectCommaOrEnd => "expected `,` or `\x7d`"
  | .expectedIdent => "expected ident"
  | .expectedValue => "expected value"
  | .invalidEscape => "invalid escape"
  | .invalidNumber => "invalid number"
  | .numberOutOfRange => "number out of range"
  | .controlCharacter => "control character (\\u0000-\\u001F) found while parsing a string"
  | .keyMustBeString => "key must be a string"
  | .loneLeadingSurrogate => "lone leading surrogate in hex escape"
  | .trailingComma => "trailing comma"
  | .trailingCharacters => "trailing characters"
  | .unexpectedEndOfHexEscape => "unexpected end of hex escape"
  | .recursionLimit => "recursion limit exceeded"
  | .invalidType u e => "invalid type: " ++ u.describe ++ ", expected " ++ e
  | .invalidValue u e => "invalid value: " ++ u.describe ++ ", expected " ++ e
  | .invalidLength n e => s!"invalid length {n}, expected " ++ e
  | .missingField n => "missing field `" ++ n ++ "`"
  | .duplicateField n => "duplicate field `" ++ n ++ "`"

/-- A fault and, once known, its line and column. -/
structure ReadError where
  fault : Fault
  place : Option (Nat × Nat)

/-- The text of a read error: the fault, then its place when it has one. -/
def ReadError.message (e : ReadError) : String :=
  match e.place with
  | some (line, col) => e.fault.message ++ s!" at line {line} column {col}"
  | none => e.fault.message

end DogCourier
