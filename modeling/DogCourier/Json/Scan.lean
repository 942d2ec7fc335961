import DogCourier.Json.Fault
import DogCourier.Json.Number

/-! # Scanning JSON text

    `Scan` reads the bytes of a JSON text from a position that survives failures, so
    a fault raised without a place can be placed where reading stood when it surfaced.
    This module holds the lexical layer: blanks, literal words, numbers, strings, and
    skipping a whole value. Loops are bounded by the length of the text, since each
    round consumes a byte.

    Places follow two conventions: `fail` reports the current position; `failAhead`
    reports one byte further, capped at the end of the text. -/

namespace DogCourier

/-- Reading JSON text: the bytes, a position kept across failures, and an error. -/
abbrev Scan := ReaderT ByteArray (ExceptT ReadError (StateM Nat))

namespace Scan

/-- Runs a scan over a text from its first byte, giving the result and the end position. -/
def run (s : Scan α) (bytes : ByteArray) : Except ReadError α × Nat :=
  let e : ExceptT ReadError (StateM Nat) α := ReaderT.run s bytes
  e.run.run 0

/-- Line and byte column of an index: lines count from 1, columns from 0 after the last
newline before the index. -/
def placeOf (bytes : ByteArray) (i : Nat) : Nat × Nat :=
  let before := (bytes.extract 0 i).toList
  let lines := before.count 10
  let lastBreak := before.zipIdx.foldl (fun acc (b, j) => if b == 10 then j + 1 else acc) 0
  (lines + 1, i - lastBreak)

/-- The byte at the position, if any. -/
def peek? : Scan (Option UInt8) := do
  let bytes ← read
  let p ← get
  return bytes[p]?

/-- The byte at the position, or zero at the end. -/
def peekOrNull : Scan UInt8 := do
  return (← peek?).getD 0

/-- Moves past one byte. -/
def bump : Scan Unit := modify (· + 1)

/-- Takes the byte at the position, if any. -/
def next? : Scan (Option UInt8) := do
  let c ← peek?
  if c.isSome then bump
  return c

/-- Fails with a fault placed at the position. -/
def fail (f : Fault) : Scan α := do
  let bytes ← read
  let p ← get
  throw ⟨f, some (placeOf bytes p)⟩

/-- Fails with a fault placed one byte past the position, capped at the end. -/
def failAhead (f : Fault) : Scan α := do
  let bytes ← read
  let p ← get
  throw ⟨f, some (placeOf bytes (min bytes.size (p + 1)))⟩

/-- Fails with a fault that has no place yet. -/
def raise (f : Fault) : Scan α := throw ⟨f, none⟩

/-- Gives a placeless fault of `s` the place where reading stands when it surfaces. -/
def settle (s : Scan α) : Scan α :=
  tryCatch s fun e => do
    match e.place with
    | some _ => throw e
    | none =>
      let bytes ← read
      let p ← get
      throw ⟨e.fault, some (placeOf bytes p)⟩

/-- Runs `s` and keeps its outcome, failure included, without failing. -/
def attempt (s : Scan α) : Scan (Except ReadError α) :=
  tryCatch (Except.ok <$> s) fun e => pure (.error e)

/-- The number of bytes, which bounds every loop of a scan. -/
def budget : Scan Nat := do
  return (← read).size + 1

/-- A space, tab, newline or return. -/
def isBlank (b : UInt8) : Bool := b == 32 || b == 10 || b == 9 || b == 13

/-- A decimal digit. -/
def isDigit (b : UInt8) : Bool := 48 ≤ b && b ≤ 57

/-- Skips blanks and gives the next byte without taking it. -/
def skipBlanks : Scan (Option UInt8) := do
  let rec go : Nat → Scan (Option UInt8)
    | 0 => peek?
    | fuel + 1 => do
      match ← peek? with
      | some b => if isBlank b then do bump; go fuel else return some b
      | none => return none
  go (← budget)

/-- Takes the rest of a literal word, byte by byte. -/
def word : List UInt8 → Scan Unit
  | [] => pure ()
  | b :: bs => do
    match ← next? with
    | none => fail .eofValue
    | some c => if c == b then word bs else fail .expectedIdent

/-- The letters `ull`, `rue` and `alse` that complete `null`, `true` and `false`. -/
def ull : List UInt8 := [117, 108, 108]
def rue : List UInt8 := [114, 117, 101]
def alse : List UInt8 := [97, 108, 115, 101]

/-- Skips digits. -/
def skipDigits : Scan Unit := do
  let rec go : Nat → Scan Unit
    | 0 => pure ()
    | fuel + 1 => do
      if isDigit (← peekOrNull) then do bump; go fuel else pure ()
  go (← budget)

/-- A number as read: a non-negative integer of 64 bits, a negative integer of 64 bits,
or a double. -/
inductive Num where
  | nat (n : UInt64)
  | neg (n : Int)
  | float (x : Float)

/-- What a number looks like to a reader that did not want one. -/
def Num.unexpected : Num → Unexpected
  | .nat n => .unsigned n.toNat
  | .neg n => .signed n
  | .float x => .float x

/-- Ten times the significand plus a digit would pass `2^64 - 1`. -/
def overflows (sig : UInt64) (d : Nat) : Bool :=
  sig.toNat * 10 + d > 18446744073709551615

/-- The double of significand and exponent, failing at the position when out of range. -/
def toFloat (positive : Bool) (sig : UInt64) (exp : Int) : Scan Float := do
  match Decimal.readFloat positive sig exp with
  | some x => return x
  | none => fail .numberOutOfRange

/-- An exponent that saturates at the 32-bit bounds. -/
def clampExponent (e : Int) : Int := max (-2147483648) (min 2147483647 e)

/-- After an exponent too long for 32 bits: a non-zero significand with a positive
exponent is out of range, anything else is zero. -/
def exponentOverflow (positive zeroSig positiveExp : Bool) : Scan Float := do
  if !zeroSig && positiveExp then fail .numberOutOfRange
  skipDigits
  return if positive then 0.0 else -0.0

/-- Reads the exponent digits after `e`, then combines. -/
def exponentPart (positive : Bool) (sig : UInt64) (start : Int) : Scan Float := do
  bump
  let positiveExp ← do
    let c ← peekOrNull
    if c == 43 then do bump; pure true
    else if c == 45 then do bump; pure false
    else pure true
  let first ← match ← next? with
    | none => fail .eofValue
    | some c => if isDigit c then pure (c.toNat - 48) else fail .invalidNumber
  let rec go (exp : Nat) : Nat → Scan Float
    | 0 => pure 0.0
    | fuel + 1 => do
      let c ← peekOrNull
      if isDigit c then do
        bump
        let d := c.toNat - 48
        if exp * 10 + d > 2147483647 then exponentOverflow positive (sig == 0) positiveExp
        else go (exp * 10 + d) fuel
      else
        let e : Int := if positiveExp then start + exp else start - exp
        toFloat positive sig (clampExponent e)
  go first (← budget)

/-- After the significand filled up: drops further digits, then reads an exponent. -/
def fractionOverflow (positive : Bool) (sig : UInt64) (exp : Int) : Scan Float := do
  skipDigits
  let c ← peekOrNull
  if c == 101 || c == 69 then exponentPart positive sig exp else toFloat positive sig exp

/-- Reads the digits after the point. -/
def fractionPart (positive : Bool) (sig : UInt64) (before : Int) : Scan Float := do
  bump
  let rec go (sig : UInt64) (after : Int) : Nat → Scan Float
    | 0 => pure 0.0
    | fuel + 1 => do
      let c ← peekOrNull
      if isDigit c then
        let d := c.toNat - 48
        if overflows sig d then fractionOverflow positive sig (before + after)
        else do
          bump
          go (sig * 10 + d.toUInt64) (after - 1) fuel
      else
        if after == 0 then
          match ← peek? with
          | some _ => failAhead .invalidNumber
          | none => failAhead .eofValue
        else
          let c ← peekOrNull
          if c == 101 || c == 69 then exponentPart positive sig (before + after)
          else toFloat positive sig (before + after)
  go sig 0 (← budget)

/-- An integer part too long for 64 bits: counts the dropped digits as exponent. -/
def longInteger (positive : Bool) (sig : UInt64) : Scan Float := do
  let rec go (exp : Int) : Nat → Scan Float
    | 0 => pure 0.0
    | fuel + 1 => do
      let c ← peekOrNull
      if isDigit c then do bump; go (exp + 1) fuel
      else if c == 46 then fractionPart positive sig exp
      else if c == 101 || c == 69 then exponentPart positive sig exp
      else toFloat positive sig exp
  go 0 (← budget)

/-- After the integer digits: a fraction, an exponent, or an integer. A negative
integer stays an integer when its magnitude is at most `2^63`; otherwise, and for
`-0`, it is a double. -/
def afterInteger (positive : Bool) (sig : UInt64) : Scan Num := do
  let c ← peekOrNull
  if c == 46 then return .float (← fractionPart positive sig 0)
  else if c == 101 || c == 69 then return .float (← exponentPart positive sig 0)
  else if positive then return .nat sig
  else if sig.toNat ≥ 1 && sig.toNat ≤ 9223372036854775808 then return .neg (-(sig.toNat : Int))
  else return .float (-sig.toFloat)

/-- Reads a number whose sign has been taken. -/
def integer (positive : Bool) : Scan Num := do
  match ← next? with
  | none => fail .eofValue
  | some c =>
    if c == 48 then
      if isDigit (← peekOrNull) then failAhead .invalidNumber else afterInteger positive 0
    else if isDigit c then
      let rec go (sig : UInt64) : Nat → Scan Num
        | 0 => pure (.nat sig)
        | fuel + 1 => do
          let c ← peekOrNull
          if isDigit c then
            let d := c.toNat - 48
            if overflows sig d then return .float (← longInteger positive sig)
            else do
              bump
              go (sig * 10 + d.toUInt64) fuel
          else afterInteger positive sig
      go (c.toNat - 48).toUInt64 (← budget)
    else fail .invalidNumber

/-- Reads a number at the position, sign included. -/
def number : Scan Num := do
  if (← peekOrNull) == 45 then do bump; integer false else integer true

/-- The value of a hexadecimal digit. -/
def hexValue (b : UInt8) : Option Nat :=
  if 48 ≤ b && b ≤ 57 then some (b.toNat - 48)
  else if 97 ≤ b && b ≤ 102 then some (b.toNat - 87)
  else if 65 ≤ b && b ≤ 70 then some (b.toNat - 55)
  else none

/-- Four hexadecimal digits: past the end is an unfinished string, a bad digit an
invalid escape placed after all four. -/
def hex4 : Scan Nat := do
  let bytes ← read
  let p ← get
  if p + 4 > bytes.size then do
    set bytes.size
    fail .eofString
  else
    set (p + 4)
    let ds := [p, p + 1, p + 2, p + 3].map fun i => hexValue (bytes[i]?.getD 0)
    match ds with
    | [some a, some b, some c, some d] => return ((a * 16 + b) * 16 + c) * 16 + d
    | _ => fail .invalidEscape

/-- The next byte, failing at the end of the text as an unfinished string. -/
def nextInString : Scan UInt8 := do
  match ← next? with
  | some b => return b
  | none => fail .eofString

/-- The byte at the position, failing at the end of the text as an unfinished string. -/
def peekInString : Scan UInt8 := do
  match ← peek? with
  | some b => return b
  | none => fail .eofString

/-- The UTF-8 bytes of a code point. -/
def utf8 (n : Nat) : List UInt8 := (String.singleton (Char.ofNat n)).toUTF8.toList

/-- Reads a `\u` escape: a low surrogate alone is refused, a high one must be followed
by an escaped low one. -/
def unicodeEscape : Scan (List UInt8) := do
  let n ← hex4
  if 0xDC00 ≤ n && n ≤ 0xDFFF then fail .loneLeadingSurrogate
  else if n < 0xD800 || n > 0xDBFF then return utf8 n
  else
    if (← peekInString) == 92 then bump else do bump; fail .unexpectedEndOfHexEscape
    if (← peekInString) == 117 then bump else do bump; fail .unexpectedEndOfHexEscape
    let n2 ← hex4
    if n2 < 0xDC00 || n2 > 0xDFFF then fail .loneLeadingSurrogate
    else return utf8 ((((n - 0xD800) <<< 10) ||| (n2 - 0xDC00)) + 0x10000)

/-- Reads the character after a backslash. -/
def escape : Scan (List UInt8) := do
  let c ← nextInString
  if c == 34 || c == 92 || c == 47 then return [c]
  else if c == 98 then return [8]
  else if c == 102 then return [12]
  else if c == 110 then return [10]
  else if c == 114 then return [13]
  else if c == 116 then return [9]
  else if c == 117 then unicodeEscape
  else fail .invalidEscape

/-- Skips bytes up to a quote, a backslash or a control character. -/
def skipPlain : Scan Unit := do
  let rec go : Nat → Scan Unit
    | 0 => pure ()
    | fuel + 1 => do
      match ← peek? with
      | some b => if b == 34 || b == 92 || b < 32 then pure () else do bump; go fuel
      | none => pure ()
  go (← budget)

/-- Reads a string after its opening quote, up to and past the closing one. -/
def string : Scan String := do
  let rec go (acc : ByteArray) : Nat → Scan ByteArray
    | 0 => pure acc
    | fuel + 1 => do
      let bytes ← read
      let start ← get
      skipPlain
      let p ← get
      let acc := acc ++ bytes.extract start p
      match bytes[p]? with
      | none => fail .eofString
      | some b =>
        if b == 34 then do bump; pure acc
        else if b == 92 then do
          bump
          let e ← escape
          go (acc ++ ⟨e.toArray⟩) fuel
        else do
          bump
          fail .controlCharacter
  let raw ← go ByteArray.empty (← budget)
  return (String.fromUTF8? raw).getD ""

/-- Skips the character after a backslash. -/
def skipEscape : Scan Unit := do
  let c ← nextInString
  if c == 34 || c == 92 || c == 47 || c == 98 || c == 102 || c == 110 || c == 114 || c == 116 then
    pure ()
  else if c == 117 then do
    let _ ← hex4
    pure ()
  else fail .invalidEscape

/-- Skips a string after its opening quote. -/
def skipString : Scan Unit := do
  let rec go : Nat → Scan Unit
    | 0 => pure ()
    | fuel + 1 => do
      skipPlain
      match ← peek? with
      | none => fail .eofString
      | some b =>
        if b == 34 then bump
        else if b == 92 then do bump; skipEscape; go fuel
        else fail .controlCharacter
  go (← budget)

/-- Skips a number, checking its form only. -/
def skipNumber : Scan Unit := do
  let exponent : Scan Unit := do
    bump
    let c ← peekOrNull
    if c == 43 || c == 45 then bump
    match ← next? with
    | some c => if isDigit c then skipDigits else fail .invalidNumber
    | none => fail .invalidNumber
  match ← next? with
  | some 48 => if isDigit (← peekOrNull) then failAhead .invalidNumber
  | some c => if 49 ≤ c && c ≤ 57 then skipDigits else fail .invalidNumber
  | none => fail .invalidNumber
  let c ← peekOrNull
  if c == 46 then do
    bump
    if !isDigit (← peekOrNull) then failAhead .invalidNumber
    skipDigits
    let c ← peekOrNull
    if c == 101 || c == 69 then exponent
  else if c == 101 || c == 69 then exponent

/-- One round of skipping: whether to stop, the open brackets, and the bracket just
finished or opened. -/
inductive SkipStep where
  | done
  | more (stack : List UInt8) (frame : UInt8)

/-- After a scalar, or on entering a bracket: closes finished brackets and takes the
next key of an object, giving the bracket the next value sits in. -/
def closeFrames (accept : Bool) (frame : UInt8) (stack : List UInt8) : Scan SkipStep := do
  let rec go (accept : Bool) (frame : UInt8) (stack : List UInt8) : Nat → Scan SkipStep
    | 0 => pure .done
    | fuel + 1 => do
      match ← skipBlanks with
      | some 44 =>
        if accept then do bump; pure (.more stack frame)
        else pure (.more stack frame)
      | some 93 =>
        if frame == 91 then do
          bump
          match stack with
          | f :: rest => go true f rest fuel
          | [] => pure .done
        else if accept then failAhead .expectedObjectCommaOrEnd else pure (.more stack frame)
      | some 125 =>
        if frame == 123 then do
          bump
          match stack with
          | f :: rest => go true f rest fuel
          | [] => pure .done
        else if accept then failAhead .expectedListCommaOrEnd else pure (.more stack frame)
      | some _ =>
        if accept then
          failAhead (if frame == 91 then .expectedListCommaOrEnd else .expectedObjectCommaOrEnd)
        else pure (.more stack frame)
      | none => failAhead (if frame == 91 then .eofList else .eofObject)
  go accept frame stack (← budget)

/-- Skips one whole value, checking its syntax but building nothing. Nesting is kept on
an explicit stack, so depth is not limited here. -/
def skipValue : Scan Unit := do
  let rec go (enclosing : Option UInt8) (stack : List UInt8) : Nat → Scan Unit
    | 0 => pure ()
    | fuel + 1 => do
      let opened ← match ← skipBlanks with
        | none => failAhead .eofValue
        | some 110 => do bump; word ull; pure none
        | some 116 => do bump; word rue; pure none
        | some 102 => do bump; word alse; pure none
        | some 45 => do bump; skipNumber; pure none
        | some 34 => do bump; skipString; pure none
        | some c =>
          if isDigit c then do skipNumber; pure none
          else if c == 91 || c == 123 then do bump; pure (some c)
          else failAhead .expectedValue
      let stack := match opened, enclosing with
        | some _, some e => e :: stack
        | _, _ => stack
      let (accept, frame, stack) := match opened, enclosing with
        | some f, _ => (false, some f, stack)
        | none, some e => (true, some e, stack)
        | none, none => match stack with
          | f :: rest => (true, some f, rest)
          | [] => (true, none, stack)
      match frame with
      | none => pure ()
      | some f =>
        match ← closeFrames accept f stack with
        | .done => pure ()
        | .more stack f =>
          if f == 123 then
            match ← skipBlanks with
            | some 34 => bump
            | some _ => failAhead .keyMustBeString
            | none => failAhead .eofObject
            skipString
            match ← skipBlanks with
            | some 58 => bump
            | some _ => failAhead .expectedColon
            | none => failAhead .eofObject
          go (some f) stack fuel
  go none [] (← budget)

end Scan

end DogCourier
