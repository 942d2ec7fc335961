/-! # Checking UTF-8

    A byte string is checked sequence by sequence. A sequence starts with a byte below
    `0x80` (one byte), `0xC2`–`0xDF` (two), `0xE0`–`0xEF` (three) or `0xF0`–`0xF4`
    (four); its second byte must lie in the range its first byte allows (which rules
    out overlong forms, surrogates and code points past `0x10FFFF`) and its other bytes
    must be continuation bytes `0x80`–`0xBF`. The first bad sequence is reported by
    where it starts and how many of its bytes were read before it went wrong, or as
    incomplete when the string ends inside it. -/

namespace DogCourier

/-- The first fault of a byte string that is not UTF-8. -/
structure Utf8Fault where
  /-- Length of the longest valid prefix. -/
  validUpTo : Nat
  /-- Bytes of the bad sequence, or `none` when the input ends inside it. -/
  errorLen : Option Nat
  deriving DecidableEq, Inhabited

/-- The fault's text. -/
def Utf8Fault.message (f : Utf8Fault) : String :=
  let i := f.validUpTo
  match f.errorLen with
  | some n => s!"invalid utf-8 sequence of {n} bytes from index {i}"
  | none => s!"incomplete utf-8 byte sequence from index {i}"

namespace Utf8

/-- A continuation byte. -/
def isCont (b : UInt8) : Bool := 0x80 ≤ b && b ≤ 0xBF

/-- The length of the sequence a first byte starts, or 0 if it starts none. -/
def width (b : UInt8) : Nat :=
  if b < 0x80 then 1
  else if 0xC2 ≤ b && b ≤ 0xDF then 2
  else if 0xE0 ≤ b && b ≤ 0xEF then 3
  else if 0xF0 ≤ b && b ≤ 0xF4 then 4
  else 0

/-- The second bytes a first byte allows. -/
def secondOk (first second : UInt8) : Bool :=
  if first == 0xE0 then 0xA0 ≤ second && second ≤ 0xBF
  else if first == 0xED then 0x80 ≤ second && second ≤ 0x9F
  else if first == 0xF0 then 0x90 ≤ second && second ≤ 0xBF
  else if first == 0xF4 then 0x80 ≤ second && second ≤ 0x8F
  else isCont second

/-- Checks the sequence starting at `i`: its length if it is good, else the fault. -/
def sequenceAt (bs : ByteArray) (i : Nat) : Except Utf8Fault Nat :=
  let at? (k : Nat) : Option UInt8 := if h : i + k < bs.size then some bs[i + k] else none
  let fault (n : Option Nat) : Except Utf8Fault Nat := .error ⟨i, n⟩
  match at? 0 with
  | none => .ok 0
  | some b =>
    let w := width b
    if w == 1 then .ok 1
    else if w == 0 then fault (some 1)
    else match at? 1 with
      | none => fault none
      | some c =>
        if !(if w == 2 then isCont c else secondOk b c) then fault (some 1)
        else if w == 2 then .ok 2
        else match at? 2 with
          | none => fault none
          | some d =>
            if !isCont d then fault (some 2)
            else if w == 3 then .ok 3
            else match at? 3 with
              | none => fault none
              | some e => if !isCont e then fault (some 3) else .ok 4

/-- Checks from `i` on, one sequence per unit of fuel. -/
def checkFrom (bs : ByteArray) : Nat → Nat → Option Utf8Fault
  | 0, _ => none
  | fuel + 1, i =>
    if i ≥ bs.size then none
    else match sequenceAt bs i with
      | .error f => some f
      | .ok n => checkFrom bs fuel (i + n)

end Utf8

/-- The first fault of a byte string, or `none` if it is UTF-8. -/
def utf8Fault (bs : ByteArray) : Option Utf8Fault := Utf8.checkFrom bs (bs.size + 1) 0

end DogCourier
