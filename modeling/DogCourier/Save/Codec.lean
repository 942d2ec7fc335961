import DogCourier.Save.Data
import DogCourier.Text.Utf8

/-! # The binary save format

    Saved games are written in a fixed-width little-endian layout:

    * integers as 4 bytes (the version, a direction, a duration's nanoseconds) or 8
      bytes (ids, counters, scores, loot kinds, lengths, a duration's seconds);
    * a double as the 8 bytes of its bit pattern, kept as it is read;
    * a string as its byte length and its UTF-8 bytes, a list as its length and its
      items, a point as `x` then `y`, a direction as its number (north 0, south 1,
      west 2, east 3);
    * a saved game as its version, its sessions and its records; a session as its map
      id, both counters, its loot and its dogs; loot as id, kind, position; a dog as id,
      name, position, previous position, velocity, direction, score, bag, time alive
      and time of its last move; a record as name, score and play time.

    Reading stops at the first fault: a fixed-width read past the end, a string that
    runs past the end, a string that is not UTF-8, a direction number above 3, or a
    duration whose nanoseconds carry its seconds past the largest 64-bit value (other
    nanoseconds of a second or more are carried into the seconds). Bytes after a
    complete saved game are ignored. The readers of records, dogs, sessions and games
    take the duration reader as a parameter; a saved game is read with `duration`. -/

namespace DogCourier

/-- Why a byte string is not a saved game. -/
inductive CodecError where
  /-- A fixed-width read ran past the end. -/
  | endOfInput
  /-- A string ran past the end. -/
  | shortString
  | badText (f : Utf8Fault)
  | badDirection (index : Nat)
  | durationOverflow
  deriving Inhabited

/-- The error's text. -/
def CodecError.message : CodecError → String
  | .endOfInput => "io error: unexpected end of file"
  | .shortString => "io error: "
  | .badText f => "string is not valid utf8: " ++ f.message
  | .badDirection i => s!"invalid value: integer \x60{i}\x60, expected variant index 0 <= i < 4"
  | .durationOverflow => "overflow deserializing Duration"

namespace Codec

/-- The `width` low bytes of `n`, least significant first. -/
def le (width n : Nat) : List UInt8 := (List.range width).map fun k => UInt8.ofNat (n / Nat.pow 256 k % 256)

/-- A 4-byte integer. -/
def putU32 (n : Nat) : List UInt8 := le 4 n

/-- An 8-byte integer. -/
def putU64 (n : Nat) : List UInt8 := le 8 n

/-- A double given by its bit pattern. -/
def putBits (x : Binary64) : List UInt8 := le 8 x.bits.toNat

/-- Two doubles by their bit patterns. -/
def putCoords (c : Coords) : List UInt8 := putBits c.x ++ putBits c.y

/-- A string's length and bytes. -/
def putStr (s : String) : List UInt8 := putU64 s.utf8ByteSize ++ s.toUTF8.toList

/-- A list's length and items. -/
def putList {α : Type} (f : α → List UInt8) (xs : List α) : List UInt8 :=
  putU64 xs.length ++ (xs.map f).flatten

/-- A duration: whole seconds, then nanoseconds. -/
def putDuration (d : Duration) : List UInt8 := putU64 d.secs ++ putU32 d.subsec

/-- The number of a direction. -/
def Direction.index : Direction → Nat
  | .north => 0
  | .south => 1
  | .west => 2
  | .east => 3

/-- Loot. -/
def putLoot (l : Loot) : List UInt8 := putU64 l.id ++ putU64 l.kind ++ putCoords l.position

/-- A dog. -/
def putDog (d : SavedDog) : List UInt8 :=
  putU64 d.id ++ putStr d.name ++ putCoords d.position ++ putCoords d.previous ++
    putCoords d.velocity ++ putU32 (Direction.index d.direction) ++
    putU64 d.score ++ putList putLoot d.bag ++ putDuration d.alive ++ putDuration d.lastMoved

/-- A session. -/
def putSession (s : SavedSession) : List UInt8 :=
  putStr s.mapId ++ putU64 s.nextDogId ++ putU64 s.nextLootId ++ putList putLoot s.loot ++
    putList putDog s.dogs

/-- A record. -/
def putRecord (r : Record) : List UInt8 := putStr r.name ++ putU64 r.score ++ putDuration r.playTime

/-- Reading from a byte string at a position. -/
abbrev Decoder := ReaderT ByteArray (StateT Nat (Except CodecError))

/-- The next `n` bytes, which must all be there. -/
def take (n : Nat) (short : CodecError) : Decoder ByteArray := do
  let bytes ← read
  let pos ← get
  if pos + n > bytes.size then throw short
  set (pos + n)
  return bytes.extract pos (pos + n)

/-- A little-endian number of `n` bytes. -/
def fixed (n : Nat) : Decoder Nat := do
  let b ← take n .endOfInput
  return b.toList.foldr (fun x acc => acc * 256 + x.toNat) 0

/-- A 4-byte integer. -/
def u32 : Decoder Nat := fixed 4

/-- An 8-byte integer. -/
def u64 : Decoder Nat := fixed 8

/-- A double's bit pattern, kept as it is. -/
def bits : Decoder Binary64 := do return ⟨UInt64.ofNat (← u64)⟩

/-- A string. -/
def str : Decoder String := do
  let n ← u64
  let b ← take n .shortString
  match String.fromUTF8? b with
  | some s => return s
  | none => throw (.badText ((utf8Fault b).getD ⟨0, none⟩))

/-- `n` items, or fewer if the input cannot hold more (every item takes a byte). -/
def items {α : Type} (item : Decoder α) : Nat → Decoder (List α)
  | 0 => return []
  | n + 1 => do
    let x ← item
    let rest ← items item n
    return x :: rest

/-- A list: its length, then its items. -/
def list {α : Type} (item : Decoder α) : Decoder (List α) := do
  let n ← u64
  let size := (← read).size
  items item (min n (size + 1))

/-- Two doubles by their bit patterns. -/
def coords : Decoder Coords := do
  let x ← bits
  let y ← bits
  return ⟨x, y⟩

/-- A duration, carrying whole seconds out of the nanoseconds. -/
def duration : Decoder Duration := do
  let secs ← u64
  let nanos ← u32
  if secs + nanos / nanosPerSec ≥ Nat.pow 2 64 then throw .durationOverflow
  match Duration.ofParts? secs nanos with
  | some d => return d
  | none => throw .durationOverflow

/-- A direction from its number. -/
def direction : Decoder Direction := do
  match ← u32 with
  | 0 => return .north
  | 1 => return .south
  | 2 => return .west
  | 3 => return .east
  | i => throw (.badDirection i)

/-- Loot. -/
def loot : Decoder Loot := do
  let id ← u64
  let kind ← u64
  let p ← coords
  return ⟨id, kind, p⟩

/-- A dog, its durations read by `dur`. -/
def dog (dur : Decoder Duration) : Decoder SavedDog := do
  let id ← u64
  let name ← str
  let position ← coords
  let previous ← coords
  let velocity ← coords
  let direction ← direction
  let score ← u64
  let bag ← list loot
  let alive ← dur
  let lastMoved ← dur
  return ⟨id, name, position, previous, velocity, direction, score, bag, alive, lastMoved⟩

/-- A session, its dogs' durations read by `dur`. -/
def session (dur : Decoder Duration) : Decoder SavedSession := do
  let mapId ← str
  let nextDog ← u64
  let nextLoot ← u64
  let l ← list loot
  let d ← list (dog dur)
  return ⟨mapId, nextDog, nextLoot, l, d⟩

/-- A record, its play time read by `dur`. -/
def record (dur : Decoder Duration) : Decoder Record := do
  let name ← str
  let score ← u64
  let t ← dur
  return ⟨name, score, t⟩

/-- A saved game, its durations read by `dur`. -/
def saveData (dur : Decoder Duration) : Decoder SaveData := do
  let version ← u32
  let sessions ← list (session dur)
  let records ← list (record dur)
  return ⟨version, sessions, records⟩

end Codec

/-- The bytes of a saved game. -/
def SaveData.encode (d : SaveData) : ByteArray :=
  ⟨(Codec.putU32 d.version ++ Codec.putList Codec.putSession d.sessions ++
    Codec.putList Codec.putRecord d.leaderboard).toArray⟩

/-- Reads a saved game from the start of a byte string. -/
def SaveData.decode (bytes : ByteArray) : Except CodecError SaveData :=
  (((Codec.saveData Codec.duration).run bytes).run 0).map (·.1)

end DogCourier
