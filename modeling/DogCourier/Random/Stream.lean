import DogCourier.Random.ChaCha

/-! # Random streams

    A stream is a ChaCha12 key and a position in its sequence of 32-bit output words:
    word `p` is word `p % 16` of block `p / 16`. Drawing reads words in order, so a
    stream is determined by its key and how many words have been read.

    * A 32-bit draw reads one word; a 64-bit draw reads two, the first as the low half.
    * A unit draw keeps the top 53 bits of a 64-bit draw and scales them into `[0, 1)`.
    * A draw below `n` multiplies a full-width draw by `n` and keeps the high half,
      rejecting draws whose low half falls above the largest multiple of `n` shifted to
      the top of the word (minus one); this makes every value below `n` equally likely.

    A key comes from a 64-bit seed by eight steps of a permuted congruential generator,
    whose outputs are the key words. A session's seed mixes the game seed with the bytes
    of its map id. -/

namespace DogCourier

/-- A ChaCha12 key and the number of words read so far. -/
structure Stream where
  key : Array UInt32
  position : Nat
  deriving Inhabited

namespace Stream

/-- The multiplier of the congruential seeding generator. -/
def pcgMultiplier : UInt64 := 6364136223846793005

/-- The increment of the congruential seeding generator. -/
def pcgIncrement : UInt64 := 11634580027462260723

/-- Rotation of a word to the right by `n` bits, `n < 32`. -/
def rotr (x : UInt32) (n : UInt32) : UInt32 := (x >>> n) ||| (x <<< (32 - n))

/-- One output of the seeding generator after advancing its state. -/
def pcgStep (state : UInt64) : UInt32 × UInt64 :=
  let state := state * pcgMultiplier + pcgIncrement
  let xorshifted := (((state >>> 18) ^^^ state) >>> 27).toUInt32
  (rotr xorshifted (state >>> 59).toUInt32, state)

/-- The first `n` outputs of the seeding generator from `state`. -/
def pcgWords : Nat → UInt64 → List UInt32
  | 0, _ => []
  | n + 1, state =>
    let (w, state) := pcgStep state
    w :: pcgWords n state

/-- The stream seeded by a 64-bit number, at its start. -/
def ofSeed (seed : Nat) : Stream := ⟨(pcgWords 8 (UInt64.ofNat seed)).toArray, 0⟩

/-- The seed of the stream of a session on the map with id `mapId`. -/
def sessionSeed (seed : Nat) (mapId : String) : Nat :=
  let start := UInt64.ofNat seed * pcgMultiplier
  let mix (h : UInt64) (b : UInt8) : UInt64 :=
    let h := h + b.toUInt64
    let h := h ^^^ (h >>> 33)
    h * 0xff51afd7ed558ccd
  (mapId.toUTF8.toList.foldl mix start).toNat

/-- Reads one 32-bit word. -/
def nextWord (s : Stream) : Nat × Stream :=
  ((ChaCha.block s.key (s.position / 16))[s.position % 16]!.toNat, { s with position := s.position + 1 })

/-- Reads a 64-bit value: the low word first, then the high word. -/
def nextWide (s : Stream) : Nat × Stream :=
  let (lo, s) := s.nextWord
  let (hi, s) := s.nextWord
  (hi * Nat.pow 2 32 + lo, s)

/-- A float in `[0, 1)` from the top 53 bits of a 64-bit value. -/
def unit (s : Stream) : Float × Stream :=
  let (v, s) := s.nextWide
  ((UInt64.ofNat (v / Nat.pow 2 11)).toFloat / 9007199254740992.0, s)

/-- The largest accepted low half when drawing below `range` with `bits`-bit draws. -/
def zone (bits range : Nat) : Nat := range * Nat.pow 2 (bits - (Nat.log2 range + 1)) - 1

/-- Draws below `range` with `bits`-bit draws from `draw`, trying at most `fuel` draws and
giving 0 when all are rejected. A draw is kept when `zone bits range + 1` draws out of the
`2 ^ bits` would be, at least half of them, so all `fuel` tries fail with chance at most
`2 ^ (-fuel)`; the unbounded retry loop it stands for never gives up. -/
def sample (bits : Nat) (draw : Stream → Nat × Stream) (range : Nat) :
    Nat → Stream → Nat × Stream
  | 0, s => (0, s)
  | fuel + 1, s =>
    let (v, s) := draw s
    let product := v * range
    if product % Nat.pow 2 bits ≤ zone bits range then (product / Nat.pow 2 bits, s)
    else sample bits draw range fuel s

/-- The number of draws tried before giving up on a draw below a range. -/
def sampleFuel : Nat := 64

/-- A number below `range` from 64-bit draws. -/
def below (s : Stream) (range : Nat) : Nat × Stream :=
  if range = 0 then (0, s) else sample 64 nextWide range sampleFuel s

/-- A number below `range` from 32-bit draws. -/
def belowNarrow (s : Stream) (range : Nat) : Nat × Stream :=
  if range = 0 then (0, s) else sample 32 nextWord range sampleFuel s

end Stream

end DogCourier
