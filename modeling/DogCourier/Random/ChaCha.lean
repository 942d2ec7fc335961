/-! # The ChaCha12 block function

    A block is sixteen 32-bit words computed from a 256-bit key and a 64-bit block
    counter: the four constant words of "expand 32-byte k", the eight key words, the
    counter's low and high words, and a zero nonce of two words. Six double rounds (a
    column round and a diagonal round each, so twelve rounds) mix a copy of that state,
    and the block is the mixed state added word by word to the input state. -/

namespace DogCourier

namespace ChaCha

/-- Rotation of a word to the left by `n` bits, `0 < n < 32`. -/
def rotl (x : UInt32) (n : UInt32) : UInt32 := (x <<< n) ||| (x >>> (32 - n))

/-- The quarter round on the words at positions `a`, `b`, `c`, `d`. -/
def quarter (s : Array UInt32) (a b c d : Nat) : Array UInt32 :=
  let va := s[a]! + s[b]!
  let vd := rotl (s[d]! ^^^ va) 16
  let vc := s[c]! + vd
  let vb := rotl (s[b]! ^^^ vc) 12
  let va := va + vb
  let vd := rotl (vd ^^^ va) 8
  let vc := vc + vd
  let vb := rotl (vb ^^^ vc) 7
  ((s.set! a va).set! b vb |>.set! c vc).set! d vd

/-- A column round followed by a diagonal round. -/
def doubleRound (s : Array UInt32) : Array UInt32 :=
  let s := quarter s 0 4 8 12
  let s := quarter s 1 5 9 13
  let s := quarter s 2 6 10 14
  let s := quarter s 3 7 11 15
  let s := quarter s 0 5 10 15
  let s := quarter s 1 6 11 12
  let s := quarter s 2 7 8 13
  quarter s 3 4 9 14

/-- Applies `f` to `x`, `n` times. -/
def iterate {α : Type} (f : α → α) : Nat → α → α
  | 0, x => x
  | n + 1, x => iterate f n (f x)

/-- The input state for block number `counter` under `key` (eight words). -/
def input (key : Array UInt32) (counter : Nat) : Array UInt32 :=
  #[0x61707865, 0x3320646e, 0x79622d32, 0x6b206574] ++ key ++
    #[UInt32.ofNat (counter % Nat.pow 2 32), UInt32.ofNat (counter / Nat.pow 2 32 % Nat.pow 2 32), 0, 0]

/-- The sixteen output words of block number `counter`. -/
def block (key : Array UInt32) (counter : Nat) : Array UInt32 :=
  let s := input key counter
  let mixed := iterate doubleRound 6 s
  (List.range 16).toArray.map fun i => mixed[i]! + s[i]!

end ChaCha

end DogCourier
