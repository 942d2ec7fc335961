/-! # Jaro similarity

    The Jaro similarity of two strings counts the characters of the first that equal a
    not yet matched character of the second within a window of half the longer length
    (less one) around the same position, and the transpositions: the positions where the
    matched characters, read in order in each string, differ, halved. With `m` matches
    and `t` transpositions it is `(m / |a| + m / |b| + (m - t) / m) / 3`, or 0 without
    matches; two empty strings are identical (1) and an empty string is like nothing
    else (0). -/

namespace DogCourier

namespace Similar

/-- The first unmatched position `j` of `b` in `[lo, hi)` holding `c`. -/
def slot (b : Array Char) (taken : Array Bool) (c : Char) (lo hi : Nat) : Option Nat :=
  (List.range hi).find? fun j => lo ≤ j && b[j]! == c && !taken[j]!

/-- Matches the characters of `a` from position `i` on against `b`. -/
def matchFrom (b : Array Char) (range : Nat) :
    List Char → Nat → List Bool × Array Bool → List Bool × Array Bool
  | [], _, acc => acc
  | c :: rest, i, (marks, taken) =>
    let lo := i - range
    let hi := min b.size (i + range + 1)
    match slot b taken c lo hi with
    | some j => matchFrom b range rest (i + 1) (marks ++ [true], taken.set! j true)
    | none => matchFrom b range rest (i + 1) (marks ++ [false], taken)

/-- The characters at the marked positions. -/
def marked (xs : List Char) (marks : List Bool) : List Char :=
  ((xs.zip marks).filter (·.2)).map (·.1)

end Similar

/-- The Jaro similarity of two strings, by characters. -/
def jaro (x y : String) : Float :=
  let a := x.toList
  let b := y.toList
  if a.isEmpty && b.isEmpty then 1.0
  else if a.isEmpty || b.isEmpty then 0.0
  else
    let range := max a.length b.length / 2 - 1
    let (marks, taken) := Similar.matchFrom b.toArray range a 0 ([], Array.replicate b.length false)
    let ma := Similar.marked a marks
    let mb := Similar.marked b taken.toList
    let m := ma.length
    let t := ((ma.zip mb).filter fun p => p.1 != p.2).length / 2
    if m = 0 then 0.0
    else (m.toFloat / a.length.toFloat + m.toFloat / b.length.toFloat + (m - t).toFloat / m.toFloat) / 3.0

end DogCourier
