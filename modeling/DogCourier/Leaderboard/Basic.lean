import DogCourier.Time.Duration

/-! # The leaderboard

    Retired dogs are kept in rank order: the higher score first, then the shorter play
    time, then the name in code point order (which is the byte order of UTF-8). Building
    from a list is a stable sort; a new record goes after every record that does not rank
    after it, so equal records keep their arrival order. A page is the slice from a
    start, both ends clamped to the list. -/

namespace DogCourier

/-- The final record of a retired dog. -/
structure Record where
  name : String
  score : Nat
  playTime : Duration
  deriving Inhabited, DecidableEq

/-- The rank order of records. -/
def Record.rank (a b : Record) : Ordering :=
  (compare b.score a.score).then ((compare a.playTime.nanos b.playTime.nanos).then (compare a.name b.name))

/-- Records in rank order. -/
structure Leaderboard where
  records : List Record
  deriving Inhabited

namespace Leaderboard

/-- The empty board. -/
def empty : Leaderboard := ⟨[]⟩

/-- The board holding `rs`, stably sorted by rank. -/
def ofRecords (rs : List Record) : Leaderboard :=
  ⟨rs.mergeSort fun a b => Record.rank a b != .gt⟩

/-- Inserts a record after every record that does not rank after it. -/
def insert (lb : Leaderboard) (r : Record) : Leaderboard :=
  let before := lb.records.takeWhile fun x => Record.rank x r != .gt
  ⟨before ++ r :: lb.records.drop before.length⟩

/-- Inserts records one by one. -/
def extend (lb : Leaderboard) (rs : List Record) : Leaderboard := rs.foldl insert lb

/-- The number of records. -/
def size (lb : Leaderboard) : Nat := lb.records.length

/-- Up to `count` records from position `start`, both clamped to the board. -/
def page (lb : Leaderboard) (start count : Nat) : List Record :=
  let s := min start lb.size
  (lb.records.drop s).take count

end Leaderboard

end DogCourier
