/-!
A seeded stream of 64-bit words: a state of four words stepped by shifts and rotations, its first
state filled from the seed by a mixing counter.
-/

namespace QuadraticTrials

/-- The state of a stream. -/
structure Stream where
  a : UInt64
  b : UInt64
  c : UInt64
  d : UInt64
  deriving DecidableEq, Repr

namespace Stream

/-- A word rotated to the left. -/
def rotate (w : UInt64) (places : UInt64) : UInt64 :=
  (w <<< places) ||| (w >>> (64 - places))

/-- The step of the counter that fills a state. -/
def counterStep : UInt64 := 0x9e3779b97f4a7c15

/-- The mixed form of a counter. -/
def mix (counter : UInt64) : UInt64 :=
  let z := (counter ^^^ (counter >>> 30)) * 0xbf58476d1ce4e5b9
  let z := (z ^^^ (z >>> 27)) * 0x94d049bb133111eb
  z ^^^ (z >>> 31)

/-- The first state of a seed: four successive counters, mixed. -/
def ofSeed (seed : UInt64) : Stream :=
  let word (k : UInt64) : UInt64 := mix (seed + k * counterStep)
  ⟨word 1, word 2, word 3, word 4⟩

/-- The next word, and the state after it. -/
def next (s : Stream) : UInt64 × Stream :=
  let word := rotate (s.b * 5) 7 * 9
  let c := s.c ^^^ s.a
  let d := s.d ^^^ s.b
  (word, ⟨s.a ^^^ d, s.b ^^^ c, c ^^^ (s.b <<< 17), rotate d 45⟩)

end Stream

end QuadraticTrials
