/-!
# Ranges of code points

Character properties are given as sorted lists of closed ranges, letter case as runs of code
points that move by one distance.
-/

namespace SyntaxInspector

/-- A closed range of code points, first and last. -/
abbrev CodeRange := Nat × Nat

/-- Membership in a sorted list of ranges; the search stops at the first range past `n`. -/
def inRanges : List CodeRange → Nat → Bool
  | [], _ => false
  | (first, last) :: rest, n =>
    if n < first then false else if n ≤ last then true else inRanges rest n

/-- Adds the range from `first` to `last` to ranges in order, joining all that it overlaps or touches. -/
def addRange (first last : Nat) : List CodeRange → List CodeRange
  | [] => [(first, last)]
  | (a, b) :: rest =>
    if last + 1 < a then (first, last) :: (a, b) :: rest
    else if b + 1 < first then (a, b) :: addRange first last rest
    else addRange (min first a) (max last b) rest

/-- Every `stride`-th code point from `first` to `last` moves by `distance`. -/
structure CaseRun where
  /-- First code point of the run. -/
  first : Nat
  /-- Last code point of the run. -/
  last : Nat
  /-- Step between code points of the run. -/
  stride : Nat
  /-- Signed distance to the other case. -/
  distance : Int

namespace CaseRun

/-- Whether a code point belongs to the run. -/
def covers (r : CaseRun) (n : Nat) : Bool :=
  r.first ≤ n && n ≤ r.last && (n - r.first) % r.stride == 0

/-- Where the run sends `n`, if it covers it. -/
def image? (r : CaseRun) (n : Nat) : Option Nat :=
  if r.covers n then some (n + r.distance).toNat else none

/-- The code points of the run, each with where it is sent. -/
def pairs (r : CaseRun) : List (Nat × Nat) :=
  (List.range ((r.last - r.first) / r.stride + 1)).map fun i =>
    let n := r.first + r.stride * i
    (n, (n + r.distance).toNat)

end CaseRun

end SyntaxInspector
