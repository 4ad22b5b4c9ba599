import SyntaxInspector.Pattern.Table.CaseFold
import SyntaxInspector.Pattern.Table.Decimal
import SyntaxInspector.Pattern.Table.Word
import SyntaxInspector.Text.Table.Space

/-!
# Sets of characters

The sets that patterns are made of, as ranges of code points in order, none of which touches the
next. Two ways of writing one set thus give equal values, which the normal form of patterns relies
on.

* `CharSet.mem` — membership;
* `union`, `inter`, `diff`, `symmDiff`, `compl` — the set operators of bracketed classes;
* `foldedBy` — the set closed under letter case.
-/

namespace SyntaxInspector

/-- A set of characters. -/
structure CharSet where
  /-- The ranges, in order. -/
  ranges : List CodeRange
deriving DecidableEq

namespace CharSet

/-- Whether a code point belongs to the set. -/
def has (s : CharSet) (n : Nat) : Bool := inRanges s.ranges n

/-- Membership. -/
def mem (s : CharSet) (c : Char) : Bool := s.has c.toNat

/-- The set without characters. -/
def empty : CharSet := ⟨[]⟩

/-- Whether the set has no character. -/
def isEmpty (s : CharSet) : Bool := s.ranges.isEmpty

/-- The characters from the first to the last. -/
def range (first last : Char) : CharSet := ⟨[(first.toNat, last.toNat)]⟩

/-- The set of one character. -/
def single (c : Char) : CharSet := range c c

/-- Adds a code point. -/
def insert (s : CharSet) (n : Nat) : CharSet := if s.has n then s else ⟨addRange n n s.ranges⟩

@[simp] theorem mem_empty (c : Char) : empty.mem c = false := rfl

@[simp] theorem mem_range (first last c : Char) :
    (range first last).mem c = decide (first.toNat ≤ c.toNat ∧ c.toNat ≤ last.toNat) := by
  unfold mem has range
  simp only [inRanges]
  grind

/-! ### Operators -/

/-- The characters of either set. -/
def union (s t : CharSet) : CharSet :=
  ⟨t.ranges.foldl (fun ranges r => addRange r.1 r.2 ranges) s.ranges⟩

/-- The code point of the character after `n`; surrogates are no characters. -/
def nextCode (n : Nat) : Nat := if n = 0xd7ff then 0xe000 else n + 1

/-- The code point of the character before `n`. -/
def previousCode (n : Nat) : Nat := if n = 0xe000 then 0xd7ff else n - 1

/-- What ranges in order leave out, from a code point on. -/
def gaps : Nat → List CodeRange → List CodeRange
  | n, [] => if n ≤ 0x10ffff then [(n, 0x10ffff)] else []
  | n, (first, last) :: rest =>
    if n < first then (n, previousCode first) :: gaps (nextCode last) rest
    else gaps (nextCode last) rest

/-- All other characters. -/
def compl (s : CharSet) : CharSet := ⟨gaps 0 s.ranges⟩

/-- The characters of both sets. -/
def inter (s t : CharSet) : CharSet := (s.compl.union t.compl).compl

/-- The characters of the first set only. -/
def diff (s t : CharSet) : CharSet := s.inter t.compl

/-- The characters of exactly one of the sets. -/
def symmDiff (s t : CharSet) : CharSet := (s.union t).diff (s.inter t)

/-- The complement when `negated` holds, the set itself otherwise. -/
def complIf (negated : Bool) (s : CharSet) : CharSet := if negated then s.compl else s

/-! ### Letter case -/

/-- The code points that case folding moves, each with its fold. -/
def foldPairs : List (Nat × Nat) := foldRuns.flatMap CaseRun.pairs

/-- The letters from A to Z, each with its lowercase form. -/
def asciiFoldPairs : List (Nat × Nat) := CaseRun.pairs ⟨0x41, 0x5a, 1, 32⟩

/-- The characters whose fold is that of some member, given which code points fold to which others.
The folds of members come first; then everything that folds to one of those. -/
def foldedBy (pairs : List (Nat × Nat)) (s : CharSet) : CharSet :=
  let folds := pairs.foldl (fun t (n, fold) => if s.has n then t.insert fold else t) s
  pairs.foldl (fun t (n, fold) => if folds.has fold then t.insert n else t) folds

/-! ### Classes with a notation of their own -/

/-- The characters of some ranges, which are given in order. -/
def ofRanges (ranges : List (Char × Char)) : CharSet :=
  ⟨ranges.map fun (first, last) => (first.toNat, last.toNat)⟩

/-- Decimal digits of every script. -/
def decimal : CharSet := ⟨decimalRanges⟩

/-- White space. -/
def space : CharSet := ⟨spaceRanges⟩

/-- Characters of words. -/
def word : CharSet := ⟨wordRanges⟩

/-- The digits from 0 to 9. -/
def asciiDecimal : CharSet := range '0' '9'

/-- White space of ASCII. -/
def asciiSpace : CharSet := ofRanges [('\t', '\r'), (' ', ' ')]

/-- ASCII letters and digits and the underscore. -/
def asciiWord : CharSet := ofRanges [('0', '9'), ('A', 'Z'), ('_', '_'), ('a', 'z')]

/-- Whether all characters of the set are ASCII. -/
def isAscii (s : CharSet) : Bool := s.ranges.all (·.2 < 0x80)

/-- The weight of the set in a program, where a character outside ASCII takes several steps. -/
def weight (s : CharSet) : Nat :=
  match s.ranges with
  | [(first, last)] => if first = last then (Char.ofNat first).utf8Size else 2
  | ranges => if s.isAscii then 2 else 2 * ranges.length + 8

end CharSet

end SyntaxInspector
