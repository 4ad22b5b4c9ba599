import SyntaxInspector.Pattern.CharSet

/-!
# Patterns

Regular expressions after reading: flags are gone, every character test is a set.
-/

namespace SyntaxInspector

/-- A test on whether there are word characters on either side of a position. -/
inductive WordTest where
  /-- A word starts or ends here. -/
  | boundary
  /-- No word starts or ends here. -/
  | noBoundary
  /-- A word starts here. -/
  | start
  /-- A word ends here. -/
  | stop
  /-- No word character before. -/
  | startHalf
  /-- No word character after. -/
  | stopHalf
deriving DecidableEq

/-- Whether the test holds, given whether the neighbours are word characters. -/
def WordTest.holds (before after : Bool) : WordTest → Bool
  | .boundary => before != after
  | .noBoundary => before == after
  | .start => !before && after
  | .stop => before && !after
  | .startHalf => !before
  | .stopHalf => !after

/-- A test on the characters before and after a position. -/
inductive Look where
  /-- The start of the text. -/
  | textStart
  /-- The end of the text. -/
  | textEnd
  /-- The start of a line. -/
  | lineStart
  /-- The end of a line. -/
  | lineEnd
  /-- The start of a line, where a carriage return, a line feed or both in that order end a line. -/
  | pairedLineStart
  /-- The end of a line, where a carriage return, a line feed or both in that order end a line. -/
  | pairedLineEnd
  /-- A test on words made of the characters of a set. -/
  | word (test : WordTest) (chars : CharSet)
deriving DecidableEq

/-- Whether the test holds between the characters `before` and `after`. -/
def Look.holds (before after : Option Char) : Look → Bool
  | .textStart => before.isNone
  | .textEnd => after.isNone
  | .lineStart => before.all (· = '\n')
  | .lineEnd => after.all (· = '\n')
  | .pairedLineStart => before.all fun c => c = '\n' || (c = '\r' && after != some '\n')
  | .pairedLineEnd => after.all fun c => c = '\r' || (c = '\n' && before != some '\r')
  | .word test chars => test.holds (before.any chars.mem) (after.any chars.mem)

/-- A regular expression. -/
inductive Pattern where
  /-- Matches the empty text. -/
  | empty
  /-- Matches the empty text where a test holds. -/
  | look (test : Look)
  /-- Matches one character of a set. -/
  | char (set : CharSet)
  /-- A numbered group. Its number tells it apart from every other group of the pattern. -/
  | group (number : Nat) (body : Pattern)
  /-- Matches the first pattern, then the second. -/
  | seq (p q : Pattern)
  /-- Matches the first pattern or, failing that, the second. -/
  | alt (p q : Pattern)
  /-- Matches a pattern `least` times up to `most` times (without limit if `none`); as often as
  possible if `greedy`, else as seldom as possible. -/
  | rep (body : Pattern) (least : Nat) (most : Option Nat) (greedy : Bool)
deriving DecidableEq

namespace Pattern

/-- The fewest characters of a match; `none` if some branch cannot match at all. -/
def minLength : Pattern → Option Nat
  | .empty => some 0
  | .look _ => some 0
  | .char set => if set.isEmpty then none else some 1
  | .group _ p => p.minLength
  | .seq p q => do return (← p.minLength) + (← q.minLength)
  | .alt p q => do return min (← p.minLength) (← q.minLength)
  | .rep p least _ _ => p.minLength.map (least * ·)

/-- The most characters of a match; `none` if there is no bound or some branch cannot match. -/
def maxLength : Pattern → Option Nat
  | .empty => some 0
  | .look _ => some 0
  | .char set => if set.isEmpty then none else some 1
  | .group _ p => p.maxLength
  | .seq p q => do return (← p.maxLength) + (← q.maxLength)
  | .alt p q => do return max (← p.maxLength) (← q.maxLength)
  | .rep p _ most _ => do return (← most) * (← p.maxLength)

/-- How many steps a program for the pattern has, with copies for counted repetitions and several
steps for a set of characters outside ASCII. -/
def size : Pattern → Nat
  | .empty => 1
  | .look _ => 1
  | .char set => set.weight
  | .group _ p => p.size + 2
  | .seq p q => p.size + q.size
  | .alt p q => p.size + q.size + 1
  | .rep p least none _ => max least 1 * p.size + 2
  | .rep p least (some most) _ => most * p.size + (most - least)

/-- Whether every match takes up some of the text. -/
def consumes (p : Pattern) : Bool := p.minLength.any (0 < ·)

end Pattern

end SyntaxInspector
