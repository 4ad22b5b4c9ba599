import SyntaxInspector.Pattern.Basic
import SyntaxInspector.Text.CharClass

/-!
# Flags of patterns

Flags change what the pieces of a pattern stand for. They are set for the rest of a group or for the
inside of one.

* `Flags` — the flags in force;
* `Flags.skip` — leaves out blanks and comments where the flags say so;
* `Flags.literal`, `Flags.dot?`, `Flags.caret`, `Flags.dollar` — pieces whose meaning they decide.
-/

namespace SyntaxInspector

namespace Pattern

/-- The flags in force. -/
structure Flags where
  /-- Letters match in either case. -/
  ignoreCase : Bool := false
  /-- `^` and `$` match at line ends too. -/
  multiLine : Bool := false
  /-- `.` matches line ends too. -/
  dotAll : Bool := false
  /-- Greedy and lazy repetitions change places. -/
  swapGreed : Bool := false
  /-- A carriage return ends a line too, and together with a line feed after it ends one line. -/
  pairedLines : Bool := false
  /-- Classes and letter case reach beyond ASCII. -/
  unicode : Bool := true
  /-- Blanks and comments are left out of the notation. -/
  ignoreBlanks : Bool := false

/-- Drops blanks and comments, from inside a comment or not. A comment runs from a number sign to
the end of its line. -/
def dropBlanks (inComment : Bool) : List Char → List Char
  | [] => []
  | c :: cs =>
    if inComment then dropBlanks (c != '\n') cs
    else if isSpace c then dropBlanks false cs
    else if c = '#' then dropBlanks true cs
    else c :: cs

namespace Flags

/-- Turns the flag of a letter on or off. -/
def set? (f : Flags) (letter : Char) (value : Bool) : Option Flags :=
  match letter with
  | 'i' => some { f with ignoreCase := value }
  | 'm' => some { f with multiLine := value }
  | 's' => some { f with dotAll := value }
  | 'U' => some { f with swapGreed := value }
  | 'R' => some { f with pairedLines := value }
  | 'u' => some { f with unicode := value }
  | 'x' => some { f with ignoreBlanks := value }
  | _ => none

/-- The rest of a pattern, without blanks and comments in front if they do not count. -/
def skip (f : Flags) (cs : List Char) : List Char :=
  if f.ignoreBlanks then dropBlanks false cs else cs

/-- Without flags everything counts. -/
@[simp] theorem skip_default (cs : List Char) : ({} : Flags).skip cs = cs := rfl

/-- Takes up to `most` characters that pass a test, leaving out what does not count after each. -/
def takeWhile (f : Flags) (test : Char → Bool) : Nat → List Char → List Char × List Char
  | 0, cs => ([], cs)
  | _ + 1, [] => ([], [])
  | most + 1, c :: cs =>
    if test c then
      let (taken, rest) := f.takeWhile test most (f.skip cs)
      (c :: taken, rest)
    else ([], c :: cs)

/-! ### Sets and tests -/

/-- The set closed under letter case, if that is ignored. -/
def fold (f : Flags) (s : CharSet) : CharSet :=
  if f.ignoreCase then s.foldedBy (if f.unicode then CharSet.foldPairs else CharSet.asciiFoldPairs)
  else s

/-- The pattern of one literal character. -/
def literal (f : Flags) (c : Char) : Pattern := .char (f.fold (.single c))

/-- The pattern of `.`. Without Unicode it would match single bytes, which is refused. -/
def dot? (f : Flags) : Option Pattern :=
  if !f.unicode then none
  else if f.dotAll then some (.char CharSet.empty.compl)
  else if f.pairedLines then some (.char (CharSet.ofRanges [('\n', '\n'), ('\r', '\r')]).compl)
  else some (.char (CharSet.single '\n').compl)

/-- The pattern of `^`. -/
def caret (f : Flags) : Pattern :=
  .look (if !f.multiLine then .textStart else if f.pairedLines then .pairedLineStart else .lineStart)

/-- The pattern of `$`. -/
def dollar (f : Flags) : Pattern :=
  .look (if !f.multiLine then .textEnd else if f.pairedLines then .pairedLineEnd else .lineEnd)

/-- A test on words. -/
def word (f : Flags) (test : WordTest) : Look :=
  .word test (if f.unicode then CharSet.word else CharSet.asciiWord)

/-- A set, unless it reaches beyond ASCII without Unicode. -/
def guardSet (f : Flags) (s : CharSet) : Option CharSet :=
  if f.unicode || s.isAscii then some s else none

end Flags

end Pattern

end SyntaxInspector
