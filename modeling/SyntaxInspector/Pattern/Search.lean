import SyntaxInspector.Pattern.Program
import SyntaxInspector.Text.Bytes

/-!
# Searching for a pattern

All ways to match are followed side by side through one pass over the text. The threads are kept in
order of preference: those that started further left first, among them those that made the preferred
choices. Two threads that reach one instruction at one position go on alike, so only the preferred
one is kept; in particular a loop that takes up nothing is not entered twice. A thread that accepts
ends all less preferred ones; those before it may still find a better match.

* `Program.settle` — where threads come to rest at a position;
* `Pattern.find` — the first match of a text, as byte offsets.
-/

namespace SyntaxInspector

/-- One way to match, under way. -/
structure Thread where
  /-- The address of its next instruction. -/
  address : Nat
  /-- The byte offset where its match starts. -/
  start : Nat
deriving DecidableEq

namespace Program

/-- Follows threads, the most preferred first, until each of them accepts or needs a character.
`seen` tells the instructions that some thread has reached at this position. Every instruction adds
its successors once, so `fuel` beyond the number of threads and of successors is never used up. -/
def settleFrom (p : Program) (before after : Option Char) :
    Nat → Array Bool → List Thread → List Thread
  | 0, _, _ => []
  | _, _, [] => []
  | fuel + 1, seen, t :: rest =>
    if seen.getD t.address true then p.settleFrom before after fuel seen rest
    else
      let seen := seen.setIfInBounds t.address true
      match p.code.getD t.address .accept with
      | .split targets =>
        p.settleFrom before after fuel seen (targets.map (⟨·, t.start⟩) ++ rest)
      | .look test next =>
        if test.holds before after then p.settleFrom before after fuel seen (⟨next, t.start⟩ :: rest)
        else p.settleFrom before after fuel seen rest
      | .char _ _ => t :: p.settleFrom before after fuel seen rest
      | .accept => t :: p.settleFrom before after fuel seen rest

/-- Where threads come to rest between two characters, the most preferred first. -/
def settle (p : Program) (before after : Option Char) (threads : List Thread) : List Thread :=
  p.settleFrom before after (threads.length + p.width + 1) (.replicate p.code.size false) threads

/-- Whether a settled thread has matched. -/
def accepts (p : Program) (t : Thread) : Bool :=
  match p.code.getD t.address .accept with
  | .accept => true
  | _ => false

/-- The thread after a character, if it can take it. -/
def advance (p : Program) (c : Char) (t : Thread) : Option Thread :=
  match p.code.getD t.address .accept with
  | .char set next => if set.mem c then some ⟨next, t.start⟩ else none
  | _ => none

/-- The threads to follow at a position: a new one joins, as the least preferred, while nothing has
matched. -/
def joined (p : Program) (offset : Nat) (best : Option ByteSpan) (threads : List Thread) :
    List Thread :=
  match best with
  | none => threads ++ [⟨p.entry, offset⟩]
  | some _ => threads

/-- Searches the rest of a text, from `offset` bytes into it on. -/
def search (p : Program) (before : Option Char) (offset : Nat) (best : Option ByteSpan)
    (threads : List Thread) : List Char → Option ByteSpan
  | [] =>
    let settled := p.settle before none (p.joined offset best threads)
    (settled.find? p.accepts).map (fun t => (t.start, offset)) |>.or best
  | c :: cs =>
    let settled := p.settle before (some c) (p.joined offset best threads)
    let best := (settled.find? p.accepts).map (fun t => (t.start, offset)) |>.or best
    let alive := settled.takeWhile (!p.accepts ·)
    p.search (some c) (offset + c.utf8Size) best (alive.filterMap (p.advance c)) cs

end Program

namespace Pattern

/-- The leftmost match of a text, as the byte offsets of its start and its end. -/
def find (pattern : Pattern) (text : List Char) : Option ByteSpan :=
  pattern.program.search none 0 none [] text

/-- Whether some part of the text matches. -/
def isMatch (pattern : Pattern) (text : String) : Bool := (pattern.find text.toList).isSome

end Pattern

end SyntaxInspector
