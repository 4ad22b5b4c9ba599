import SyntaxInspector.Pattern.Basic

/-!
# Programs for patterns

A pattern becomes a list of small instructions with numbered addresses. Instructions are placed from
the end of the pattern backwards: each piece is told the address where matching goes on after it and
returns the address where it starts itself.

* `Instr` — one instruction;
* `Pattern.assemble` — the instructions of a pattern;
* `Pattern.program` — a whole program, which ends by accepting.
-/

namespace SyntaxInspector

/-- An instruction. -/
inductive Instr where
  /-- The pattern has matched. -/
  | accept
  /-- Take one character of a set, then go on. -/
  | char (set : CharSet) (next : Nat)
  /-- Go on if a test holds. -/
  | look (test : Look) (next : Nat)
  /-- Go on at any of the addresses, the earlier ones preferred. -/
  | split (targets : List Nat)

namespace Instr

/-- Once more or no more: which of the two is preferred depends on greed. -/
def fork (greedy : Bool) (more stop : Nat) : Instr :=
  .split (if greedy then [more, stop] else [stop, more])

/-- How many other instructions can follow without taking a character. -/
def width : Instr → Nat
  | .accept => 0
  | .char _ _ => 0
  | .look _ _ => 1
  | .split targets => targets.length

end Instr

/-- Work on a growing list of instructions. -/
abbrev Assembler := StateM (Array Instr)

namespace Assembler

/-- Appends an instruction and returns its address. -/
def place (i : Instr) : Assembler Nat := modifyGet fun code => (code.size, code.push i)

/-- A piece `n` times in a row. -/
def copies (piece : Nat → Assembler Nat) : Nat → Nat → Assembler Nat
  | 0, next => pure next
  | n + 1, next => do copies piece n (← piece next)

/-- A piece up to `n` times in a row. Whenever it stops it goes on at `stop`. -/
def optionals (piece : Nat → Assembler Nat) (greedy : Bool) (stop : Nat) :
    Nat → Nat → Assembler Nat
  | 0, next => pure next
  | n + 1, next => do
    let more ← piece next
    optionals piece greedy stop n (← place (.fork greedy more stop))

/-- A piece once or more. Returns where the piece starts and where it is decided to repeat it. -/
def loop (piece : Nat → Assembler Nat) (greedy : Bool) (next : Nat) : Assembler (Nat × Nat) := do
  let decision ← place (.split [])
  let start ← piece decision
  modify fun code => code.setIfInBounds decision (.fork greedy start next)
  return (start, decision)

end Assembler

open Assembler

namespace Pattern

/-- Places the instructions of a pattern that goes on at `next`; returns where it starts.

A repetition without limit of a pattern that always takes up text makes one decision before each
round. If a round can take up nothing, the first round is decided on elsewhere than the others: a
round that took up nothing would otherwise come back to a decision already met and end there,
although leaving the loop is what it prefers next. -/
def assemble : Pattern → Nat → Assembler Nat
  | .empty, next => pure next
  | .look test, next => place (.look test next)
  | .char set, next => place (.char set next)
  | .group _ p, next => p.assemble next
  | .seq p q, next => do p.assemble (← q.assemble next)
  | .alt p q, next => do
    let first ← p.assemble next
    let second ← q.assemble next
    place (.split [first, second])
  | .rep p least (some most) greedy, next => do
    copies p.assemble least (← optionals p.assemble greedy next (most - least) next)
  | .rep p (least + 1) none greedy, next => do
    let (start, _) ← loop p.assemble greedy next
    copies p.assemble least start
  | .rep p 0 none greedy, next => do
    let (start, decision) ← loop p.assemble greedy next
    if p.consumes then return decision else place (.fork greedy start next)

end Pattern

/-- A program: its instructions and where it starts. -/
structure Program where
  /-- The instructions by address. -/
  code : Array Instr
  /-- The address of the first instruction. -/
  entry : Nat

namespace Program

/-- The number of ways to go from one instruction to another without taking a character. -/
def width (p : Program) : Nat := p.code.foldl (fun n i => n + i.width) 0

end Program

/-- The program of a pattern. Its instruction 0 accepts. -/
def Pattern.program (p : Pattern) : Program :=
  let (entry, code) := (p.assemble 0).run #[.accept]
  ⟨code, entry⟩

end SyntaxInspector
