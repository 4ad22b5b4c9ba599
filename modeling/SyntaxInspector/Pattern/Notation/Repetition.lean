import SyntaxInspector.Pattern.Notation.Flags

/-!
# Repetitions in patterns

The signs `*`, `+` and `?` and counts in braces. A question mark after any of them asks for as few
repetitions as possible.

* `Repetition` — how often, and whether rather more or less;
* `repetition?` — reads one.
-/

namespace SyntaxInspector

namespace Pattern

/-- How often something is repeated. -/
structure Repetition where
  /-- Fewest repetitions. -/
  least : Nat
  /-- Most repetitions. -/
  most : Option Nat
  /-- Whether more repetitions are preferred. -/
  greedy : Bool

/-- Reads a decimal numeral of 32 bits with optional blanks around it. -/
def countNumeral? (f : Flags) (cs : List Char) : Option (Nat × List Char) := do
  let isDigit (c : Char) : Bool := '0' ≤ c && c ≤ '9'
  let (digits, rest) := f.takeWhile isDigit cs.length (cs.dropWhile isSpace)
  guard (!digits.isEmpty)
  let n := digits.foldl (fun n d => 10 * n + (d.toNat - '0'.toNat)) 0
  guard (n < 4294967296)
  return (n, f.skip (rest.dropWhile isSpace))

/-- Reads counts from after their opening brace to their closing brace. -/
def counts? (f : Flags) (cs : List Char) : Option (Nat × Option Nat × List Char) := do
  let (least, rest) ← countNumeral? f (f.skip cs)
  match rest with
  | '\x7d' :: after => return (least, some least, after)
  | ',' :: rest =>
    match f.skip rest with
    | '\x7d' :: after => return (least, none, after)
    | rest =>
      let (most, rest) ← countNumeral? f rest
      guard (least ≤ most)
      match rest with
      | '\x7d' :: after => return (least, some most, after)
      | _ => none
  | _ => none

/-- Reads the question mark that may follow a repetition. -/
def greed (f : Flags) : List Char → Bool × List Char
  | '?' :: cs => (f.swapGreed, cs)
  | cs => (!f.swapGreed, cs)

/-- Reads a repetition, if one comes next; the outer option tells a malformed one. -/
def repetition? (f : Flags) (cs : List Char) : Option (Option (Repetition × List Char)) :=
  let sign (least : Nat) (most : Option Nat) (cs : List Char) : Repetition × List Char :=
    let (greedy, rest) := greed f cs
    (⟨least, most, greedy⟩, rest)
  match cs with
  | '*' :: cs => some (some (sign 0 none cs))
  | '+' :: cs => some (some (sign 1 none cs))
  | '?' :: cs => some (some (sign 0 (some 1) cs))
  | '\x7b' :: cs => do
    let (least, most, rest) ← counts? f cs
    return some (sign least most (f.skip rest))
  | _ => some none

end Pattern

end SyntaxInspector
