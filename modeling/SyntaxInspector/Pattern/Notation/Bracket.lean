import SyntaxInspector.Pattern.Notation.Escape

/-!
# Bracketed classes

A class lists its members between brackets: characters, ranges, escapes, named classes and further
brackets. A caret in front stands for all other characters, and `&&`, `--` and `~~` intersect,
subtract and take the symmetric difference of what stands on either side.

* `Nested` — what a piece of notation stands for, with how deep it is nested;
* `bracket?` — reads a class.

Every reader takes the characters still to be read and returns what it left. `fuel` counts down by
one for each character consumed, so the length of the pattern is enough.
-/

namespace SyntaxInspector

namespace Pattern

/-! ### Nesting -/

/-- What a piece of notation stands for, and how deep the piece is nested. -/
structure Nested (α : Type) where
  /-- What it stands for. -/
  value : α
  /-- Groups, repetitions, brackets, sequences, choices and set operators inside one another. -/
  depth : Nat

/-- The deepest nesting that is accepted. -/
def nestLimit : Nat := 250

/-- The depth of pieces side by side: of several, one more than the deepest of them. -/
def depthBeside : List Nat → Nat
  | [] => 0
  | [d] => d
  | ds => ds.foldl max 0 + 1

/-! ### Members -/

/-- The named classes, all of them ASCII. -/
def namedClass? : String → Option CharSet
  | "alnum" => some (.ofRanges [('0', '9'), ('A', 'Z'), ('a', 'z')])
  | "alpha" => some (.ofRanges [('A', 'Z'), ('a', 'z')])
  | "ascii" => some (.ofRanges [('\x00', '\x7f')])
  | "blank" => some (.ofRanges [('\t', '\t'), (' ', ' ')])
  | "cntrl" => some (.ofRanges [('\x00', '\x1f'), ('\x7f', '\x7f')])
  | "digit" => some .asciiDecimal
  | "graph" => some (.ofRanges [('!', '~')])
  | "lower" => some (.ofRanges [('a', 'z')])
  | "print" => some (.ofRanges [(' ', '~')])
  | "punct" => some (.ofRanges [('!', '/'), (':', '@'), ('[', '\x60'), ('\x7b', '~')])
  | "space" => some .asciiSpace
  | "upper" => some (.ofRanges [('A', 'Z')])
  | "word" => some .asciiWord
  | "xdigit" => some (.ofRanges [('0', '9'), ('A', 'F'), ('a', 'f')])
  | _ => none

/-- A named class: whether it is negated, the set, and what follows. Read from after its opening
bracket. -/
def namedClassItem? : List Char → Option (Bool × CharSet × List Char)
  | ':' :: cs => do
    let (negated, cs) := match cs with
      | '^' :: r => (true, r)
      | r => (false, r)
    let (name, rest) := cs.span (· ≠ ':')
    match rest with
    | ':' :: ']' :: after => return (negated, ← namedClass? (String.ofList name), after)
    | _ => none
  | _ => none

/-- One member of a class: a character, possibly escaped, or a class escape. Without Unicode only
ASCII characters can be members. -/
def classMember? (f : Flags) : List Char → Option (Escape × List Char)
  | [] => none
  | '\\' :: cs =>
    match escape? f cs with
    | some (.look _, _) => none
    | some (.literal c, rest) => (f.guardSet (.single c)).map fun _ => (.literal c, rest)
    | other => other
  | c :: cs => (f.guardSet (.single c)).map fun _ => (.literal c, cs)

/-- A member or a range of a class. -/
def classItem? (f : Flags) (cs : List Char) : Option (CharSet × List Char) := do
  let (first, rest) ← classMember? f cs
  let alone : CharSet := match first with
    | .literal c => .single c
    | .set s => s
    | .look _ => .empty
  match f.skip rest with
  | [] => none
  | '-' :: after =>
    match f.skip after with
    | ']' :: _ => return (alone, '-' :: after)
    | '-' :: _ => return (alone, '-' :: after)
    | after =>
      let (last, rest) ← classMember? f after
      match first, last with
      | .literal a, .literal b => if a ≤ b then return (CharSet.range a b, rest) else none
      | _, _ => none
  | rest => return (alone, rest)

/-- A set operator of classes. -/
def classOperator? : List Char → Option ((CharSet → CharSet → CharSet) × List Char)
  | '&' :: '&' :: cs => some (.inter, cs)
  | '-' :: '-' :: cs => some (.diff, cs)
  | '~' :: '~' :: cs => some (.symmDiff, cs)
  | _ => none

/-! ### Classes -/

/-- The members of a class read so far. -/
structure Members where
  /-- Their union. -/
  set : CharSet := .empty
  /-- The depth of each of them. -/
  depths : List Nat := []

namespace Members

/-- One more member. -/
def push (m : Members) (member : Nested CharSet) : Members :=
  ⟨m.set.union member.value, member.depth :: m.depths⟩

/-- The members as one set. -/
def close (f : Flags) (m : Members) : Nested CharSet := ⟨f.fold m.set, depthBeside m.depths⟩

end Members

/-- The members that may stand first in a class only: hyphens, or a closing bracket. -/
def classOpening (f : Flags) (cs : List Char) : Members × List Char :=
  match f.takeWhile (· = '-') cs.length (f.skip cs) with
  | ([], ']' :: rest) => (⟨.single ']', [0]⟩, f.skip rest)
  | ([], rest) => ({}, rest)
  | (hyphens, rest) => (⟨.single '-', hyphens.map fun _ => 0⟩, rest)

/-- A set operator applied to two sets. -/
def combine (operator : CharSet → CharSet → CharSet) (s t : Nested CharSet) : Nested CharSet :=
  ⟨operator s.value t.value, max s.depth t.depth + 1⟩

mutual

/-- Reads a class from after its opening bracket. -/
def bracket? (f : Flags) : Nat → List Char → Option (Nested CharSet × List Char)
  | 0, _ => none
  | fuel + 1, cs => do
    let (negated, cs) := match f.skip cs with
      | '^' :: r => (true, r)
      | r => (false, r)
    let (opening, cs) := classOpening f cs
    let (set, rest) ← classItems? f fuel (fun s => s) opening cs
    return (⟨← f.guardSet (.complIf negated set.value), set.depth + 1⟩, rest)

/-- Reads the members of a class up to its closing bracket. `pending` applies the set operator that
stands before the members collected in `sofar`. -/
def classItems? (f : Flags) : Nat → (Nested CharSet → Nested CharSet) → Members → List Char →
    Option (Nested CharSet × List Char)
  | 0, _, _, _ => none
  | fuel + 1, pending, sofar, cs =>
    match f.skip cs with
    | [] => none
    | ']' :: rest => some (pending (sofar.close f), rest)
    | '[' :: rest =>
      match namedClassItem? rest with
      | some (negated, set, rest) => do
        let set ← f.guardSet (.complIf negated (f.fold set))
        classItems? f fuel pending (sofar.push ⟨set, 0⟩) rest
      | none => do
        let (set, rest) ← bracket? f fuel rest
        classItems? f fuel pending (sofar.push set) rest
    | cs =>
      match classOperator? cs with
      | some (operator, rest) =>
        classItems? f fuel (combine operator (pending (sofar.close f))) {} rest
      | none => do
        let (set, rest) ← classItem? f cs
        classItems? f fuel pending (sofar.push ⟨set, 0⟩) rest

end

end Pattern

end SyntaxInspector
