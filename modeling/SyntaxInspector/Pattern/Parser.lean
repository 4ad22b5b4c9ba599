import SyntaxInspector.Pattern.Normal
import SyntaxInspector.Pattern.Notation.Bracket
import SyntaxInspector.Pattern.Notation.Group
import SyntaxInspector.Pattern.Notation.Repetition

/-!
# Reading patterns

The notation: literals, `.`, `^`, `$`, bracketed classes, escapes, groups, inline flags and
repetitions. Look-around, back references, classes of Unicode properties, everything unbalanced,
everything nested more than 250 levels deep and everything that would make too large a program are
refused.

* `Pattern.parse` — reads a whole pattern;
* `PatternError` — why a pattern is refused.

Every reader takes the characters still to be read and returns what it left. `fuel` counts down by
one for each character consumed, so the length of the pattern is enough.
-/

namespace SyntaxInspector

/-- Why a pattern is refused. -/
inductive PatternError where
  /-- It is not written as a pattern, or nested too deep. -/
  | malformed
  /-- Its program would be too large. -/
  | tooLarge
deriving DecidableEq

/-- The error in words. -/
def PatternError.message : PatternError → String
  | .malformed => "error parsing pattern 0"
  | .tooLarge => "error building NFA"

namespace Pattern

/-- A pattern under construction: finished alternatives and finished items of the current one, both
latest first, the item a repetition would apply to, and the groups met. -/
structure Draft where
  /-- Alternatives already closed by a bar. -/
  branches : List (Nested Pattern) := []
  /-- Items of the current alternative. -/
  items : List (Nested Pattern) := []
  /-- The latest item, if it may be repeated. -/
  latest : Option (Nested Pattern) := none
  /-- Group names used so far. -/
  names : List String := []
  /-- How many numbered groups were opened so far. -/
  groups : Nat := 0

namespace Draft

/-- Moves the latest item to the finished ones. -/
def settle (d : Draft) : Draft :=
  { d with items := d.latest.toList ++ d.items, latest := none }

/-- Adds an item. -/
def push (d : Draft) (item : Nested Pattern) : Draft := { d.settle with latest := some item }

/-- Adds an item that matches the empty text and cannot be repeated. -/
def pushMark (d : Draft) : Draft :=
  let d := d.settle
  { d with items := ⟨.empty, 0⟩ :: d.items }

/-- Closes the current alternative. -/
def bar (d : Draft) : Draft :=
  let d := d.settle
  let items := d.items.reverse
  let branch := ⟨concat (items.map (·.value)), depthBeside (items.map (·.depth))⟩
  { d with branches := branch :: d.branches, items := [] }

/-- The pattern of all alternatives. -/
def pattern (d : Draft) : Nested Pattern :=
  let branches := d.bar.branches.reverse
  ⟨alternation (branches.map (·.value)), depthBeside (branches.map (·.depth))⟩

/-- The draft for the inside of a group. -/
def inside (d : Draft) (kind : GroupKind) : Draft :=
  { names := kind.name?.toList ++ d.names, groups := d.groups + kind.count }

/-- Adds a group, read as `inner`, as an item. -/
def pushGroup (d : Draft) (kind : GroupKind) (inner : Draft) : Draft :=
  let body := inner.pattern
  let value := match kind with
    | .plain => body.value
    | _ => .group d.groups body.value
  { d.push ⟨value, body.depth + 1⟩ with names := inner.names, groups := inner.groups }

/-- Repeats the latest item. -/
def repeatLatest? (d : Draft) (r : Repetition) : Option Draft :=
  d.latest.map fun item =>
    { d with latest := some ⟨repeated item.value r.least r.most r.greedy, item.depth + 1⟩ }

end Draft

/-- Reads one item that is neither a group nor a repetition. -/
def atom? (f : Flags) : List Char → Option (Nested Pattern × List Char)
  | [] => none
  | '[' :: cs =>
    (bracket? f (2 * cs.length + 2) cs).map fun (s, r) => (⟨.char s.value, s.depth⟩, r)
  | '\\' :: cs => (escape? f cs).map fun (e, r) =>
    match e with
    | .literal c => (⟨f.literal c, 0⟩, r)
    | .set s => (⟨.char s, 0⟩, r)
    | .look l => (⟨.look l, 0⟩, r)
  | '.' :: cs => f.dot?.map fun p => (⟨p, 0⟩, cs)
  | '^' :: cs => some (⟨f.caret, 0⟩, cs)
  | '$' :: cs => some (⟨f.dollar, 0⟩, cs)
  | c :: cs => some (⟨f.literal c, 0⟩, cs)

/-- Reads alternatives up to the end of the text or a closing parenthesis, which is left. -/
def alternatives? : Nat → Flags → Draft → List Char → Option (Draft × List Char)
  | 0, _, _, _ => none
  | fuel + 1, f, d, cs =>
    match f.skip cs with
    | [] => some (d, [])
    | ')' :: rest => some (d, ')' :: rest)
    | '|' :: rest => alternatives? fuel f d.bar rest
    | '(' :: rest =>
      match opening? f rest with
      | none => none
      | some (.flags f, rest) => alternatives? fuel f d.pushMark rest
      | some (.group inner kind, rest) => do
        guard (!kind.name?.any d.names.contains)
        let (body, rest) ← alternatives? fuel inner (d.inside kind) rest
        match rest with
        | ')' :: rest => alternatives? fuel f (d.pushGroup kind body) rest
        | _ => none
    | cs =>
      match repetition? f cs with
      | none => none
      | some (some (r, rest)) => do alternatives? fuel f (← d.repeatLatest? r) rest
      | some none => do
        let (item, rest) ← atom? f cs
        alternatives? fuel f (d.push item) rest

/-- Reads a whole pattern as it is written; `none` when it is malformed or nested too deep. -/
def read? (text : String) : Option Pattern := do
  let cs := text.toList
  let (d, rest) ← alternatives? (cs.length + 1) {} {} cs
  let p := d.pattern
  if rest.isEmpty && p.depth ≤ nestLimit then some p.value else none

/-- The largest size of a pattern: with the few steps around it a program has 10 MiB, at 32 bytes for
each step. -/
def sizeLimit : Nat := 327673

/-- Reads a whole pattern. -/
def parse (text : String) : Except PatternError Pattern :=
  match read? text with
  | none => .error .malformed
  | some p => if p.size ≤ sizeLimit then .ok p else .error .tooLarge

end Pattern

end SyntaxInspector
