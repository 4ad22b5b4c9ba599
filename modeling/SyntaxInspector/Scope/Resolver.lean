import SyntaxInspector.Scope.Span

/-!
# Resolving captures

A resolver turns captures into the ranges worth highlighting. It remembers which captures have had
which range since it was last reset.

* `candidate?` — the range a capture asks for;
* `Resolver.claim` — whether it gets the range;
* `Resolver.resolve` — both.
-/

namespace SyntaxInspector

/-- A range that captures have had. -/
structure ClaimedRange where
  /-- The range. -/
  range : Range
  /-- The captures, by index, in order. -/
  names : List Nat
  /-- Whether one of them was final. -/
  isFinal : Bool
  deriving DecidableEq, Inhabited

/-- The ranges claimed since the last reset, each once. -/
structure Resolver where
  /-- The claimed ranges, in the order of their first claim. -/
  claimed : List ClaimedRange := []
  deriving DecidableEq, Inhabited

/-- The range a capture asks for: none when a test fails, when an adjustment leads nowhere, or when
adjustments leave nothing. -/
def candidate? (q : CompiledQuery) (t : SyntaxTree) (text : String) (c : Capture) : Option Range :=
  let rules := q.rulesFor c.patternIndex
  if (rules.testsFor c.nameIndex).all (·.passes t c.node) then
    let adjustments := rules.adjustmentsFor c.nameIndex
    match Span.adjustAll? t c.node text (.ofNode c.node.data) adjustments with
    | none => none
    | some span => if !adjustments.isEmpty && span.range.isEmpty then none else some span.range
  else none

namespace Resolver

/-- The resolver without any claims. -/
def reset (_ : Resolver) : Resolver := {}

/-- The claims on a range. -/
def find? (r : Resolver) (range : Range) : Option ClaimedRange :=
  r.claimed.find? (·.range == range)

/-- Whether a capture is refused a range: it is taken for good, or the capture is shy, or had it
already. -/
def refuses (r : Resolver) (range : Range) (name : Nat) (shy : Bool) : Bool :=
  (r.find? range).any fun c => c.isFinal || shy || c.names.contains name

/-- The claims on a list of ranges after one more. -/
def record (range : Range) (name : Nat) (isFinal : Bool) : List ClaimedRange → List ClaimedRange
  | [] => [⟨range, [name], isFinal⟩]
  | c :: cs =>
    if c.range = range then { c with names := c.names ++ [name], isFinal := c.isFinal || isFinal } :: cs
    else c :: record range name isFinal cs

/-- Claims a range for a capture, unless it is refused. -/
def claim (r : Resolver) (range : Range) (name : Nat) (shy isFinal : Bool) :
    Resolver × Option Range :=
  if r.refuses range name shy then (r, none)
  else (⟨record range name isFinal r.claimed⟩, some range)

/-- The range to highlight for a capture, if any. -/
def resolve (r : Resolver) (q : CompiledQuery) (t : SyntaxTree) (text : String) (c : Capture) :
    Resolver × Option Range :=
  match candidate? q t text c with
  | none => (r, none)
  | some range =>
    let rules := q.rulesFor c.patternIndex
    r.claim range c.nameIndex (rules.hasClaim c.nameIndex .shy) (rules.hasClaim c.nameIndex .final)

/-- Resolves captures in order. -/
def resolveAll (q : CompiledQuery) (t : SyntaxTree) (text : String) :
    Resolver → List Capture → Resolver × List (Option Range)
  | r, [] => (r, [])
  | r, c :: cs =>
    let (r, range) := r.resolve q t text c
    let (r, ranges) := resolveAll q t text r cs
    (r, range :: ranges)

end Resolver

end SyntaxInspector
