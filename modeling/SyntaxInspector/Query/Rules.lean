import SyntaxInspector.Engine
import SyntaxInspector.Query.Descriptor
import SyntaxInspector.Text.Numeral

/-!
# Rules of query patterns

A pattern may test its captured nodes, adjust the ranges they cover, and say how captures of the
same range get along. The rules come from the pattern's properties; anything else is refused.

* `PatternRules.ofPattern` — the rules of a pattern, or its first problem;
* `PatternRules.testsFor`, `PatternRules.adjustmentsFor`, `PatternRules.hasClaim` — the rules for one
  capture.
-/

namespace SyntaxInspector

/-- A rule for one capture, or for all captures of its pattern. -/
structure Scoped (α : Type) where
  /-- The capture, by index. -/
  capture : Option Nat
  /-- The rule. -/
  rule : α

/-- Whether a rule concerns a capture. -/
def Scoped.appliesTo {α : Type} (s : Scoped α) (capture : Nat) : Bool :=
  s.capture.all (· == capture)

/-- What is asked of a node. -/
inductive TestKind where
  /-- Nothing comes before it in its parent. -/
  | first
  /-- Nothing comes after it in its parent. -/
  | last
  /-- It is of one of these kinds. -/
  | ofType (kinds : List String)
  /-- Some node below it is of one of these kinds. -/
  | ancestorOfType (kinds : List String)
  /-- Some node above it is of one of these kinds. -/
  | descendantOfType (kinds : List String)
  deriving DecidableEq

/-- A test and the answer it should have. -/
structure NodeTest where
  /-- What is asked. -/
  kind : TestKind
  /-- The answer that lets a capture pass. -/
  expected : Bool
  deriving DecidableEq

/-- Whether a node is of one of some kinds. -/
def NodeData.isOneOf (kinds : List String) (d : NodeData) : Bool := kinds.contains d.kind

/-- The answer for a node of a tree. -/
def TestKind.holds (t : SyntaxTree) (c : Cursor) : TestKind → Bool
  | .first => (t.follow c .previousSibling).isNone
  | .last => (t.follow c .nextSibling).isNone
  | .ofType kinds => c.data.isOneOf kinds
  | .ancestorOfType kinds => (Cursor.ofRoot c.focus).anyBelow (·.isOneOf kinds)
  | .descendantOfType kinds => t.anyAncestor (·.isOneOf kinds) c

/-- Whether a node has the expected answer. -/
def NodeTest.passes (test : NodeTest) (t : SyntaxTree) (c : Cursor) : Bool :=
  test.kind.holds t c == test.expected

/-- A change of the range a capture covers. -/
inductive Adjustment where
  /-- Start where a descriptor says. -/
  | startAt (d : Descriptor)
  /-- End where a descriptor says. -/
  | endAt (d : Descriptor)
  /-- Move the start along its row. -/
  | offsetStart (delta : Int)
  /-- Move the end along its row. -/
  | offsetEnd (delta : Int)
  /-- Cover the first match of a regular expression. -/
  | aroundMatch (r : Regex)
  /-- Start at the first match of a regular expression. -/
  | startBeforeMatch (r : Regex)
  /-- End after the first match of a regular expression. -/
  | endAfterMatch (r : Regex)

/-- How a capture gets along with others of the same range. -/
inductive ClaimMode where
  /-- No later capture may have the range. -/
  | final
  /-- Only for a range nobody has yet. -/
  | shy
  deriving DecidableEq

/-- The rules of one pattern, in the order they were given. -/
structure PatternRules where
  /-- Tests of captured nodes. -/
  tests : List (Scoped NodeTest) := []
  /-- Changes of their ranges. -/
  adjustments : List (Scoped Adjustment) := []
  /-- How their captures get along. -/
  claims : List (Scoped ClaimMode) := []

instance : Inhabited PatternRules := ⟨{}⟩

/-! ### Reading rules -/

/-- Why a pattern's predicates cannot be used. -/
inductive RuleError where
  /-- A predicate of a kind that is not known. -/
  | unknownPredicate (operator : String)
  /-- A test that is not known. -/
  | unknownTest (key : String)
  /-- A property that is not known. -/
  | unknownProperty (key : String)
  /-- A value is missing. -/
  | valueRequired (key : String)
  /-- A list of kinds is empty. -/
  | kindRequired (key : String)
  /-- An offset is no integer. -/
  | notAnInteger (key value : String)
  /-- A text is no descriptor. -/
  | badDescriptor (e : DescriptorError)
  /-- A text is no regular expression. -/
  | badPattern (value message : String)
  deriving DecidableEq

/-- The error in words. -/
def RuleError.message : RuleError → String
  | .unknownPredicate operator => s!"unknown predicate '#{operator}'"
  | .unknownTest key => s!"unknown test '{key}'"
  | .unknownProperty key => s!"unknown property '{key}'"
  | .valueRequired key => s!"'{key}' requires a value"
  | .kindRequired key => s!"'{key}' requires at least one node type"
  | .notAnInteger key value => s!"'{key}' expects an integer, got '{value}'"
  | .badDescriptor e => e.message
  | .badPattern value message => s!"invalid regex '{value}': {message}"

namespace Property

/-- The value, which must be there. -/
def required (p : Property) : Except RuleError String :=
  match p.value with
  | some value => .ok value
  | none => .error (.valueRequired p.key)

/-- The value as a list of kinds, separated by blanks or commas; one at least. -/
def kinds (p : Property) : Except RuleError (List String) := do
  let value ← p.required
  match (splitText (fun c => c = ' ' || c = ',') value).filter (!·.isEmpty) with
  | [] => .error (.kindRequired p.key)
  | kinds => return kinds

/-- A value as an offset. -/
def offset (p : Property) (value : String) : Except RuleError Int :=
  match readInteger? (trimSpace value) with
  | some i => .ok i
  | none => .error (.notAnInteger p.key value)

/-- A value as a descriptor. -/
def descriptor (value : String) : Except RuleError Descriptor :=
  (Descriptor.parse value).mapError .badDescriptor

/-- A value as a regular expression. -/
def regex (compile : RegexCompiler) (value : String) : Except RuleError Regex :=
  (compile value).mapError (.badPattern value)

/-- The test a property asks for. -/
def testKind (p : Property) : Except RuleError TestKind :=
  match p.key with
  | "test.first" => .ok .first
  | "test.last" => .ok .last
  | "test.type" => .ofType <$> p.kinds
  | "test.ancestorOfType" => .ancestorOfType <$> p.kinds
  | "test.descendantOfType" => .descendantOfType <$> p.kinds
  | key => .error (.unknownTest key)

/-- The adjustment a property asks for. -/
def adjustment (compile : RegexCompiler) (p : Property) : Except RuleError Adjustment := do
  let value ← p.required
  match p.key with
  | "adjust.startAt" => .startAt <$> descriptor value
  | "adjust.endAt" => .endAt <$> descriptor value
  | "adjust.offsetStart" => .offsetStart <$> p.offset value
  | "adjust.offsetEnd" => .offsetEnd <$> p.offset value
  | "adjust.startAndEndAroundFirstMatchOf" => .aroundMatch <$> regex compile value
  | "adjust.startBeforeFirstMatchOf" => .startBeforeMatch <$> regex compile value
  | "adjust.endAfterFirstMatchOf" => .endAfterMatch <$> regex compile value
  | key => .error (.unknownProperty key)

/-- The claim mode a property sets, if it sets one. -/
def claimMode? (p : Property) : Option ClaimMode :=
  match p.key with
  | "capture.final" => some .final
  | "capture.shy" => some .shy
  | _ => none

end Property

namespace PatternRules

/-- Adds the rule of a property that is tested. -/
def addTest (rules : PatternRules) (test : Property × Bool) : Except RuleError PatternRules := do
  let kind ← test.1.testKind
  return { rules with tests := rules.tests ++ [⟨test.1.capture, ⟨kind, test.2⟩⟩] }

/-- Adds the rule of a property that is set. -/
def addSetting (compile : RegexCompiler) (rules : PatternRules) (p : Property) :
    Except RuleError PatternRules :=
  match p.claimMode? with
  | some mode => .ok { rules with claims := rules.claims ++ [⟨p.capture, mode⟩] }
  | none => do
    let adjustment ← p.adjustment compile
    return { rules with adjustments := rules.adjustments ++ [⟨p.capture, adjustment⟩] }

/-- The rules of a pattern. Predicates of unknown kinds are refused first, then tests and settings
are read in order. -/
def ofPattern (compile : RegexCompiler) (p : RawPattern) : Except RuleError PatternRules :=
  match p.general with
  | operator :: _ => .error (.unknownPredicate operator)
  | [] => do
    let rules ← p.tests.foldlM addTest {}
    p.settings.foldlM (addSetting compile) rules

/-- The tests for a capture. -/
def testsFor (rules : PatternRules) (capture : Nat) : List NodeTest :=
  (rules.tests.filter (·.appliesTo capture)).map (·.rule)

/-- The adjustments for a capture. -/
def adjustmentsFor (rules : PatternRules) (capture : Nat) : List Adjustment :=
  (rules.adjustments.filter (·.appliesTo capture)).map (·.rule)

/-- Whether a claim mode is set for a capture. -/
def hasClaim (rules : PatternRules) (capture : Nat) (mode : ClaimMode) : Bool :=
  rules.claims.any fun s => s.appliesTo capture && s.rule == mode

end PatternRules

end SyntaxInspector
