import SyntaxInspector.Text.Bytes

/-!
# Regular expressions

Regular expressions are compiled and searched for by a library outside this one, which is known only
by what it answers.

* `Regex` — a compiled expression, by its answers;
* `RegexCompiler` — what compiles expressions;
* `Regex.FindsWithin` — what is relied on: a match lies between two characters' boundaries.
-/

namespace SyntaxInspector

/-- A compiled regular expression. -/
structure Regex where
  /-- The bytes of the first match in a text. -/
  find : String → Option ByteSpan
  /-- Whether some part of a text matches. -/
  isMatch : String → Bool

/-- What compiles regular expressions: the text of one becomes the expression, or an error's
message. -/
abbrev RegexCompiler := String → Except String Regex

/-- Every match lies in the text searched, between two character boundaries. -/
def Regex.FindsWithin (r : Regex) : Prop :=
  ∀ text m, r.find text = some m → IsWithin text.toList m

end SyntaxInspector
