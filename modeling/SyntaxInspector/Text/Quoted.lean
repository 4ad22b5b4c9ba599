import SyntaxInspector.Text.CharClass

/-!
# Quoted text

Two ways of writing a text between double quotes.

* `jsonQuoted` — the string form of JSON: only quotes, backslashes and controls are escaped;
* `shownQuoted` — the form for people: every character without a printed form of its own is
  written by number.
-/

namespace SyntaxInspector

/-- The hexadecimal digits of a number, without leading zeros. -/
def hexDigits (n : Nat) : String := String.ofList (Nat.toDigits 16 n)

/-- A character inside a JSON string. -/
def jsonEscape (c : Char) : String :=
  if c = '"' then "\\\""
  else if c = '\\' then "\\\\"
  else if c.toNat = 0x08 then "\\b"
  else if c.toNat = 0x0c then "\\f"
  else if c = '\n' then "\\n"
  else if c = '\r' then "\\r"
  else if c = '\t' then "\\t"
  else if c.toNat < 0x10 then "\\u000" ++ hexDigits c.toNat
  else if c.toNat < 0x20 then "\\u00" ++ hexDigits c.toNat
  else c.toString

/-- A text as a JSON string. -/
def jsonQuoted (text : String) : String :=
  "\"" ++ String.join (text.toList.map jsonEscape) ++ "\""

/-- A character inside text quoted for people. -/
def shownEscape (c : Char) : String :=
  if c.toNat = 0 then "\\0"
  else if c = '\t' then "\\t"
  else if c = '\r' then "\\r"
  else if c = '\n' then "\\n"
  else if c = '"' then "\\\""
  else if c = '\\' then "\\\\"
  else if needsEscape c then "\\u\x7b" ++ hexDigits c.toNat ++ "\x7d"
  else c.toString

/-- A text quoted for people. -/
def shownQuoted (text : String) : String :=
  "\"" ++ String.join (text.toList.map shownEscape) ++ "\""

end SyntaxInspector
