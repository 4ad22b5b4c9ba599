/-!
# Terminal colours
-/

namespace SyntaxInspector

/-- The terminal codes used in rows and reports; all empty when colours are off. -/
structure Palette where
  /-- Named nodes and captures. -/
  blue : String
  /-- Anonymous nodes. -/
  green : String
  /-- Missing nodes. -/
  red : String
  /-- Field names and ranges. -/
  dim : String
  /-- Back to the default. -/
  reset : String

namespace Palette

/-- ANSI colours. -/
def ansi : Palette := ⟨"\x1b[34m", "\x1b[32m", "\x1b[31m", "\x1b[2m", "\x1b[0m"⟩

/-- No colours. -/
def plain : Palette := ⟨"", "", "", "", ""⟩

/-- Colours on or off. -/
def ofBool (enabled : Bool) : Palette := if enabled then ansi else plain

/-- Whether colours are on. -/
def isEnabled (p : Palette) : Bool := !p.blue.isEmpty

end Palette

end SyntaxInspector
