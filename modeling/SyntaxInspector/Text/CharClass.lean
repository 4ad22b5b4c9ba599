import SyntaxInspector.Text.Table.Alphabetic
import SyntaxInspector.Text.Table.Grapheme
import SyntaxInspector.Text.Table.Lowercase
import SyntaxInspector.Text.Table.Numeric
import SyntaxInspector.Text.Table.Space
import SyntaxInspector.Text.Table.Unprintable

/-!
# Classes of characters

Predicates on characters by their Unicode properties, and letter case.

* `isAlphanumeric`, `isSpace` — the classes that names and numerals use;
* `needsEscape` — characters that are shown by number in quoted text;
* `lowercase` — letter case.
-/

namespace SyntaxInspector

/-- Letters and other characters with the property Alphabetic. -/
def isAlphabetic (c : Char) : Bool := inRanges alphabeticRanges c.toNat

/-- Digits and number signs of every script. -/
def isNumeric (c : Char) : Bool := inRanges numericRanges c.toNat

/-- Alphabetic or numeric. -/
def isAlphanumeric (c : Char) : Bool := isAlphabetic c || isNumeric c

/-- White space. -/
def isSpace (c : Char) : Bool := inRanges spaceRanges c.toNat

/-- Characters that have no printed form of their own, or that attach to the one before them. -/
def needsEscape (c : Char) : Bool :=
  inRanges graphemeExtendRanges c.toNat || inRanges unprintableRanges c.toNat

/-! ### Letter case -/

/-- The lowercase form of one character; only the dotted capital I has two characters. -/
def lowercaseChar (c : Char) : List Char :=
  if c.toNat = 0x130 then ['i', Char.ofNat 0x307]
  else [((lowercaseRuns.findSome? (·.image? c.toNat)).map Char.ofNat).getD c]

/-- The lowercase form of a text, character by character. A capital sigma becomes the same small
letter at the end of a word as elsewhere. -/
def lowercase (text : String) : String := String.ofList (text.toList.flatMap lowercaseChar)

/-- Lowercases the letters A to Z and nothing else. -/
def asciiLowercase (text : String) : String := text.map Char.toLower

/-! ### Trimming -/

/-- The characters without white space at either end. -/
def trimChars (cs : List Char) : List Char :=
  ((cs.dropWhile isSpace).reverse.dropWhile isSpace).reverse

/-- The text without white space at either end. -/
def trimSpace (text : String) : String := String.ofList (trimChars text.toList)

end SyntaxInspector
