import SyntaxInspector.Text.CharClass
import SyntaxInspector.Text.Point

/-!
# Decimal numerals

Numerals are ASCII digits with an optional sign; a numeral outside the 64-bit words is no number.
-/

namespace SyntaxInspector

/-- The value of a digit string read onto `acc`, or `none` at a character that is no ASCII digit. -/
def digitsOnto (acc : Nat) : List Char → Option Nat
  | [] => some acc
  | c :: cs =>
    if '0' ≤ c && c ≤ '9' then digitsOnto (10 * acc + (c.toNat - '0'.toNat)) cs else none

/-- The value of a nonempty string of ASCII digits. -/
def digits? : List Char → Option Nat
  | [] => none
  | c :: cs => digitsOnto 0 (c :: cs)

/-- Reads an unsigned 64-bit numeral, with an optional plus sign. -/
def readWord? (text : String) : Option Nat := do
  let n ← match text.toList with
    | '+' :: cs => digits? cs
    | cs => digits? cs
  if n ≤ maxWord then some n else none

/-- Reads a signed 64-bit numeral, with an optional sign. -/
def readInteger? (text : String) : Option Int := do
  let i : Int ← match text.toList with
    | '+' :: cs => (digits? cs).map Int.ofNat
    | '-' :: cs => (digits? cs).map fun n => -Int.ofNat n
    | cs => (digits? cs).map Int.ofNat
  if -9223372036854775808 ≤ i ∧ i < 9223372036854775808 then some i else none

end SyntaxInspector
