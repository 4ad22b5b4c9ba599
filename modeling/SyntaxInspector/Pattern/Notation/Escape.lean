import SyntaxInspector.Pattern.Notation.Flags

/-!
# Escapes in patterns

What a backslash may introduce: characters by number or by letter, classes of characters, tests on
the position, and characters that would otherwise have a meaning of their own.

* `Escape` — what a backslash sequence stands for;
* `escape?` — reads one.
-/

namespace SyntaxInspector

namespace Pattern

/-- What a backslash sequence stands for. -/
inductive Escape where
  /-- A character. -/
  | literal (c : Char)
  /-- A class of characters. -/
  | set (s : CharSet)
  /-- A test on the position. -/
  | look (l : Look)

/-- Characters with a meaning of their own. -/
def isMeta (c : Char) : Bool := "\\.+*?()|[]\x7b\x7d^$#&-~".toList.contains c

/-! ### Code points -/

/-- The value of a hexadecimal digit. -/
def hexValue? (c : Char) : Option Nat :=
  if '0' ≤ c && c ≤ '9' then some (c.toNat - '0'.toNat)
  else if 'a' ≤ c && c ≤ 'f' then some (c.toNat - 'a'.toNat + 10)
  else if 'A' ≤ c && c ≤ 'F' then some (c.toNat - 'A'.toNat + 10)
  else none

/-- The character of a nonempty hexadecimal numeral. -/
def charOfHex? (ds : List Char) : Option Char := do
  guard (!ds.isEmpty)
  let n ← ds.foldlM (fun n d => (hexValue? d).map (16 * n + ·)) 0
  if n.isValidChar then some (Char.ofNat n) else none

/-- A code point: `width` hexadecimal digits, or any number of them in braces. -/
def codePoint? (f : Flags) (width : Nat) (cs : List Char) : Option (Char × List Char) :=
  let isHex (c : Char) : Bool := (hexValue? c).isSome
  match f.skip cs with
  | '\x7b' :: cs => do
    let (digits, rest) := f.takeWhile isHex cs.length (f.skip cs)
    match rest with
    | '\x7d' :: rest => return (← charOfHex? digits, f.skip rest)
    | _ => none
  | cs => do
    let (digits, rest) := f.takeWhile isHex width cs
    guard (digits.length = width)
    return (← charOfHex? digits, rest)

/-- A code point of two hexadecimal digits stands for a byte if there is no Unicode; only those of
ASCII are characters then. -/
def byteOrCodePoint? (f : Flags) (cs : List Char) : Option (Char × List Char) := do
  let (c, rest) ← codePoint? f 2 cs
  let braced := (f.skip cs).head? == some '\x7b'
  if f.unicode || braced || c.toNat < 0x80 then some (c, rest) else none

/-! ### Classes and tests -/

/-- The class of a letter, whose capital stands for all other characters. -/
def classSet? (f : Flags) (letter : Char) : Option CharSet :=
  match letter with
  | 'd' => some (if f.unicode then CharSet.decimal else CharSet.asciiDecimal)
  | 's' => some (if f.unicode then CharSet.space else CharSet.asciiSpace)
  | 'w' => some (if f.unicode then CharSet.word else CharSet.asciiWord)
  | _ => none

/-- The class of a letter, capital or not. -/
def classEscape? (f : Flags) (letter : Char) : Option CharSet := do
  let set ← classSet? f letter.toLower
  f.guardSet (.complIf letter.isUpper set)

/-- The test named in the braces of a special word boundary. -/
def wordTest? : String → Option WordTest
  | "start" => some .start
  | "end" => some .stop
  | "start-half" => some .startHalf
  | "end-half" => some .stopHalf
  | _ => none

/-- A word boundary, perhaps of a special kind named in braces. -/
def wordBoundary? (f : Flags) (cs : List Char) : Option (Look × List Char) :=
  match cs with
  | '\x7b' :: r =>
    let (name, rest) := f.takeWhile (fun c => c.isAlpha || c == '-') r.length (f.skip r)
    if name.isEmpty then some (f.word .boundary, cs)
    else
      match rest with
      | '\x7d' :: after => (wordTest? (String.ofList name)).map fun test => (f.word test, after)
      | _ => none
  | _ => some (f.word .boundary, cs)

/-- Reads what follows a backslash. -/
def escape? (f : Flags) : List Char → Option (Escape × List Char)
  | [] => none
  | c :: cs =>
    match c with
    | 'x' => (byteOrCodePoint? f cs).map fun (c, r) => (.literal c, r)
    | 'u' => (codePoint? f 4 cs).map fun (c, r) => (.literal c, r)
    | 'U' => (codePoint? f 8 cs).map fun (c, r) => (.literal c, r)
    | 'a' => some (.literal '\x07', cs)
    | 'f' => some (.literal '\x0c', cs)
    | 't' => some (.literal '\t', cs)
    | 'n' => some (.literal '\n', cs)
    | 'r' => some (.literal '\r', cs)
    | 'v' => some (.literal '\x0b', cs)
    | 'A' => some (.look .textStart, cs)
    | 'z' => some (.look .textEnd, cs)
    | 'b' => (wordBoundary? f cs).map fun (l, r) => (.look l, r)
    | 'B' => some (.look (f.word .noBoundary), cs)
    | '<' => some (.look (f.word .start), cs)
    | '>' => some (.look (f.word .stop), cs)
    | c =>
      if c.isAlpha then (classEscape? f c).map fun s => (.set s, cs)
      else if isMeta c || (c.toNat < 0x80 && !c.isDigit) then some (.literal c, cs)
      else none

end Pattern

end SyntaxInspector
