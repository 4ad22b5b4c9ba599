import SyntaxInspector.Language.Basic

/-!
# Suggestions for misspelt language names

A name is close to a language when some alias is at most two edits away.

* `editDistance` — insertions, deletions and substitutions, by recursion;
* `tableDistance` — the same number, computed row by row;
* `Language.suggest?` — the closest language.
-/

namespace SyntaxInspector

/-- The least number of insertions, deletions and substitutions that turn one list of characters
into the other. -/
def editDistance : List Char → List Char → Nat
  | [], bs => bs.length
  | a :: as, [] => (a :: as).length
  | a :: as, b :: bs =>
    min (min (editDistance as (b :: bs) + 1) (editDistance (a :: as) bs + 1))
      (editDistance as bs + if a = b then 0 else 1)
termination_by as bs => as.length + bs.length

/-- The cells of a row after its first one. `left` is the cell before, and the row above starts
diagonally before. -/
def rowCells (a : Char) : Nat → List Char → List Nat → List Nat
  | left, b :: bs, diagonal :: above :: row =>
    let cell := min (min (above + 1) (left + 1)) (diagonal + if a = b then 0 else 1)
    cell :: rowCells a cell bs (above :: row)
  | _, _, _ => []

/-- The row of distances from all prefixes of `bs`, one character further than `row`. -/
def nextRow (bs : List Char) (row : List Nat) (a : Char) : List Nat :=
  let first := row.headD 0 + 1
  first :: rowCells a first bs row

/-- The edit distance, from the rows of distances between prefixes. Without characters on one side
there is nothing to compare. -/
def tableDistance (as bs : List Char) : Nat :=
  if as.isEmpty then bs.length
  else if bs.isEmpty then as.length
  else ((as.foldl (nextRow bs) (List.range (bs.length + 1))).getLast?).getD 0

/-- The smallest number of a list. -/
def leastOf? : List Nat → Option Nat
  | [] => none
  | n :: ns => some (ns.foldl min n)

namespace Language

/-- Edits between a name and the language's closest alias. -/
def distanceTo? (l : Language) (name : String) : Option Nat :=
  leastOf? (l.aliases.map fun a => tableDistance a.toList name.toList)

/-- The first candidate with the smallest number. -/
def closest? : List (Nat × Language) → Option (Nat × Language)
  | [] => none
  | c :: cs => some (cs.foldl (fun best d => if d.1 < best.1 then d else best) c)

/-- The name of the first listed language closest to a misspelt name, within two edits. -/
def suggest? (name : String) : Option String :=
  let candidates := all.filterMap fun l =>
    match l.distanceTo? (lowercase name) with
    | some n => if n ≤ 2 then some (n, l) else none
    | none => none
  (closest? candidates).map (·.2.name)

end Language

end SyntaxInspector
