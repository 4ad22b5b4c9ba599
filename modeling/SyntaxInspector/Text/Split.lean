import SyntaxInspector.Text.Bytes

/-!
# Splitting and joining text at characters

Pieces between separators are all kept, empty ones too, so a text always has one piece more than
it has separators.
-/

namespace SyntaxInspector

/-- The pieces of a character list between the characters that satisfy `sep`. -/
def splitChars (sep : Char → Bool) : List Char → List (List Char)
  | [] => [[]]
  | c :: cs =>
    if sep c then [] :: splitChars sep cs
    else
      match splitChars sep cs with
      | [] => [[c]]
      | piece :: rest => (c :: piece) :: rest

theorem splitChars_ne_nil (sep : Char → Bool) (cs : List Char) : splitChars sep cs ≠ [] := by
  cases cs with
  | nil => simp [splitChars]
  | cons c cs =>
    rw [splitChars]
    split
    · simp
    · split <;> simp

/-- The pieces of a text between the characters that satisfy `sep`. -/
def splitText (sep : Char → Bool) (text : String) : List String :=
  (splitChars sep text.toList).map String.ofList

/-- The pieces one after the other, with `sep` between them. -/
def joinChars (sep : Char) : List (List Char) → List Char
  | [] => []
  | [piece] => piece
  | piece :: rest => piece ++ sep :: joinChars sep rest

theorem joinChars_cons (sep : Char) (piece : List Char) {rest : List (List Char)} (h : rest ≠ []) :
    joinChars sep (piece :: rest) = piece ++ sep :: joinChars sep rest := by
  cases rest with
  | nil => exact absurd rfl h
  | cons => rfl

/-- Joining what a separator splits gives the text back. -/
theorem joinChars_splitChars (sep : Char) (cs : List Char) :
    joinChars sep (splitChars (· = sep) cs) = cs := by
  induction cs with
  | nil => rfl
  | cons c cs ih =>
    have hne := splitChars_ne_nil (· = sep) cs
    rw [splitChars]
    split
    · rename_i hc
      rw [joinChars_cons _ _ hne, ih, List.nil_append, of_decide_eq_true hc]
    · split
      · contradiction
      · rename_i piece rest heq
        rw [heq] at ih
        cases rest with
        | nil => simpa [joinChars] using ih
        | cons p ps => simpa [joinChars] using ih

/-- The texts one after the other, with `sep` between them. -/
def joinText (sep : Char) (pieces : List String) : String :=
  String.ofList (joinChars sep (pieces.map String.toList))

/-- The characters before and after the first occurrence of `mark`. -/
def splitCharsOnce (mark : List Char) : List Char → Option (List Char × List Char)
  | [] => if mark.isEmpty then some ([], []) else none
  | c :: cs =>
    if mark.isPrefixOf (c :: cs) then some ([], (c :: cs).drop mark.length)
    else (splitCharsOnce mark cs).map fun (front, back) => (c :: front, back)

/-- The parts of a text before and after the first occurrence of `mark`. -/
def splitOnce? (mark text : String) : Option (String × String) :=
  (splitCharsOnce mark.toList text.toList).map fun (front, back) =>
    (String.ofList front, String.ofList back)

/-- The lines of a text, without their line feeds. -/
def lines (text : String) : List String := splitText (· = '\n') text

end SyntaxInspector
