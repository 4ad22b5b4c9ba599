import SyntaxInspector.Text.Quoted

/-!
# JSON values

* `Json.pretty` — the value over several lines, indented by two blanks;
* `Json.sortKeys` — the value with the fields of every object in alphabetical order.
-/

namespace SyntaxInspector

/-- A JSON value. Objects keep the order of their fields. -/
inductive Json where
  /-- The null value. -/
  | null
  /-- A truth value. -/
  | bool (b : Bool)
  /-- An integer. -/
  | int (i : Int)
  /-- A number with a fraction or an exponent, as it is written. -/
  | decimal (text : String)
  /-- A string. -/
  | str (s : String)
  /-- An array. -/
  | arr (items : List Json)
  /-- An object. -/
  | obj (fields : List (String × Json))
  deriving Inhabited

namespace Json

/-- A natural number. -/
def nat (n : Nat) : Json := .int n

/-- A value that may be absent, which is then null. -/
def option {α : Type} (form : α → Json) : Option α → Json
  | some a => form a
  | none => .null

/-- The value of a field of an object. -/
def field? (key : String) : Json → Option Json
  | .obj fields => fields.lookup key
  | _ => none

/-! ### Order of fields -/

/-- Puts a field before the first one with a greater key. -/
def insertField (key : String) (value : Json) : List (String × Json) → List (String × Json)
  | [] => [(key, value)]
  | (k, v) :: rest =>
    if key < k then (key, value) :: (k, v) :: rest else (k, v) :: insertField key value rest

mutual

/-- The value with the fields of every object in order of their keys. -/
def sortKeys : Json → Json
  | .arr items => .arr (sortItems items)
  | .obj fields => .obj (sortFields fields)
  | other => other

/-- Array items with their fields in order. -/
def sortItems : List Json → List Json
  | [] => []
  | item :: items => sortKeys item :: sortItems items

/-- Fields in order of their keys. -/
def sortFields : List (String × Json) → List (String × Json)
  | [] => []
  | (key, value) :: fields => insertField key (sortKeys value) (sortFields fields)

end

/-! ### Writing -/

/-- The start of a line at a level of indentation. -/
def lineStart (level : Nat) : String := "\n" ++ String.ofList (List.replicate (2 * level) ' ')

mutual

/-- The value over several lines, the first one at a level of indentation. -/
def prettyAt (level : Nat) : Json → String
  | .null => "null"
  | .bool b => toString b
  | .int i => toString i
  | .decimal text => text
  | .str s => jsonQuoted s
  | .arr [] => "[]"
  | .arr (item :: items) =>
    "[" ++ lineStart (level + 1) ++ prettyAt (level + 1) item ++ prettyItems (level + 1) items ++
      lineStart level ++ "]"
  | .obj [] => "\x7b\x7d"
  | .obj ((key, value) :: fields) =>
    "\x7b" ++ lineStart (level + 1) ++ jsonQuoted key ++ ": " ++ prettyAt (level + 1) value ++
      prettyFields (level + 1) fields ++ lineStart level ++ "\x7d"

/-- Further items of an array. -/
def prettyItems (level : Nat) : List Json → String
  | [] => ""
  | item :: items => "," ++ lineStart level ++ prettyAt level item ++ prettyItems level items

/-- Further fields of an object. -/
def prettyFields (level : Nat) : List (String × Json) → String
  | [] => ""
  | (key, value) :: fields =>
    "," ++ lineStart level ++ jsonQuoted key ++ ": " ++ prettyAt level value ++
      prettyFields level fields

end

/-- The value over several lines. -/
def pretty (j : Json) : String := j.prettyAt 0

end Json

end SyntaxInspector
