import SyntaxInspector.Render.Row

/-!
# Rows by recursion

The rows of a tree as a recursive definition: a node that has a row comes before its children, and
its children are one level deeper; the children of any other node stay at its own level.
-/

namespace SyntaxInspector

namespace Node

mutual

/-- The rows of a tree whose root has `depth` ancestors with a row. -/
def rows (showAnonymous : Bool) (depth : Nat) : Node → List Row
  | .mk d cs =>
    match d.label? showAnonymous with
    | some label => .ofNode depth d label :: rowsList showAnonymous (depth + 1) cs
    | none => rowsList showAnonymous depth cs

/-- The rows of a list of trees, tree by tree. -/
def rowsList (showAnonymous : Bool) (depth : Nat) : List Node → List Row
  | [] => []
  | n :: ns => rows showAnonymous depth n ++ rowsList showAnonymous depth ns

end

end Node

end SyntaxInspector
