import SyntaxInspector.Scope.Resolver

/-!
# Highlights

Captures become highlights of five categories, by the position of their names in the query.

* `Category.ofIndex` — the category of a capture;
* `collapseRepeats` — drops a highlight whose node was just highlighted;
* `resolveHighlights` — the highlights of a query run;
* `captureMarks` — where the query text itself names its captures.
-/

namespace SyntaxInspector

/-! ### Categories -/

/-- A category of highlights, from 1 to 5. -/
structure Category where
  /-- The number of the category. -/
  number : Nat
  deriving DecidableEq, Inhabited

namespace Category

/-- The number of categories. -/
def count : Nat := 5

/-- The category of injected ranges. -/
def injection : Category := ⟨5⟩

/-- The category of the capture declared at an index. -/
def ofIndex (index : Nat) : Category := ⟨index % count + 1⟩

/-- The category of a capture, by its position among the declared names. -/
def ofName? (name : String) (declared : List String) : Option Category :=
  (declared.idxOf? name).map ofIndex

/-- The style class of the category. -/
def className (c : Category) : String := s!"query-match-color-{c.number}"

/-- The category as text. -/
def text (c : Category) : String := toString c.number

end Category

/-- A highlighted range of a document. -/
structure Highlight where
  /-- What is highlighted. -/
  range : Range
  /-- The category. -/
  category : Category
  /-- The capture behind it. -/
  captureName : String
  /-- The node behind it. -/
  nodeId : NodeId
  deriving DecidableEq, Inhabited

/-- A capture named in the query text. -/
structure CaptureMark where
  /-- Where the name stands. -/
  range : Range
  /-- The category. -/
  category : Category
  /-- The capture. -/
  captureName : String
  deriving DecidableEq, Inhabited

/-- A range with a category and nothing else. -/
structure Mark where
  /-- What is marked. -/
  range : Range
  /-- The category. -/
  category : Category
  deriving DecidableEq, Inhabited

/-! ### From captures to highlights -/

/-- The items whose node differs from the node of the last item kept, which is `last`. -/
def collapseFrom {α : Type} (nodeOf : α → NodeId) : Option NodeId → List α → List α
  | _, [] => []
  | last, a :: as =>
    if last = some (nodeOf a) then collapseFrom nodeOf last as
    else a :: collapseFrom nodeOf (some (nodeOf a)) as

theorem collapseFrom_sublist {α : Type} (nodeOf : α → NodeId) (last : Option NodeId)
    (items : List α) : (collapseFrom nodeOf last items).Sublist items := by
  induction items generalizing last with
  | nil => exact List.Sublist.slnil
  | cons a as ih =>
    rw [collapseFrom]
    split
    · exact (ih _).cons a
    · exact (ih _).cons_cons a

/-- Keeps the first item of each run with the same node. -/
def collapseRepeats {α : Type} (nodeOf : α → NodeId) (items : List α) : List α :=
  collapseFrom nodeOf none items

/-- The id of a captured node. -/
def Capture.nodeId (c : Capture) : NodeId := c.node.data.id

/-- The highlight of a capture that got a range. -/
def Highlight.ofCapture (q : CompiledQuery) (c : Capture) (range : Range) : Highlight :=
  ⟨range, .ofIndex c.nameIndex, q.captureName c.nameIndex, c.nodeId⟩

/-- The captures that get a range, with their ranges. -/
def resolvedCaptures (q : CompiledQuery) (t : SyntaxTree) (text : String) (r : Resolver)
    (captures : List Capture) : List (Capture × Range) :=
  (captures.zip (r.resolveAll q t text captures).2).filterMap fun (c, range) => range.map (c, ·)

/-- The highlights of a query run. The resolver is reset before and after. -/
def resolveHighlights (q : CompiledQuery) (t : SyntaxTree) (text : String) (r : Resolver)
    (captures : List Capture) : List Highlight × Resolver :=
  let resolved := resolvedCaptures q t text r.reset captures
  ((collapseRepeats (·.1.nodeId) resolved).map fun (c, range) => .ofCapture q c range, r.reset)

/-! ### Marks in the query text -/

/-- Byte offsets of the occurrences of `word` that do not overlap, each with the text after it. At
a distance `skip` characters from the last occurrence the next may start. -/
def occurrences (word : List Char) (offset : Nat) : (skip : Nat) → List Char → List (Nat × List Char)
  | _, [] => []
  | skip + 1, c :: cs => occurrences word (offset + c.utf8Size) skip cs
  | 0, c :: cs =>
    if word.isPrefixOf (c :: cs) then
      (offset, (c :: cs).drop word.length) ::
        occurrences word (offset + c.utf8Size) (word.length - 1) cs
    else occurrences word (offset + c.utf8Size) 0 cs

/-- Whether a text goes on with a character of capture names. -/
def continuesName : List Char → Bool
  | [] => false
  | c :: _ => c = '.' || c = '_' || isAlphanumeric c

/-- The marks of one capture, in the order of the text. -/
def marksOf (source name : String) (index : Nat) : List CaptureMark :=
  let word := '@' :: name.toList
  ((occurrences word 0 0 source.toList).filter (!continuesName ·.2)).map fun (offset, _) =>
    ⟨⟨pointAt source .zero offset, pointAt source .zero (offset + byteLength word)⟩,
      .ofIndex index, name⟩

/-- The marks of all captures of a query, capture by capture. -/
def captureMarks (q : CompiledQuery) : List CaptureMark :=
  q.captureNames.zipIdx.flatMap fun (name, index) => marksOf q.source name index

end SyntaxInspector
