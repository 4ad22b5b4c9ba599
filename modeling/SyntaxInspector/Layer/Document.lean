import SyntaxInspector.Layer.Injection

/-!
# Documents

A document is a text with its root tree and its injected layers. A new text is parsed anew;
injections with the same key as before keep their layer's id, all others get a fresh one.

* `Document.setText` — replaces the text;
* `Document.snapshot` — the layers as they are now.
-/

namespace SyntaxInspector

/-- A text with its layers. -/
structure Document where
  /-- The language of the root layer. -/
  language : Language
  /-- Where other languages may be found. -/
  points : List InjectionPoint := []
  /-- The text. -/
  text : String := ""
  /-- The root tree, once there is one. -/
  tree : Option SyntaxTree := none
  /-- The injected layers. -/
  injections : List Layer := []
  /-- The ids of the injected layers, by key. -/
  ids : List (InjectionKey × LayerId) := []
  /-- The next id to give out. -/
  nextId : Nat := 1

namespace Document

/-- The layers of injections under construction: the layers and ids so far, the next layer id and
the next tree number. -/
structure Building where
  /-- The layers, in order. -/
  layers : List Layer := []
  /-- Their ids by key. -/
  ids : List (InjectionKey × LayerId) := []
  /-- The next layer id. -/
  nextId : Nat
  /-- The next tree number. -/
  nextTree : Nat

/-- Adds the layer of one injection. Its id is the one `known` for its key, or else the next. An
injection that cannot be parsed is a layer without a tree. -/
def addLayer (e : Engine) (text : String) (known : List (InjectionKey × LayerId)) (b : Building)
    (i : Injection) : Building :=
  let (id, nextId) := match known.lookup i.key with
    | some id => (id, b.nextId)
    | none => (⟨b.nextId⟩, b.nextId + 1)
  let (result, nextTree) := e.parse b.nextTree i.language text [(i.node.startByte, i.node.endByte)]
  { layers := b.layers ++ [.injected id i.language result.toOption [i.node.range]]
    ids := b.ids ++ [(i.key, id)]
    nextId
    nextTree }

/-- The layers of a list of injections. -/
def buildLayers (e : Engine) (text : String) (known : List (InjectionKey × LayerId))
    (nextId nextTree : Nat) (found : List Injection) : Building :=
  found.foldl (addLayer e text known) { nextId, nextTree }

/-- Replaces the text and parses every layer; nothing changes if the root cannot be parsed. Gives
the next tree number too. -/
def setText (e : Engine) (d : Document) (next : Nat) (text : String) :
    Except ParseError Document × Nat :=
  match e.parse next d.language text [] with
  | (.error err, next) => (.error err, next)
  | (.ok tree, next) =>
    let b := buildLayers e text d.ids d.nextId next (findInjections d.points text tree.root)
    (.ok { d with
      text, tree := some tree, injections := b.layers, ids := b.ids, nextId := b.nextId },
      b.nextTree)

/-- The text and the layers as they are now. -/
def snapshot (d : Document) : Snapshot :=
  ⟨d.text, .root d.language d.tree d.text, d.injections⟩

end Document

/-! ### Snapshots from a description -/

/-- A layer to be built: its id, the name of its language, the bytes it lies in, and whether to parse
it. -/
structure LayerSpec where
  /-- The layer's id. -/
  id : LayerId
  /-- The name of the language. -/
  languageName : String
  /-- The spans of bytes. -/
  spans : List ByteSpan
  /-- Whether the layer gets a tree. -/
  parsed : Bool

/-- Why a described layer cannot be built. -/
inductive DescriptionError where
  /-- No language has the name. -/
  | unknownLanguage (name : String)
  /-- The text could not be parsed. -/
  | parse (e : ParseError)
  deriving DecidableEq

namespace Snapshot

/-- The range of points of a span of bytes. -/
def rangeOf (text : String) (span : ByteSpan) : Range :=
  ⟨pointAt text .zero span.1, pointAt text .zero span.2⟩

/-- Looks up a language by name, then parses if `wanted`; otherwise there is no tree. -/
def languageAndTree (e : Engine) (next : Nat) (name : String) (wanted : Bool) (text : String)
    (spans : List ByteSpan) : Except DescriptionError (Language × Option SyntaxTree) × Nat :=
  match Language.ofName? name, wanted with
  | none, _ => (.error (.unknownLanguage name), next)
  | some language, false => (.ok (language, none), next)
  | some language, true =>
    let (result, next) := e.parse next language text spans
    ((result.map fun tree => (language, some tree)).mapError .parse, next)

/-- Builds described layers in order, stopping at the first that cannot be built. -/
def buildLayers (e : Engine) (text : String) : Nat → List LayerSpec →
    Except DescriptionError (List Layer) × Nat
  | next, [] => (.ok [], next)
  | next, s :: specs =>
    match languageAndTree e next s.languageName s.parsed text s.spans with
    | (.error err, next) => (.error err, next)
    | (.ok (language, tree), next) =>
      let layer := Layer.injected s.id language tree (s.spans.map (rangeOf text))
      let (rest, next) := buildLayers e text next specs
      (rest.map (layer :: ·), next)

/-- Builds a snapshot from descriptions of its layers, the root first. -/
def build (e : Engine) (next : Nat) (text : String) (languageName : String) (parsed : Bool)
    (specs : List LayerSpec) : Except DescriptionError Snapshot × Nat :=
  match languageAndTree e next languageName parsed text [] with
  | (.error err, next) => (.error err, next)
  | (.ok (language, tree), next) =>
    let (layers, next) := buildLayers e text next specs
    (layers.map (⟨text, .root language tree text, ·⟩), next)

end Snapshot

end SyntaxInspector
