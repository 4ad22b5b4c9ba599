import Mathlib.Data.List.Forall2
import Mathlib.Data.List.Induction
import Mathlib.Data.List.ProdSigma
import SyntaxInspector.Layer.Document
import SyntaxInspector.Proofs.Layer.Search

/-!
# Injected layers cover all matches

The search for injections walks over the nodes of the root tree and tries all points at each. So
the injected layers of a document are those of all pairs of a node and a point that match, node by
node in pre-order and then point by point. A layer is there whether or not its text can be parsed.

* `InjectionPoint.Matches` — a node matches a point;
* `injectionMatches` — all pairs that match, in the order of the search;
* `Layer.IsFor` — the layer of a match;
* `Document.injected_layers_cover_matches` — the layers of a new text.
-/

namespace SyntaxInspector

/-! ### Matches -/

/-- A node of a text matches an injection point: it is of the point's kind, it is not empty, and if
the point has a regular expression, the node has a text and the expression matches it. -/
structure InjectionPoint.Matches (p : InjectionPoint) (text : String) (d : NodeData) : Prop where
  kind : d.kind = p.kind
  nonempty : d.startByte < d.endByte
  pattern : ∀ regex ∈ p.pattern, ∃ piece,
    slice? text d.startByte d.endByte = some piece ∧ regex.isMatch piece = true

theorem InjectionPoint.accepts_iff {p : InjectionPoint} {text : String} {d : NodeData} :
    p.accepts text d = true ↔ p.Matches text d := by
  obtain ⟨kind, language, pattern⟩ := p
  unfold accepts
  rw [Bool.and_eq_true, Bool.and_eq_true, beq_iff_eq, decide_eq_true_iff]
  cases pattern with
  | none =>
    constructor
    · rintro ⟨⟨hkind, hnonempty⟩, -⟩
      exact ⟨hkind, hnonempty, by simp⟩
    · rintro ⟨hkind, hnonempty, -⟩
      exact ⟨⟨hkind, hnonempty⟩, rfl⟩
  | some regex =>
    rw [Option.any_eq_true]
    constructor
    · rintro ⟨⟨hkind, hnonempty⟩, hpattern⟩
      exact ⟨hkind, hnonempty, by simpa using hpattern⟩
    · rintro ⟨hkind, hnonempty, hpattern⟩
      exact ⟨⟨hkind, hnonempty⟩, hpattern regex rfl⟩

/-- All nodes with all injection points, each with its number, as far as the point accepts the
node. -/
def injectionMatches (points : List InjectionPoint) (text : String)
    (nodes : List (NodeData × Nat)) : List ((NodeData × Nat) × (InjectionPoint × Nat)) :=
  (nodes ×ˢ points.zipIdx).filter fun (n, p) => p.1.accepts text n.1

/-- The pre-order index of the node and the number of the point of a match. -/
def placeOf (m : (NodeData × Nat) × (InjectionPoint × Nat)) : Nat × Nat := (m.1.2, m.2.2)

section Matches

variable {points : List InjectionPoint} {text : String}

theorem injectionMatches_cons (n : NodeData × Nat) (nodes : List (NodeData × Nat)) :
    injectionMatches points text (n :: nodes) =
      (points.zipIdx.filter (·.1.accepts text n.1)).map (n, ·) ++
        injectionMatches points text nodes := by
  rw [injectionMatches, List.product_cons, List.filter_append, List.filter_map]
  rfl

theorem pairwise_snd_zipIdx {α : Type} (l : List α) (start : Nat) :
    (l.zipIdx start).Pairwise fun a b => a.2 < b.2 := by
  have hnumbers : ((l.zipIdx start).map Prod.snd).Pairwise (· < ·) := by
    rw [List.zipIdx_map_snd]
    exact List.pairwise_lt_range'
  exact List.pairwise_map.1 hnumbers

/-- Matches come by node and then by point. -/
theorem pairwise_injectionMatches {nodes : List (NodeData × Nat)}
    (hnodes : nodes.Pairwise fun n n' => n.2 < n'.2) :
    (injectionMatches points text nodes).Pairwise fun m m' =>
      Prod.Lex (· < ·) (· < ·) (placeOf m) (placeOf m') := by
  induction nodes with
  | nil => exact List.Pairwise.nil
  | cons n nodes ih =>
    obtain ⟨hn, hrest⟩ := List.pairwise_cons.1 hnodes
    rw [injectionMatches_cons]
    refine List.pairwise_append.2 ⟨?_, ih hrest, ?_⟩
    · refine List.pairwise_map.2 (((pairwise_snd_zipIdx points 0).filter _).imp fun hlt => ?_)
      exact .right _ hlt
    · intro m hm m' hm'
      obtain ⟨p, -, rfl⟩ := List.mem_map.1 hm
      obtain ⟨hmem, -⟩ := List.mem_filter.1 hm'
      exact .left _ _ (hn m'.1 (List.mem_product.1 hmem).1)

theorem mem_injectionMatches {nodes : List NodeData} {n : NodeData} {k : Nat} {p : InjectionPoint}
    {i : Nat} :
    ((n, k), (p, i)) ∈ injectionMatches points text nodes.zipIdx ↔
      nodes[k]? = some n ∧ points[i]? = some p ∧ p.Matches text n := by
  rw [injectionMatches, List.mem_filter, List.mem_product, List.mem_zipIdx_iff_getElem?,
    List.mem_zipIdx_iff_getElem?, InjectionPoint.accepts_iff, and_assoc]

/-! ### What the search finds -/

/-- The language and the node of an injection. -/
def Injection.content (i : Injection) : Language × NodeData := (i.language, i.node)

theorem map_content_injectionsAt (counts : Nat → Nat) (d : NodeData) :
    (injectionsAt points text counts d).map Injection.content =
      (points.zipIdx.filter (·.1.accepts text d)).map fun p => (p.1.language, d) := by
  rw [injectionsAt, List.map_filterMap, ← List.filterMap_eq_map, List.filterMap_filter]
  congr 1
  funext p
  obtain ⟨p, i⟩ := p
  dsimp only
  split <;> rfl

/-- The search finds the matches, and nothing else, in their order. -/
theorem map_content_foldl (nodes : List NodeData) (start : Nat) (found : List Injection) :
    (nodes.foldl (addInjections points text) found).map Injection.content =
      found.map Injection.content ++
        (injectionMatches points text (nodes.zipIdx start)).map fun m =>
          (m.2.1.language, m.1.1) := by
  induction nodes generalizing start found with
  | nil => simp [injectionMatches]
  | cons d nodes ih =>
    rw [List.foldl_cons, ih (start + 1), addInjections, List.map_append, map_content_injectionsAt,
      List.zipIdx_cons, injectionMatches_cons, List.map_append, List.map_map, List.append_assoc]
    rfl

theorem map_content_findInjections (points : List InjectionPoint) (text : String) (root : Node) :
    (findInjections points text root).map Injection.content =
      (injectionMatches points text (root.preorder.map Node.data).zipIdx).map fun m =>
        (m.2.1.language, m.1.1) := by
  rw [findInjections_eq_foldl, map_content_foldl _ 0, List.map_nil, List.nil_append]

end Matches

/-! ### Layers -/

/-- A layer for the text of a node in a language. It lies just where the node does, and its tree is
what the engine makes of that part of the text, if anything. -/
structure Layer.IsFor (e : Engine) (text : String) (lang : Language) (n : NodeData)
    (l : Layer) : Prop where
  language : l.language = lang
  kind : l.kind = .injected [n.range]
  extent : l.extent = n.range
  tree : ∃ number, l.tree = (e.parse number lang text [(n.startByte, n.endByte)]).1.toOption

namespace Document

variable {e : Engine} {text : String}

/-- Each injection gets a layer of its own, whether it can be parsed or not. -/
theorem layers_buildLayers (e : Engine) (text : String) (known : List (InjectionKey × LayerId))
    (nextId nextTree : Nat) (found : List Injection) :
    List.Forall₂ (fun content l => Layer.IsFor e text content.1 content.2 l)
      (found.map Injection.content) (buildLayers e text known nextId nextTree found).layers := by
  induction found using List.reverseRecOn with
  | nil => exact .nil
  | append_singleton found i ih =>
    rw [buildLayers, List.foldl_append, List.map_append]
    exact List.rel_append ih (.cons ⟨rfl, rfl, rfl, _, rfl⟩ .nil)

/-- A text whose root can be parsed is taken over, with a layer for each injection found. -/
theorem setText_of_parse {d : Document} {next : Nat} {t : SyntaxTree}
    (hparse : (e.parse next d.language text []).1 = .ok t) :
    ∃ nextTree,
      let b := buildLayers e text d.ids d.nextId nextTree (findInjections d.points text t.root)
      (d.setText e next text).1 = .ok { d with
        text, tree := some t, injections := b.layers, ids := b.ids, nextId := b.nextId } := by
  unfold setText
  cases hroot : e.parse next d.language text [] with
  | mk result nextTree =>
    rw [hroot] at hparse
    obtain rfl : result = .ok t := hparse
    exact ⟨nextTree, rfl⟩

/-- **Injected layers cover all matches.** Give a document a text whose root can be parsed.

* The walk over the root tree stands at its nodes one after the other in pre-order, and it ends
  after the last of them.
* The document takes the text and the tree over. Its injected layers are, in order, one for each
  pair of a node and an injection point that match, by the pre-order index of the node and then by
  the number of the point.
* The layer of a match is in the language of the point and lies just where the node does. Its tree
  is what the engine makes of that part of the text; if it makes nothing of it, there is the layer
  without a tree. -/
theorem injected_layers_cover_matches (e : Engine) (d : Document) (next : Nat) (text : String)
    (t : SyntaxTree) (hparse : (e.parse next d.language text []).1 = .ok t) :
    (∀ k, ((Cursor.ofRoot t.root).movedOn? k).map Cursor.focus = t.root.preorder[k]?) ∧
    ∃ d', (d.setText e next text).1 = .ok d' ∧ d'.text = text ∧ d'.tree = some t ∧
      ∃ places : List (Nat × Nat),
        places.Pairwise (Prod.Lex (· < ·) (· < ·)) ∧
        (∀ k i, (k, i) ∈ places ↔ ∃ n p, t.root.preorder[k]? = some n ∧ d.points[i]? = some p ∧
          p.Matches text n.data) ∧
        List.Forall₂ (fun place l => ∃ n p, t.root.preorder[place.1]? = some n ∧
          d.points[place.2]? = some p ∧ l.IsFor e text p.language n.data) places d'.injections := by
  refine ⟨Cursor.map_focus_movedOn?_ofRoot t.root, ?_⟩
  obtain ⟨nextTree, hset⟩ := setText_of_parse hparse
  refine ⟨_, hset, rfl, rfl, ?_⟩
  have hnode : ∀ {k : Nat} {n : NodeData}, (t.root.preorder.map Node.data)[k]? = some n →
      ∃ m, t.root.preorder[k]? = some m ∧ m.data = n := fun {k n} hget =>
    Option.map_eq_some_iff.1 (List.getElem?_map ▸ hget)
  let found := injectionMatches d.points text (t.root.preorder.map Node.data).zipIdx
  refine ⟨found.map placeOf, ?_, fun k i => ?_, ?_⟩
  · exact List.pairwise_map.2 (pairwise_injectionMatches (pairwise_snd_zipIdx _ 0))
  · constructor
    · intro hmem
      obtain ⟨⟨⟨n, _⟩, p, _⟩, hfound, hplace⟩ := List.mem_map.1 hmem
      obtain ⟨rfl, rfl⟩ := Prod.mk.inj hplace
      obtain ⟨hn, hp, hmatches⟩ := mem_injectionMatches.1 hfound
      obtain ⟨m, hm, rfl⟩ := hnode hn
      exact ⟨m, p, hm, hp, hmatches⟩
    · rintro ⟨m, p, hm, hp, hmatches⟩
      have hn : (t.root.preorder.map Node.data)[k]? = some m.data := by
        rw [List.getElem?_map, hm]
        rfl
      exact List.mem_map.2 ⟨((m.data, k), (p, i)), mem_injectionMatches.2 ⟨hn, hp, hmatches⟩, rfl⟩
  · have hlayers := layers_buildLayers e text d.ids d.nextId nextTree
      (findInjections d.points text t.root)
    rw [map_content_findInjections, List.forall₂_map_left_iff] at hlayers
    rw [List.forall₂_map_left_iff]
    refine List.Forall₂.imp ?_ ((List.forall₂_and_left _ _).2 ⟨fun m hm => hm, hlayers⟩)
    rintro ⟨⟨n, k⟩, p, i⟩ l ⟨hfound, hfor⟩
    obtain ⟨hn, hp, -⟩ := mem_injectionMatches.1 hfound
    obtain ⟨m, hm, rfl⟩ := hnode hn
    exact ⟨m, p, hm, hp, hfor⟩

/-- The nodes of a markup text `<a><!></a>`, in which the comment has no text. -/
def markupNodes : List Node.Entry :=
  [⟨0, ⟨"document", true, false, none, ⟨⟨0, 0⟩, ⟨0, 10⟩⟩, 0, 10, .plain 0⟩⟩,
    ⟨1, ⟨"tag", true, false, none, ⟨⟨0, 0⟩, ⟨0, 3⟩⟩, 0, 3, .plain 0⟩⟩,
    ⟨2, ⟨"name", true, false, none, ⟨⟨0, 1⟩, ⟨0, 2⟩⟩, 1, 2, .plain 0⟩⟩,
    ⟨1, ⟨"comment", true, false, none, ⟨⟨0, 5⟩, ⟨0, 5⟩⟩, 5, 5, .plain 0⟩⟩,
    ⟨1, ⟨"tag", true, false, none, ⟨⟨0, 6⟩, ⟨0, 10⟩⟩, 6, 10, .plain 0⟩⟩]

/-- An engine that knows the markup text, and of its parts only the name of the first tag. -/
def markupEngine : Engine where
  nodes _ language _ spans :=
    if spans = [] then .ok ⟨markupNodes, []⟩
    else if spans = [(1, 2)] then
      .ok ⟨[⟨0, ⟨"word", true, false, none, ⟨⟨0, 1⟩, ⟨0, 2⟩⟩, 1, 2, .plain 0⟩⟩], []⟩
    else .error (.noTree language.name)
  compile _ source := .error ⟨.malformed, .zero, source⟩
  captures _ _ _ _ := []

/-- A document in which names, tags, tags with a slash and comments are injections. -/
def markupDocument : Document where
  language := ⟨"markup", ["markup"], []⟩
  points := [⟨"tag", ⟨"closing", ["closing"], []⟩, some (Pattern.char (.single '/')).regex⟩,
    ⟨"comment", ⟨"prose", ["prose"], []⟩, none⟩, ⟨"name", ⟨"words", ["words"], []⟩, none⟩,
    ⟨"tag", ⟨"tags", ["tags"], []⟩, none⟩]

/-- The first tag is an injection of the last point only, the closing tag one of two points, and the
empty comment is none. Tags have layers without trees. -/
theorem injected_layers_cover_matches_markupDocument :
    (∃ t, (markupEngine.parse 0 markupDocument.language "<a><!></a>" []).1 = .ok t) ∧
    ((markupDocument.setText markupEngine 0 "<a><!></a>").1.toOption.map fun d =>
      d.injections.map fun l => (l.grammar, l.extent, l.tree.isSome)) =
      some [("tags", ⟨⟨0, 0⟩, ⟨0, 3⟩⟩, false), ("words", ⟨⟨0, 1⟩, ⟨0, 2⟩⟩, true),
        ("closing", ⟨⟨0, 6⟩, ⟨0, 10⟩⟩, false), ("tags", ⟨⟨0, 6⟩, ⟨0, 10⟩⟩, false)] ∧
    ∃ (d' : Document) (places : List (Nat × Nat)),
      (markupDocument.setText markupEngine 0 "<a><!></a>").1 = .ok d' ∧
      d'.injections.length = places.length ∧ places.Pairwise (Prod.Lex (· < ·) (· < ·)) ∧
      (4, 0) ∈ places ∧ (1, 0) ∉ places ∧ (3, 1) ∉ places := by
  have hparse : (markupEngine.parse 0 markupDocument.language "<a><!></a>" []).1 = .ok _ := rfl
  obtain ⟨-, d', hset, -, -, places, hsorted, hmem, hlayers⟩ :=
    injected_layers_cover_matches markupEngine markupDocument 0 "<a><!></a>" _ hparse
  refine ⟨⟨_, hparse⟩, by decide +kernel, d', places, hset, hlayers.length_eq.symm, hsorted,
    ?_, ?_, ?_⟩
  · exact (hmem 4 0).2 ⟨_, _, rfl, rfl, InjectionPoint.accepts_iff.1 (by decide +kernel)⟩
  · intro h
    obtain ⟨n, p, hn, hp, hmatches⟩ := (hmem 1 0).1 h
    cases hn
    cases hp
    exact absurd (InjectionPoint.accepts_iff.2 hmatches) (by decide +kernel)
  · intro h
    obtain ⟨n, p, hn, hp, hmatches⟩ := (hmem 3 1).1 h
    cases hn
    cases hp
    exact absurd hmatches.nonempty (by decide)

end Document

end SyntaxInspector
