import Mathlib.Data.List.Forall2
import Mathlib.Data.List.Induction
import SyntaxInspector.Layer.Document
import SyntaxInspector.Proofs.Layer.Search

/-!
# Lives of documents

A document gets one new text after the other. Each is parsed anew, and nothing is remembered of the
texts before but which key has which id. Ids are handed on by key, and a key that is not known gets
an id that nothing has had.

* `Document.edits` — a document after a list of new texts;
* `Document.Ledger` — what is kept of ids and keys;
* `Document.Building.sound_buildLayers` — what building layers makes of them;
* `Document.Sound.edits` — what every new text keeps;
* `Document.Sound.mem_ids_of_lt` — an id issued by now means now what it means later.
-/

namespace SyntaxInspector

namespace Document

/-! ### Lives of documents -/

/-- A new text, with the engine that parses it and the number its first tree gets. -/
structure Edit where
  engine : Engine
  nextTree : Nat
  text : String

/-- The tree is what the engine of an edit makes of a part of its text in a language. -/
def Edit.Parses (x : Edit) (language : Language) (t : SyntaxTree) : Prop :=
  ∃ next spans, (x.engine.parse next language x.text spans).1 = .ok t

/-- The document with a new text, or as it was if the text cannot be parsed. -/
def edit (d : Document) (x : Edit) : Document :=
  match (d.setText x.engine x.nextTree x.text).1 with
  | .ok d' => d'
  | .error _ => d

/-- The document after new texts, one after the other. -/
def edits (d : Document) (xs : List Edit) : Document := xs.foldl edit d

@[simp] theorem edits_nil (d : Document) : d.edits [] = d := rfl

@[simp] theorem edits_cons (d : Document) (x : Edit) (xs : List Edit) :
    d.edits (x :: xs) = (d.edit x).edits xs := rfl

theorem edits_append (d : Document) (xs ys : List Edit) :
    d.edits (xs ++ ys) = (d.edits xs).edits ys := List.foldl_append

/-- A document without a text yet. -/
def unparsed (language : Language) (points : List InjectionPoint) : Document :=
  { language, points }

/-- The injections of a document. -/
def found (d : Document) : List Injection :=
  match d.tree with
  | none => []
  | some t => findInjections d.points d.text t.root

/-! ### Building layers -/

/-- Ids by key: keys and ids are distinct, and ids are positive and below the next one. -/
structure Ledger (pairs : List (InjectionKey × LayerId)) (nextId : Nat) : Prop where
  keys : (pairs.map Prod.fst).Nodup
  ids : (pairs.map Prod.snd).Nodup
  pos : 0 < nextId
  bounds : ∀ pair ∈ pairs, 0 < pair.2.number ∧ pair.2.number < nextId

/-- A layer is that of an injection, and its tree, if any, was made from a text of its language. -/
structure Fills (made : Language → SyntaxTree → Prop) (i : Injection) (l : Layer) : Prop where
  language : l.language = i.language
  ranges : l.ranges = [i.node.range]
  tree : ∀ t, l.tree = some t → made i.language t

namespace Ledger

variable {pairs : List (InjectionKey × LayerId)} {nextId : Nat} {key key' : InjectionKey}
  {id : LayerId}

theorem key_eq (h : Ledger pairs nextId) (hmem : (key, id) ∈ pairs) (hmem' : (key', id) ∈ pairs) :
    key = key' :=
  congrArg Prod.fst (List.inj_on_of_nodup_map h.ids hmem hmem' rfl)

theorem lookup_eq (h : Ledger pairs nextId) (hmem : (key, id) ∈ pairs) :
    pairs.lookup key = some id := by
  obtain ⟨before, after, rfl⟩ := List.append_of_mem hmem
  refine List.lookup_eq_some_iff.2 ⟨before, after, rfl, ?_⟩
  intro pair hpair
  rw [bne_iff_ne]
  rintro rfl
  have hkeys := h.keys
  rw [List.map_append, List.nodup_append] at hkeys
  exact hkeys.2.2 _ (List.mem_map_of_mem hpair) _ List.mem_cons_self rfl

/-- One more key gets an id that no key has. -/
theorem concat (h : Ledger pairs nextId) (hkey : key ∉ pairs.map Prod.fst)
    (hid : id ∉ pairs.map Prod.snd) {nextId' : Nat} (hle : nextId ≤ nextId') (hpos : 0 < id.number)
    (hlt : id.number < nextId') : Ledger (pairs ++ [(key, id)]) nextId' where
  keys := by
    rw [List.map_append, List.map_singleton, ← List.concat_eq_append]
    exact h.keys.concat hkey
  ids := by
    rw [List.map_append, List.map_singleton, ← List.concat_eq_append]
    exact h.ids.concat hid
  pos := Nat.lt_of_lt_of_le h.pos hle
  bounds := by
    intro pair hmem
    rcases List.mem_append.1 hmem with hold | hnew
    · exact ⟨(h.bounds pair hold).1, Nat.lt_of_lt_of_le (h.bounds pair hold).2 hle⟩
    · rw [List.mem_singleton.1 hnew]
      exact ⟨hpos, hlt⟩

end Ledger

/-- A pair of a ledger stems from the ledger `known`, or its key was not known and its id was not
issued before `start`. -/
def Stems (known : List (InjectionKey × LayerId)) (start : Nat) (pair : InjectionKey × LayerId) :
    Prop :=
  pair ∈ known ∨ pair.1 ∉ known.map Prod.fst ∧ start ≤ pair.2.number

/-- Layers under construction, for the injections so far. -/
structure Building.Sound (made : Language → SyntaxTree → Prop)
    (known : List (InjectionKey × LayerId)) (start : Nat) (found : List Injection) (b : Building) :
    Prop where
  ids : b.ids = (found.zip b.layers).map fun (i, l) => (i.key, l.id)
  fills : List.Forall₂ (Fills made) found b.layers
  ledger : Ledger b.ids b.nextId
  le : start ≤ b.nextId
  stems : ∀ pair ∈ b.ids, Stems known start pair

section Building

variable {e : Engine} {text : String} {known : List (InjectionKey × LayerId)} {start : Nat}
  {made : Language → SyntaxTree → Prop} {found : List Injection} {b : Building} {i : Injection}

/-- A layer is added with the id known for its key, or with the next id. -/
theorem addLayer_cases (hmade : ∀ language t next spans,
      (e.parse next language text spans).1 = .ok t → made language t)
    (known : List (InjectionKey × LayerId)) (b : Building) (i : Injection) :
    ∃ l nextId nextTree, Fills made i l ∧
      addLayer e text known b i = ⟨b.layers ++ [l], b.ids ++ [(i.key, l.id)], nextId, nextTree⟩ ∧
      (known.lookup i.key = some l.id ∧ nextId = b.nextId ∨
        known.lookup i.key = none ∧ l.id = ⟨b.nextId⟩ ∧ nextId = b.nextId + 1) := by
  have hfills : ∀ id, Fills made i
      (.injected id i.language (e.parse b.nextTree i.language text
        [(i.node.startByte, i.node.endByte)]).1.toOption [i.node.range]) := by
    intro id
    refine ⟨rfl, rfl, ?_⟩
    intro t ht
    refine hmade _ _ b.nextTree [(i.node.startByte, i.node.endByte)] ?_
    cases hparse : (e.parse b.nextTree i.language text [(i.node.startByte, i.node.endByte)]).1 with
    | error err => simp [Layer.injected, hparse, Except.toOption] at ht
    | ok t' => simpa [Layer.injected, hparse, Except.toOption] using ht
  cases hlookup : known.lookup i.key with
  | some id =>
    refine ⟨_, b.nextId, (e.parse b.nextTree i.language text
      [(i.node.startByte, i.node.endByte)]).2, hfills id, ?_, .inl ⟨rfl, rfl⟩⟩
    simp only [addLayer, hlookup]
    rfl
  | none =>
    refine ⟨_, b.nextId + 1, (e.parse b.nextTree i.language text
      [(i.node.startByte, i.node.endByte)]).2, hfills ⟨b.nextId⟩, ?_, .inr ⟨rfl, rfl, rfl⟩⟩
    simp only [addLayer, hlookup]
    rfl

theorem Building.sound_nil (h : Ledger known start) (nextTree : Nat) :
    Building.Sound made known start [] { nextId := start, nextTree } where
  ids := rfl
  fills := .nil
  ledger := ⟨List.nodup_nil, List.nodup_nil, h.pos, by simp⟩
  le := Nat.le_refl _
  stems := by simp

/-- An id that is handed on from the ledger before is not in use yet, since its key is not. -/
theorem Building.Sound.not_mem_of_known (h : Building.Sound made known start found b)
    (hknown : Ledger known start) {key : InjectionKey} {id : LayerId}
    (hkey : key ∉ b.ids.map Prod.fst) (hmem : (key, id) ∈ known) : id ∉ b.ids.map Prod.snd := by
  intro hused
  obtain ⟨⟨key', id'⟩, hpair, rfl⟩ := List.mem_map.1 hused
  rcases h.stems _ hpair with hold | ⟨-, hle⟩
  · refine hkey ?_
    rw [hknown.key_eq hmem hold]
    exact List.mem_map_of_mem hpair
  · exact absurd (hknown.bounds _ hmem).2 (Nat.not_lt.2 hle)

theorem Building.Sound.addLayer (h : Building.Sound made known start found b)
    (hmade : ∀ language t next spans,
      (e.parse next language text spans).1 = .ok t → made language t)
    (hknown : Ledger known start) (hkey : i.key ∉ found.map Injection.key) :
    Building.Sound made known start (found ++ [i]) (addLayer e text known b i) := by
  obtain ⟨l, nextId, nextTree, hfills, heq, hcases⟩ := addLayer_cases hmade known b i
  have hlength : found.length = b.layers.length := h.fills.length_eq
  have hkeys : b.ids.map Prod.fst = found.map Injection.key := by
    rw [h.ids, List.map_map, ← List.map_fst_zip (Nat.le_of_eq hlength), List.map_map,
      List.map_fst_zip (Nat.le_of_eq hlength)]
    rfl
  rw [← hkeys] at hkey
  have hids : b.ids ++ [(i.key, l.id)] =
      ((found ++ [i]).zip (b.layers ++ [l])).map fun (i, l) => (i.key, l.id) := by
    rw [List.zip_append hlength, List.map_append, ← h.ids]
    rfl
  have hall : List.Forall₂ (Fills made) (found ++ [i]) (b.layers ++ [l]) :=
    List.rel_append h.fills (.cons hfills .nil)
  rw [heq]
  rcases hcases with ⟨hlookup, rfl⟩ | ⟨hlookup, hfresh, rfl⟩
  · have hmem : (i.key, l.id) ∈ known := by
      obtain ⟨before, after, rfl, -⟩ := List.lookup_eq_some_iff.1 hlookup
      exact List.mem_append_right _ List.mem_cons_self
    obtain ⟨hpos, hlt⟩ := hknown.bounds _ hmem
    refine ⟨hids, hall, h.ledger.concat hkey (h.not_mem_of_known hknown hkey hmem) (Nat.le_refl _)
      hpos (Nat.lt_of_lt_of_le hlt h.le), h.le, ?_⟩
    intro pair hpair
    rcases List.mem_append.1 hpair with hold | hnew
    · exact h.stems pair hold
    · rw [List.mem_singleton.1 hnew]
      exact .inl hmem
  · have hunused : l.id ∉ b.ids.map Prod.snd := by
      intro hused
      obtain ⟨pair, hpair, hid⟩ := List.mem_map.1 hused
      have hlt := (h.ledger.bounds pair hpair).2
      rw [hid, hfresh] at hlt
      exact Nat.lt_irrefl _ hlt
    refine ⟨hids, hall, h.ledger.concat hkey hunused (Nat.le_succ _) ?_ ?_,
      Nat.le_succ_of_le h.le, ?_⟩
    · rw [hfresh]
      exact h.ledger.pos
    · rw [hfresh]
      exact Nat.lt_succ_self _
    · intro pair hpair
      rcases List.mem_append.1 hpair with hold | hnew
      · exact h.stems pair hold
      · rw [List.mem_singleton.1 hnew]
        refine .inr ⟨?_, by rw [hfresh]; exact h.le⟩
        intro hused
        obtain ⟨⟨key, id⟩, hpair, hsame⟩ := List.mem_map.1 hused
        dsimp only at hsame
        rw [← hsame, hknown.lookup_eq hpair] at hlookup
        cases hlookup

/-- Layers are built soundly for any injections with distinct keys. -/
theorem Building.sound_buildLayers (hmade : ∀ language t next spans,
      (e.parse next language text spans).1 = .ok t → made language t)
    (hknown : Ledger known start) (nextTree : Nat) (found : List Injection)
    (hkeys : (found.map Injection.key).Nodup) :
    Building.Sound made known start found (buildLayers e text known start nextTree found) := by
  induction found using List.reverseRecOn with
  | nil => exact sound_nil hknown nextTree
  | append_singleton found i ih =>
    rw [List.map_append, List.map_singleton, ← List.concat_eq_append,
      List.nodup_concat] at hkeys
    rw [buildLayers, List.foldl_append]
    exact (ih hkeys.2).addLayer hmade hknown hkeys.1

end Building

/-! ### New texts -/

/-- What every new text keeps: each injection has its layer, its key is in the ledger with the
layer's id, and all trees were made from texts of their languages. -/
structure Sound (made : Language → SyntaxTree → Prop) (d : Document) : Prop where
  ids : d.ids = (d.found.zip d.injections).map fun (i, l) => (i.key, l.id)
  fills : List.Forall₂ (Fills made) d.found d.injections
  ledger : Ledger d.ids d.nextId
  tree : ∀ t, d.tree = some t → made d.language t

section Edits

variable {made : Language → SyntaxTree → Prop} {d : Document} {x : Edit} {xs : List Edit}

theorem sound_unparsed (language : Language) (points : List InjectionPoint) :
    (unparsed language points).Sound made where
  ids := rfl
  fills := .nil
  ledger := ⟨List.nodup_nil, List.nodup_nil, Nat.one_pos, by simp [unparsed]⟩
  tree := by
    rintro t ⟨⟩

/-- A new text is refused, or parsed with all its injections. -/
theorem edit_cases (d : Document) (x : Edit) :
    d.edit x = d ∨ ∃ t next,
      (x.engine.parse x.nextTree d.language x.text []).1 = .ok t ∧
      d.edit x =
        let b := buildLayers x.engine x.text d.ids d.nextId next
          (findInjections d.points x.text t.root)
        { d with
          text := x.text, tree := some t, injections := b.layers, ids := b.ids,
          nextId := b.nextId } := by
  unfold edit setText
  cases hparse : x.engine.parse x.nextTree d.language x.text [] with
  | mk result next =>
    cases result with
    | error err => exact .inl rfl
    | ok t => exact .inr ⟨t, next, rfl, rfl⟩

/-- A text that can be parsed is the text from then on. -/
theorem edit_of_parse {t : SyntaxTree}
    (h : (x.engine.parse x.nextTree d.language x.text []).1 = .ok t) :
    (d.edit x).text = x.text ∧ (d.edit x).tree = some t := by
  unfold edit setText
  cases hparse : x.engine.parse x.nextTree d.language x.text [] with
  | mk result next =>
    rw [hparse] at h
    obtain rfl : result = .ok t := h
    exact ⟨rfl, rfl⟩

theorem language_edit (d : Document) (x : Edit) :
    (d.edit x).language = d.language ∧ (d.edit x).points = d.points := by
  rcases edit_cases d x with heq | ⟨t, next, -, heq⟩ <;> rw [heq]
  · exact ⟨rfl, rfl⟩
  · exact ⟨rfl, rfl⟩

theorem language_edits (d : Document) (xs : List Edit) :
    (d.edits xs).language = d.language ∧ (d.edits xs).points = d.points := by
  induction xs generalizing d with
  | nil => exact ⟨rfl, rfl⟩
  | cons x xs ih =>
    obtain ⟨hlanguage, hpoints⟩ := language_edit d x
    rw [edits_cons, (ih _).1, (ih _).2]
    exact ⟨hlanguage, hpoints⟩

/-- A new text keeps a document sound, and ids are handed on or fresh. -/
theorem Sound.edit_stems (h : d.Sound made) (hmade : ∀ language t, x.Parses language t →
      made language t) :
    (d.edit x).Sound made ∧ d.nextId ≤ (d.edit x).nextId ∧
      ∀ pair ∈ (d.edit x).ids, Stems d.ids d.nextId pair := by
  rcases edit_cases d x with heq | ⟨t, next, hparse, heq⟩
  · rw [heq]
    exact ⟨h, Nat.le_refl _, fun pair hpair => .inl hpair⟩
  · have hparses : ∀ language t next spans,
        (x.engine.parse next language x.text spans).1 = .ok t → made language t :=
      fun language t next spans hok => hmade language t ⟨next, spans, hok⟩
    have hbuilt := Building.sound_buildLayers hparses h.ledger next
      (findInjections d.points x.text t.root) (nodup_key_findInjections _ _ _)
    rw [heq]
    refine ⟨⟨hbuilt.ids, hbuilt.fills, hbuilt.ledger, ?_⟩, hbuilt.le, hbuilt.stems⟩
    rintro t' ⟨rfl⟩
    exact hmade _ _ ⟨_, _, hparse⟩

theorem Sound.edit (h : d.Sound made)
    (hmade : ∀ language t, x.Parses language t → made language t) : (d.edit x).Sound made :=
  (h.edit_stems hmade).1

theorem Sound.edits (h : d.Sound made)
    (hmade : ∀ x ∈ xs, ∀ language t, x.Parses language t → made language t) :
    (d.edits xs).Sound made := by
  induction xs generalizing d with
  | nil => exact h
  | cons x xs ih =>
    exact ih (h.edit (hmade x List.mem_cons_self)) fun y hy => hmade y (List.mem_cons_of_mem _ hy)

/-- An id issued by now that is in use later is in use now, for the same key. -/
theorem Sound.mem_ids_of_lt (h : d.Sound made)
    (hmade : ∀ x ∈ xs, ∀ language t, x.Parses language t → made language t)
    {pair : InjectionKey × LayerId} (hmem : pair ∈ (d.edits xs).ids)
    (hlt : pair.2.number < d.nextId) : pair ∈ d.ids := by
  induction xs generalizing d with
  | nil => exact hmem
  | cons x xs ih =>
    obtain ⟨hsound, hle, hstems⟩ := h.edit_stems (hmade x List.mem_cons_self)
    have hnext := ih hsound (fun y hy => hmade y (List.mem_cons_of_mem _ hy)) hmem
      (Nat.lt_of_lt_of_le hlt hle)
    rcases hstems pair hnext with hold | ⟨-, hfresh⟩
    · exact hold
    · exact absurd hlt (Nat.not_lt.2 hfresh)

end Edits

end Document

end SyntaxInspector
