import SyntaxInspector.Proofs.Layer.Lives

/-!
# Layer ids over the life of a document

An injected layer has no memory of the match it stands for, and the layers of all injection points
lie in one list. Sorted by point again, the layers of a document have ids that mean the same point,
the same match of it and the same grammar for the whole life of the document.

* `Document.matchesOf`, `Document.layersOf` — the matches of a point, and their layers;
* `Document.Sound.exists_key_of_layersOf` — the key of a layer of a point's match;
* `Document.layer_ids_over_a_life` — ids in any two states of one document.
-/

namespace SyntaxInspector

namespace Document

/-! ### Matches and their layers -/

/-- The ids of the injected layers. -/
def layerIds (d : Document) : List LayerId := d.injections.map Layer.id

/-- The nodes that an injection point accepts, in document order. -/
def matchesOf (d : Document) (point : Nat) : List NodeData :=
  match d.points[point]?, d.tree with
  | some p, some t => p.matchesIn d.text t.root
  | _, _ => []

/-- Which point accepts which node, by pre-order of the nodes and then by point. -/
def sites (d : Document) : List (Nat × NodeData) :=
  match d.tree with
  | none => []
  | some t => injectionSites d.points d.text t.root

/-- The layers of the matches of an injection point, in document order. -/
def layersOf (d : Document) (point : Nat) : List Layer :=
  ((d.sites.zip d.injections).filter (·.1.1 == point)).map Prod.snd

/-- The injections of a point with their layers. -/
def placed (d : Document) (point : Nat) : List (Injection × Layer) :=
  (d.found.zip d.injections).filter (·.1.key.point == point)

theorem map_site_found (d : Document) : d.found.map Injection.site = d.sites := by
  unfold found sites
  cases d.tree with
  | none => rfl
  | some t => exact map_site_findInjections d.points d.text t.root

theorem layersOf_eq (d : Document) (point : Nat) :
    d.layersOf point = (d.placed point).map Prod.snd := by
  rw [layersOf, placed, ← map_site_found, List.zip_map_left, List.filter_map, List.map_map]
  rfl

theorem filter_found {d : Document} {point : Nat} {p : InjectionPoint}
    (hp : d.points[point]? = some p) :
    d.found.filter (·.key.point == point) = p.numbered point 0 (d.matchesOf point) := by
  unfold found matchesOf
  rw [hp]
  cases d.tree with
  | none => rfl
  | some t => exact filter_findInjections hp t.root

theorem exists_point_of_mem_found {d : Document} {i : Injection} (hmem : i ∈ d.found) :
    ∃ p, d.points[i.key.point]? = some p := by
  unfold found at hmem
  cases htree : d.tree with
  | none =>
    rw [htree] at hmem
    cases hmem
  | some t =>
    rw [htree] at hmem
    exact exists_point_of_mem_findInjections hmem

variable {made : Language → SyntaxTree → Prop} {d d' : Document} {x : Edit} {xs : List Edit}
  {point ordinal : Nat} {l : Layer}

theorem map_node_filter_found (d : Document) (point : Nat) :
    (d.found.filter (·.key.point == point)).map Injection.node = d.matchesOf point := by
  cases hp : d.points[point]? with
  | some p =>
    rw [filter_found hp, InjectionPoint.numbered, List.map_map]
    exact List.zipIdx_map_fst 0 (d.matchesOf point)
  | none =>
    have hnone : d.found.filter (·.key.point == point) = [] := by
      rw [List.filter_eq_nil_iff]
      intro i hmem hsame
      obtain ⟨p, hpoint⟩ := exists_point_of_mem_found hmem
      rw [eq_of_beq hsame, hp] at hpoint
      cases hpoint
    rw [hnone, matchesOf, hp]
    rfl

theorem Sound.map_fst_placed (h : d.Sound made) (point : Nat) :
    (d.placed point).map Prod.fst = d.found.filter (·.key.point == point) := by
  have hfst := List.map_fst_zip (Nat.le_of_eq h.fills.length_eq)
  conv_rhs => rw [← hfst, List.filter_map]
  rfl

theorem Sound.fills_of_mem_placed (h : d.Sound made) {pair : Injection × Layer}
    (hmem : pair ∈ d.placed point) :
    Fills made pair.1 pair.2 ∧ (pair.1.key, pair.2.id) ∈ d.ids := by
  have hzip := (List.mem_filter.1 hmem).1
  refine ⟨(List.forall₂_iff_zip.1 h.fills).2 hzip, ?_⟩
  rw [h.ids]
  exact List.mem_map_of_mem hzip

/-- The matches of a point have one layer each, which lies in the node that matches. -/
theorem Sound.map_ranges_layersOf (h : d.Sound made) (point : Nat) :
    (d.layersOf point).map Layer.ranges = (d.matchesOf point).map fun n => [n.range] := by
  calc (d.layersOf point).map Layer.ranges
      = (d.placed point).map fun pair => pair.2.ranges := by
        rw [layersOf_eq, List.map_map]
        rfl
    _ = (d.placed point).map fun pair => [pair.1.node.range] :=
        List.map_congr_left fun pair hpair => (h.fills_of_mem_placed hpair).1.ranges
    _ = ((d.placed point).map Prod.fst).map fun i => [i.node.range] := by
        rw [List.map_map]
        rfl
    _ = (d.matchesOf point).map fun n => [n.range] := by
        rw [h.map_fst_placed, ← map_node_filter_found, List.map_map]
        rfl

theorem Sound.length_layersOf (h : d.Sound made) (point : Nat) :
    (d.layersOf point).length = (d.matchesOf point).length := by
  simpa using congrArg List.length (h.map_ranges_layersOf point)

/-- The injections of a point are numbered in document order. -/
theorem Sound.getElem?_placed (h : d.Sound made) {pair : Injection × Layer}
    (hget : (d.placed point)[ordinal]? = some pair) :
    ∃ p, d.points[point]? = some p ∧ pair.1.key = ⟨point, ordinal, p.language.name⟩ ∧
      pair.1.language = p.language := by
  have hfst : (d.found.filter (·.key.point == point))[ordinal]? = some pair.1 := by
    rw [← h.map_fst_placed, List.getElem?_map, hget]
    rfl
  obtain ⟨hmem, hsame⟩ := List.mem_filter.1 (List.mem_of_getElem? hfst)
  obtain ⟨p, hp⟩ := exists_point_of_mem_found hmem
  rw [eq_of_beq hsame] at hp
  refine ⟨p, hp, ?_⟩
  rw [filter_found hp, InjectionPoint.numbered, List.getElem?_map, List.getElem?_zipIdx,
    Option.map_map] at hfst
  obtain ⟨n, -, heq⟩ := Option.map_eq_some_iff.1 hfst
  rw [← heq]
  simp

/-- A layer of a point's match has the point's language, and its key is in the ledger. -/
theorem Sound.exists_key_of_layersOf (h : d.Sound made)
    (hget : (d.layersOf point)[ordinal]? = some l) :
    ∃ p, d.points[point]? = some p ∧ l.language = p.language ∧
      (⟨point, ordinal, p.language.name⟩, l.id) ∈ d.ids := by
  rw [layersOf_eq, List.getElem?_map] at hget
  obtain ⟨⟨i, l'⟩, hpair, rfl⟩ := Option.map_eq_some_iff.1 hget
  obtain ⟨p, hp, hkey, hlanguage⟩ := h.getElem?_placed hpair
  obtain ⟨hfills, hids⟩ := h.fills_of_mem_placed (List.mem_of_getElem? hpair)
  exact ⟨p, hp, hfills.language.trans hlanguage, hkey ▸ hids⟩

/-- A key of the ledger is that of a layer of a point's match. -/
theorem Sound.exists_layersOf_of_mem_ids (h : d.Sound made) {key : InjectionKey} {id : LayerId}
    (hmem : (key, id) ∈ d.ids) :
    ∃ l, (d.layersOf key.point)[key.ordinal]? = some l ∧ l.id = id := by
  rw [h.ids] at hmem
  obtain ⟨⟨i, l⟩, hzip, heq⟩ := List.mem_map.1 hmem
  obtain ⟨rfl, rfl⟩ := Prod.mk.inj heq
  have hplaced : (i, l) ∈ d.placed i.key.point := List.mem_filter.2 ⟨hzip, by simp⟩
  obtain ⟨n, hget⟩ := List.mem_iff_getElem?.1 hplaced
  obtain ⟨p, -, hkey, -⟩ := h.getElem?_placed hget
  refine ⟨l, ?_, rfl⟩
  rw [layersOf_eq, List.getElem?_map, congrArg InjectionKey.ordinal hkey, hget]
  rfl

/-- Every injected layer is that of some point's match. -/
theorem Sound.exists_layersOf_of_mem (h : d.Sound made) (hmem : l ∈ d.injections) :
    ∃ point, l ∈ d.layersOf point := by
  rw [← List.map_snd_zip (Nat.le_of_eq h.fills.length_eq.symm)] at hmem
  obtain ⟨⟨i, l⟩, hzip, rfl⟩ := List.mem_map.1 hmem
  refine ⟨i.key.point, ?_⟩
  rw [layersOf_eq]
  exact List.mem_map.2 ⟨(i, l), List.mem_filter.2 ⟨hzip, by simp⟩, rfl⟩

/-- The tree of an injected layer was made from a text of the layer's language. -/
theorem Sound.parsed_of_mem_injections (h : d.Sound made) (hmem : l ∈ d.injections)
    {t : SyntaxTree} (ht : l.tree = some t) : made l.language t := by
  rw [← List.map_snd_zip (Nat.le_of_eq h.fills.length_eq.symm)] at hmem
  obtain ⟨⟨i, l⟩, hzip, rfl⟩ := List.mem_map.1 hmem
  have hfills := (List.forall₂_iff_zip.1 h.fills).2 hzip
  exact hfills.language ▸ hfills.tree t ht

theorem Sound.layerIds_eq (h : d.Sound made) : d.layerIds = d.ids.map Prod.snd := by
  rw [layerIds, h.ids, List.map_map, ← List.map_snd_zip (Nat.le_of_eq h.fills.length_eq.symm),
    List.map_map, List.map_snd_zip (Nat.le_of_eq h.fills.length_eq.symm)]
  rfl

theorem Sound.bounds_of_mem_layerIds (h : d.Sound made) {id : LayerId} (hmem : id ∈ d.layerIds) :
    0 < id.number ∧ id.number < d.nextId := by
  rw [h.layerIds_eq] at hmem
  obtain ⟨pair, hpair, rfl⟩ := List.mem_map.1 hmem
  exact h.ledger.bounds pair hpair

/-! ### Two states of one document -/

/-- An id has one key, whenever it is in use. -/
theorem Sound.key_eq_of_edits (h : d.Sound made)
    (hmade : ∀ x ∈ xs, ∀ language t, x.Parses language t → made language t)
    {key key' : InjectionKey} {id : LayerId} (hmem : (key, id) ∈ d.ids)
    (hmem' : (key', id) ∈ (d.edits xs).ids) : key = key' :=
  h.ledger.key_eq hmem (h.mem_ids_of_lt hmade hmem' (h.ledger.bounds _ hmem).2)

/-- An id is that of one match of one point, in one grammar, whenever it is in use. -/
theorem Sound.same_match_of_edits (h : d.Sound made)
    (hmade : ∀ x ∈ xs, ∀ language t, x.Parses language t → made language t)
    {point' ordinal' : Nat} {l' : Layer} (hget : (d.layersOf point)[ordinal]? = some l)
    (hget' : ((d.edits xs).layersOf point')[ordinal']? = some l') (hid : l.id = l'.id) :
    point = point' ∧ ordinal = ordinal' ∧ l.grammar = l'.grammar := by
  obtain ⟨p, -, hlanguage, hmem⟩ := h.exists_key_of_layersOf hget
  obtain ⟨p', -, hlanguage', hmem'⟩ := (h.edits hmade).exists_key_of_layersOf hget'
  have hkey := h.key_eq_of_edits hmade hmem (hid ▸ hmem')
  obtain ⟨rfl, rfl, hgrammar⟩ := InjectionKey.mk.inj hkey
  refine ⟨rfl, rfl, ?_⟩
  rw [Layer.grammar, Layer.grammar, hlanguage, hlanguage', hgrammar]

/-- An id that is lost is not used again. -/
theorem Sound.not_mem_layerIds_of_lost (h : d.Sound made)
    (hmade : ∀ x ∈ xs, ∀ language t, x.Parses language t → made language t) {id : LayerId}
    (hlt : id.number < d.nextId) (hlost : id ∉ d.layerIds) : id ∉ (d.edits xs).layerIds := by
  intro hmem
  rw [(h.edits hmade).layerIds_eq] at hmem
  rw [h.layerIds_eq] at hlost
  obtain ⟨pair, hpair, rfl⟩ := List.mem_map.1 hmem
  exact hlost (List.mem_map_of_mem (h.mem_ids_of_lt hmade hpair hlt))

/-- The layers of a match and of the same match after a new text have the same id. -/
theorem Sound.id_eq_of_edit (h : d.Sound made)
    (hmade : ∀ language t, x.Parses language t → made language t) {l' : Layer}
    (hget : (d.layersOf point)[ordinal]? = some l)
    (hget' : ((d.edit x).layersOf point)[ordinal]? = some l') : l'.id = l.id := by
  obtain ⟨p, hp, -, hmem⟩ := h.exists_key_of_layersOf hget
  obtain ⟨p', hp', -, hmem'⟩ := (h.edit hmade).exists_key_of_layersOf hget'
  rw [(language_edit d x).2, hp] at hp'
  obtain rfl := Option.some.inj hp'
  rcases (h.edit_stems hmade).2.2 _ hmem' with hold | ⟨hnew, -⟩
  · have hlookup := h.ledger.lookup_eq hold
    rw [h.ledger.lookup_eq hmem] at hlookup
    exact (Option.some.inj hlookup).symm
  · exact absurd (List.mem_map_of_mem hmem) hnew

/-- A match that was not there before a new text has a fresh id. -/
theorem Sound.nextId_le_of_edit (h : d.Sound made)
    (hmade : ∀ language t, x.Parses language t → made language t) {l' : Layer}
    (hnone : (d.layersOf point)[ordinal]? = none)
    (hget' : ((d.edit x).layersOf point)[ordinal]? = some l') : d.nextId ≤ l'.id.number := by
  obtain ⟨p', hp', -, hmem'⟩ := (h.edit hmade).exists_key_of_layersOf hget'
  rcases (h.edit_stems hmade).2.2 _ hmem' with hold | ⟨-, hle⟩
  · obtain ⟨l, hget, -⟩ := h.exists_layersOf_of_mem_ids hold
    rw [hnone] at hget
    cases hget
  · exact hle

theorem Sound.nextId_le_edits (h : d.Sound made)
    (hmade : ∀ x ∈ xs, ∀ language t, x.Parses language t → made language t) :
    d.nextId ≤ (d.edits xs).nextId := by
  induction xs generalizing d with
  | nil => exact Nat.le_refl _
  | cons x xs ih =>
    obtain ⟨hsound, hle, -⟩ := h.edit_stems (hmade x List.mem_cons_self)
    exact Nat.le_trans hle (ih hsound fun y hy => hmade y (List.mem_cons_of_mem _ hy))

/-- An id that is fresh now was not in use before. -/
theorem Sound.not_mem_layerIds_of_fresh (h : d.Sound made)
    (hmade : ∀ x ∈ xs, ∀ language t, x.Parses language t → made language t) {id : LayerId}
    (hfresh : (d.edits xs).nextId ≤ id.number) : id ∉ d.layerIds := by
  intro hmem
  have hlt := (h.bounds_of_mem_layerIds hmem).2
  have hle := h.nextId_le_edits hmade
  omega

/-- The ids of a point's layers are kept as far as there are matches before and after. -/
theorem Sound.take_ids_edit (h : d.Sound made)
    (hmade : ∀ language t, x.Parses language t → made language t) (point : Nat) {k : Nat}
    (hle : k ≤ (d.layersOf point).length) (hle' : k ≤ ((d.edit x).layersOf point).length) :
    (((d.edit x).layersOf point).map Layer.id).take k =
      ((d.layersOf point).map Layer.id).take k := by
  apply List.ext_getElem?
  intro j
  by_cases hj : j < k
  · have hget := List.getElem?_eq_getElem (Nat.lt_of_lt_of_le hj hle)
    have hget' := List.getElem?_eq_getElem (Nat.lt_of_lt_of_le hj hle')
    rw [List.getElem?_take_of_lt hj, List.getElem?_take_of_lt hj, List.getElem?_map,
      List.getElem?_map, hget, hget', Option.map_some, Option.map_some,
      h.id_eq_of_edit hmade hget hget']
  · rw [List.getElem?_take_eq_none (Nat.le_of_not_lt hj),
      List.getElem?_take_eq_none (Nat.le_of_not_lt hj)]

/-- The ids of the matches that come on top are fresh. -/
theorem Sound.nextId_le_of_mem_drop (h : d.Sound made)
    (hmade : ∀ language t, x.Parses language t → made language t) {id : LayerId}
    (hmem : id ∈ (((d.edit x).layersOf point).map Layer.id).drop (d.layersOf point).length) :
    d.nextId ≤ id.number := by
  obtain ⟨j, hget⟩ := List.mem_iff_getElem?.1 hmem
  rw [List.getElem?_drop, List.getElem?_map] at hget
  obtain ⟨l', hget', rfl⟩ := Option.map_eq_some_iff.1 hget
  exact h.nextId_le_of_edit hmade (List.getElem?_eq_none (Nat.le_add_right _ j)) hget'

/-- **Layer ids mean the same for the whole life of a document.** Take a document with any injection
points, and two states of its life: `d` after the texts `earlier` and `d'` after the texts `later`
that follow, whatever trees they are given and whether they can be parsed or not.

* The ids of the injected layers of `d` are distinct, positive and below the next id.
* Every match of an injection point has one layer, which lies where the match does, and there are no
  other injected layers.
* An id that is in use in `d` and in `d'` means the same point, the same match of it in document
  order, and the same grammar.
* One more text that can be parsed is the text from then on, with its tree. If a point has `k`
  matches in `d` and `k'` after one more text, the first `min k k'` of them keep their ids, and all
  others get ids that were never issued before.
* An id that was issued by the time of `d` but is not in use there is not in use in `d'` either. -/
theorem layer_ids_over_a_life (language : Language) (points : List InjectionPoint)
    (earlier later : List Edit) :
    let d₀ := unparsed language points
    let d := d₀.edits earlier
    let d' := d.edits later
    (d.layerIds.Nodup ∧ ∀ id ∈ d.layerIds, 0 < id.number ∧ id.number < d.nextId) ∧
    ((∀ point, (d.layersOf point).map Layer.ranges =
        (d.matchesOf point).map fun n => [n.range]) ∧
      ∀ l ∈ d.injections, ∃ point, l ∈ d.layersOf point) ∧
    (∀ (point ordinal point' ordinal' : Nat) (l l' : Layer), (d.layersOf point)[ordinal]? = some l →
      (d'.layersOf point')[ordinal']? = some l' → l.id = l'.id →
      point = point' ∧ ordinal = ordinal' ∧ l.grammar = l'.grammar) ∧
    (∀ x t, (x.engine.parse x.nextTree language x.text []).1 = .ok t →
      (d.edit x).text = x.text ∧ (d.edit x).tree = some t) ∧
    (∀ x point,
      let k := (d.matchesOf point).length
      let k' := ((d.edit x).matchesOf point).length
      let ids := (d.layersOf point).map Layer.id
      let ids' := ((d.edit x).layersOf point).map Layer.id
      ids'.take (min k k') = ids.take (min k k') ∧
      ∀ id ∈ ids'.drop k, ∀ past, past <+: earlier → id ∉ (d₀.edits past).layerIds) ∧
    (∀ id, id.number < d.nextId → id ∉ d.layerIds → id ∉ d'.layerIds) := by
  intro d₀ d d'
  -- no account is kept of where trees come from
  have hmade : ∀ xs : List Edit, ∀ x ∈ xs, ∀ language t, x.Parses language t →
      (fun (_ : Language) (_ : SyntaxTree) => True) language t := fun _ _ _ _ _ _ => trivial
  have h₀ : d₀.Sound fun _ _ => True := sound_unparsed language points
  have h : d.Sound fun _ _ => True := h₀.edits (hmade _)
  refine ⟨?_, ⟨h.map_ranges_layersOf, ?_⟩, ?_, ?_, ?_, ?_⟩
  · exact ⟨h.layerIds_eq ▸ h.ledger.ids, fun id hmem => h.bounds_of_mem_layerIds hmem⟩
  · exact fun l hmem => h.exists_layersOf_of_mem hmem
  · intro point ordinal point' ordinal' l l' hget hget' hid
    exact h.same_match_of_edits (hmade _) hget hget' hid
  · intro x t hparse
    have hlanguage : d.language = language := (language_edits d₀ earlier).1
    exact edit_of_parse (hlanguage ▸ hparse)
  · intro x point k k' ids ids'
    have hx : ∀ language t, x.Parses language t → True := fun _ _ _ => trivial
    have hk : (d.layersOf point).length = k := h.length_layersOf point
    have hk' : ((d.edit x).layersOf point).length = k' := (h.edit hx).length_layersOf point
    refine ⟨h.take_ids_edit hx point ?_ ?_, ?_⟩
    · exact hk ▸ Nat.min_le_left k k'
    · exact hk' ▸ Nat.min_le_right k k'
    · rintro id hmem past ⟨since, rfl⟩
      rw [← hk] at hmem
      have hfresh := h.nextId_le_of_mem_drop hx hmem
      have hpast : (d₀.edits past).Sound fun _ _ => True := h₀.edits (hmade _)
      refine hpast.not_mem_layerIds_of_fresh (hmade since) ?_
      rw [← edits_append]
      exact hfresh
  · exact fun id hlt hlost => h.not_mem_layerIds_of_lost (hmade _) hlt hlost

/-- An engine that finds a word of `n` letters in any text. -/
def letterEngine (n : Nat) : Engine where
  nodes _ _ _ _ :=
    .ok ⟨⟨0, ⟨"word", true, false, none, ⟨⟨0, 0⟩, ⟨0, n⟩⟩, 0, n, .plain 0⟩⟩ ::
      (List.range n).map fun i =>
        ⟨1, ⟨"letter", true, false, none, ⟨⟨0, i⟩, ⟨0, i + 1⟩⟩, i, i + 1, .plain 0⟩⟩, []⟩
  compile _ source := .error ⟨.malformed, .zero, source⟩
  captures _ _ _ _ := []

/-- A document of words, in which each letter and the word itself is an injection. -/
def wordDocument : Document :=
  unparsed ⟨"words", ["words"], []⟩
    [⟨"letter", ⟨"letters", ["letters"], []⟩, none⟩, ⟨"word", ⟨"spelling", ["spelling"], []⟩, none⟩]

/-- The word has two letters, then one, then three: the id of the letter that was lost is not used
again. -/
theorem layer_ids_over_a_life_wordDocument :
    let two := wordDocument.edits [⟨letterEngine 2, 0, "ab"⟩]
    let one := two.edits [⟨letterEngine 1, 4, "a"⟩]
    let three := one.edits [⟨letterEngine 3, 7, "abc"⟩]
    two.layerIds = [⟨1⟩, ⟨2⟩, ⟨3⟩] ∧ one.layerIds = [⟨1⟩, ⟨2⟩] ∧
    three.layerIds = [⟨1⟩, ⟨2⟩, ⟨4⟩, ⟨5⟩] ∧ three.layerIds.Nodup ∧
    (three.layersOf 0).map Layer.id = [⟨2⟩, ⟨4⟩, ⟨5⟩] ∧
    ((three.layersOf 0).map Layer.id).take 1 = ((one.layersOf 0).map Layer.id).take 1 ∧
    (∀ later, (⟨3⟩ : LayerId) ∉ (one.edits later).layerIds) := by
  have hlife := layer_ids_over_a_life ⟨"words", ["words"], []⟩
    [⟨"letter", ⟨"letters", ["letters"], []⟩, none⟩,
      ⟨"word", ⟨"spelling", ["spelling"], []⟩, none⟩]
  refine ⟨by decide +kernel, by decide +kernel, by decide +kernel, ?_, by decide +kernel, ?_, ?_⟩
  · exact (hlife [⟨letterEngine 2, 0, "ab"⟩, ⟨letterEngine 1, 4, "a"⟩,
      ⟨letterEngine 3, 7, "abc"⟩] []).1.1
  · exact ((hlife [⟨letterEngine 2, 0, "ab"⟩, ⟨letterEngine 1, 4, "a"⟩] []).2.2.2.2.1
      ⟨letterEngine 3, 7, "abc"⟩ 0).1
  · intro later
    exact (hlife [⟨letterEngine 2, 0, "ab"⟩, ⟨letterEngine 1, 4, "a"⟩] later).2.2.2.2.2 ⟨3⟩
      (by decide +kernel) (by decide +kernel)

end Document

end SyntaxInspector
