import Mathlib.Data.List.Nodup
import SyntaxInspector.Layer.Injection
import SyntaxInspector.Proofs.Tree.Walking

/-!
# The injections of a tree, point by point

Injections are found in one pass over the nodes, in which all points take part. The lemmas here take
the pass apart: what it finds for one point are the nodes that the point accepts, numbered in
document order, whatever the other points find in between.

* `injectionSites` — which point accepts which node, in the order of the pass;
* `map_site_findInjections` — the pass finds just these;
* `filter_findInjections` — the injections of one point;
* `nodup_key_findInjections` — no two injections have the same key.
-/

namespace SyntaxInspector

/-- The point and the node of an injection. -/
def Injection.site (i : Injection) : Nat × NodeData := (i.key.point, i.node)

/-- The injections of a point of which some nodes were accepted, numbered from `start`. -/
def InjectionPoint.numbered (p : InjectionPoint) (point start : Nat) (nodes : List NodeData) :
    List Injection :=
  (nodes.zipIdx start).map fun (d, ordinal) =>
    ⟨⟨point, ordinal, p.language.name⟩, p.language, d⟩

/-- The points that accept a node, by index, with the node. -/
def sitesAt (points : List InjectionPoint) (text : String) (d : NodeData) :
    List (Nat × NodeData) :=
  points.zipIdx.filterMap fun (p, i) => if p.accepts text d then some (i, d) else none

/-- The points that accept the nodes of a tree, by pre-order of the nodes and then by point. -/
def injectionSites (points : List InjectionPoint) (text : String) (root : Node) :
    List (Nat × NodeData) :=
  (root.preorder.map Node.data).flatMap (sitesAt points text)

/-- The nodes of a tree that a point accepts, in document order. -/
def InjectionPoint.matchesIn (p : InjectionPoint) (text : String) (root : Node) : List NodeData :=
  (root.preorder.map Node.data).filter (p.accepts text)

variable {points : List InjectionPoint} {text : String} {point : Nat}

/-! ### One node -/

theorem map_site_injectionsAt (counts : Nat → Nat) (d : NodeData) :
    (injectionsAt points text counts d).map Injection.site = sitesAt points text d := by
  rw [injectionsAt, sitesAt, List.map_filterMap]
  congr 1
  funext ⟨p, i⟩
  dsimp only
  split_ifs <;> rfl

/-- Of numbered items only one has a given number. -/
theorem filter_snd_zipIdx {α : Type} (l : List α) (start n : Nat) :
    (l.zipIdx start).filter (·.2 == start + n) = (l[n]?.map (·, start + n)).toList := by
  induction l generalizing start n with
  | nil => rfl
  | cons a l ih =>
    cases n with
    | zero =>
      have hrest : (l.zipIdx (start + 1)).filter (·.2 == start) = [] := by
        rw [List.filter_eq_nil_iff]
        rintro ⟨b, i⟩ hmem
        have hle := List.le_snd_of_mem_zipIdx hmem
        have hne : i ≠ start := by omega
        simpa using hne
      simp [List.zipIdx_cons, hrest]
    | succ n =>
      have hshift : start + (n + 1) = start + 1 + n := by omega
      have hne : start ≠ start + 1 + n := by omega
      rw [List.zipIdx_cons, hshift, List.filter_cons_of_neg (by simpa using hne), ih,
        List.getElem?_cons_succ]

/-- A point finds at most one injection in a node. -/
theorem filter_injectionsAt (counts : Nat → Nat) (d : NodeData) :
    (injectionsAt points text counts d).filter (·.key.point == point) =
      (points[point]?.map fun p =>
        p.numbered point (counts point) ([d].filter (p.accepts text))).getD [] := by
  -- an injection has the index of its point, so points other than this one can be left out first
  have hfirst : (injectionsAt points text counts d).filter (·.key.point == point) =
      (points.zipIdx.filter (·.2 == point)).filterMap fun (p, i) =>
        if p.accepts text d then some ⟨⟨i, counts i, p.language.name⟩, p.language, d⟩
        else none := by
    rw [injectionsAt, List.filter_filterMap, List.filterMap_filter]
    congr 1
    funext ⟨p, i⟩
    by_cases haccepts : p.accepts text d <;> by_cases hsame : i = point <;>
      simp [haccepts, hsame]
  have hone := filter_snd_zipIdx points 0 point
  rw [Nat.zero_add] at hone
  rw [hfirst, hone]
  cases points[point]? with
  | none => rfl
  | some p =>
    by_cases haccepts : p.accepts text d <;> simp [InjectionPoint.numbered, haccepts]

/-! ### All nodes -/

theorem findInjections_eq_foldl (points : List InjectionPoint) (text : String) (root : Node) :
    findInjections points text root =
      (root.preorder.map Node.data).foldl (addInjections points text) [] :=
  Cursor.foldNodes_ofRoot _ _ root

theorem InjectionPoint.numbered_append (p : InjectionPoint) (start : Nat)
    (nodes nodes' : List NodeData) :
    p.numbered point start (nodes ++ nodes') =
      p.numbered point start nodes ++ p.numbered point (start + nodes.length) nodes' := by
  rw [numbered, List.zipIdx_append, List.map_append, numbered, numbered]

theorem countFor_eq_length_filter (found : List Injection) :
    countFor point found = (found.filter (·.key.point == point)).length :=
  List.countP_eq_length_filter

/-- The pass finds a point and a node for each site, and nothing else. -/
theorem map_site_foldl (nodes : List NodeData) (found : List Injection) :
    (nodes.foldl (addInjections points text) found).map Injection.site =
      found.map Injection.site ++ nodes.flatMap (sitesAt points text) := by
  induction nodes generalizing found with
  | nil => simp
  | cons d nodes ih =>
    rw [List.foldl_cons, ih, addInjections, List.map_append, map_site_injectionsAt,
      List.flatMap_cons, List.append_assoc]

theorem map_site_findInjections (points : List InjectionPoint) (text : String) (root : Node) :
    (findInjections points text root).map Injection.site = injectionSites points text root := by
  rw [findInjections_eq_foldl, map_site_foldl, injectionSites, List.map_nil, List.nil_append]

/-- What a point finds among some nodes is numbered on from what it has found before. -/
theorem filter_foldl {p : InjectionPoint} (hp : points[point]? = some p) (nodes : List NodeData)
    (found : List Injection) :
    (nodes.foldl (addInjections points text) found).filter (·.key.point == point) =
      found.filter (·.key.point == point) ++
        p.numbered point (countFor point found) (nodes.filter (p.accepts text)) := by
  induction nodes generalizing found with
  | nil => simp [InjectionPoint.numbered]
  | cons d nodes ih =>
    have hhere : (injectionsAt points text (fun i => countFor i found) d).filter
        (·.key.point == point) =
        p.numbered point (countFor point found) ([d].filter (p.accepts text)) := by
      rw [filter_injectionsAt, hp]
      rfl
    have hcount : countFor point (addInjections points text found d) =
        countFor point found + ([d].filter (p.accepts text)).length := by
      rw [countFor_eq_length_filter, addInjections, List.filter_append, hhere, List.length_append,
        ← countFor_eq_length_filter, InjectionPoint.numbered, List.length_map, List.length_zipIdx]
    have hsplit : (d :: nodes).filter (p.accepts text) =
        [d].filter (p.accepts text) ++ nodes.filter (p.accepts text) := by
      rw [← List.filter_append, List.singleton_append]
    rw [List.foldl_cons, ih, hcount, hsplit, InjectionPoint.numbered_append, addInjections,
      List.filter_append, hhere, List.append_assoc]

/-- The injections of a point are the nodes it accepts, numbered in document order. -/
theorem filter_findInjections {p : InjectionPoint} (hp : points[point]? = some p) (root : Node) :
    (findInjections points text root).filter (·.key.point == point) =
      p.numbered point 0 (p.matchesIn text root) := by
  rw [findInjections_eq_foldl, filter_foldl hp]
  rfl

/-- Every injection is one of an injection point. -/
theorem exists_point_of_mem_findInjections {root : Node} {i : Injection}
    (hmem : i ∈ findInjections points text root) : ∃ p, points[i.key.point]? = some p := by
  have hsite : i.site ∈ injectionSites points text root := by
    rw [← map_site_findInjections]
    exact List.mem_map_of_mem hmem
  obtain ⟨d, -, hat⟩ := List.mem_flatMap.1 hsite
  obtain ⟨⟨p, index⟩, hindex, haccepts⟩ := List.mem_filterMap.1 hat
  dsimp only at haccepts
  split_ifs at haccepts
  obtain ⟨hpoint, -⟩ := Prod.mk.inj (Option.some.inj haccepts)
  exact ⟨p, hpoint ▸ List.mem_zipIdx_iff_getElem?.1 hindex⟩

/-- What a point numbers has distinct keys. -/
theorem InjectionPoint.nodup_key_numbered (p : InjectionPoint) (point start : Nat)
    (nodes : List NodeData) : ((p.numbered point start nodes).map Injection.key).Nodup := by
  have hordinals : (((p.numbered point start nodes).map Injection.key).map
      InjectionKey.ordinal) = List.range' start nodes.length := by
    rw [numbered, List.map_map, List.map_map, ← List.zipIdx_map_snd start nodes]
    rfl
  exact List.Nodup.of_map InjectionKey.ordinal (hordinals ▸ List.nodup_range')

theorem nodup_key_findInjections (points : List InjectionPoint) (text : String) (root : Node) :
    ((findInjections points text root).map Injection.key).Nodup := by
  rw [List.nodup_iff_count_le_one]
  intro key
  -- a key occurs only among the injections of its own point
  have hcount : ((findInjections points text root).map Injection.key).count key =
      (((findInjections points text root).filter
        (·.key.point == key.point)).map Injection.key).count key := by
    rw [← List.count_filter (p := fun k : InjectionKey => k.point == key.point) (by simp),
      List.filter_map]
    rfl
  rw [hcount]
  cases hp : points[key.point]? with
  | some p =>
    rw [filter_findInjections hp]
    exact List.nodup_iff_count_le_one.1 (p.nodup_key_numbered _ _ _) key
  | none =>
    have hnone : (findInjections points text root).filter (·.key.point == key.point) = [] := by
      rw [List.filter_eq_nil_iff]
      intro i hmem hsame
      obtain ⟨p, hpoint⟩ := exists_point_of_mem_findInjections hmem
      rw [eq_of_beq hsame, hp] at hpoint
      cases hpoint
    rw [hnone]
    exact Nat.zero_le 1

end SyntaxInspector
