import Mathlib.Data.List.Destutter
import Mathlib.Data.List.SplitBy
import SyntaxInspector.Highlight
import SyntaxInspector.Proofs.Scope.History

/-!
# From captures to highlights

The captures of a query run are resolved in order, and of neighbours with the same node only the
first is highlighted. A capture that is passed over for its node keeps the range it got, so the two
ways to lose a capture do not mix: the highlights are the firsts of the runs of equal nodes among
all captures that a resolver without claims gives a range.

* `collapseRepeats_eq_heads` — what is kept of a list: the first item of each run;
* `resolvedCaptures_eq_grants` — the captures with a range are the grants of a resolver;
* `highlights_are_firsts_of_runs` — all query runs.
-/

namespace SyntaxInspector

/-! ### Runs of equal nodes -/

section Runs

variable {α : Type} (nodeOf : α → NodeId)

theorem destutter'_eq_cons_collapseFrom (a : α) (items : List α) :
    items.destutter' (nodeOf · ≠ nodeOf ·) a = a :: collapseFrom nodeOf (some (nodeOf a)) items := by
  induction items generalizing a with
  | nil => rfl
  | cons b items ih =>
    rw [List.destutter'_cons, collapseFrom]
    by_cases h : nodeOf a = nodeOf b
    · rw [if_neg (not_not.2 h), if_pos (congrArg some h), ih]
    · rw [if_pos h, if_neg fun heq => h (Option.some.inj heq), ih]

/-- Items are dropped as long as they do not differ from the last one in their node. -/
theorem collapseRepeats_eq_destutter (items : List α) :
    collapseRepeats nodeOf items = items.destutter (nodeOf · ≠ nodeOf ·) := by
  cases items with
  | nil => rfl
  | cons a items =>
    rw [List.destutter_cons', destutter'_eq_cons_collapseFrom, collapseRepeats, collapseFrom,
      if_neg (Option.some_ne_none _).symm]

theorem isChain_collapseRepeats (items : List α) :
    (collapseRepeats nodeOf items).IsChain (nodeOf · ≠ nodeOf ·) := by
  rw [collapseRepeats_eq_destutter]
  exact List.isChain_destutter _ _

theorem collapseFrom_append_of_same {id : NodeId} {run : List α}
    (hsame : ∀ a ∈ run, nodeOf a = id) (rest : List α) :
    collapseFrom nodeOf (some id) (run ++ rest) = collapseFrom nodeOf (some id) rest := by
  induction run with
  | nil => rfl
  | cons a run ih =>
    obtain ⟨rfl, hrun⟩ := List.forall_mem_cons.1 hsame
    rw [List.cons_append, collapseFrom, if_pos rfl, ih hrun]

/-- Of a list put together from runs of equal nodes, the first item of each run is kept. -/
theorem collapseFrom_flatten {runs : List (List α)} (hnonempty : [] ∉ runs)
    (hsame : ∀ run ∈ runs, run.IsChain fun a b => (nodeOf a == nodeOf b) = true)
    (hapart : runs.IsChain fun run next => ∃ hrun hnext,
      (nodeOf (run.getLast hrun) == nodeOf (next.head hnext)) = false)
    (last : Option NodeId) (hlast : ∀ run ∈ runs.head?, ∀ a ∈ run.head?, last ≠ some (nodeOf a)) :
    collapseFrom nodeOf last runs.flatten = runs.filterMap List.head? := by
  induction runs generalizing last with
  | nil => rfl
  | cons run rest ih =>
    cases run with
    | nil => simp at hnonempty
    | cons a run =>
      obtain ⟨hrun, hruns⟩ := List.forall_mem_cons.1 hsame
      obtain ⟨hnext, hrest⟩ := List.isChain_cons.1 hapart
      have htrans : Trans (fun b c => (nodeOf b == nodeOf c) = true)
          (fun b c => (nodeOf b == nodeOf c) = true) (fun b c => (nodeOf b == nodeOf c) = true) :=
        ⟨fun h h' => by simp_all⟩
      have hnode : ∀ b ∈ run, nodeOf b = nodeOf a := fun b hb =>
        (eq_of_beq (hrun.rel_cons hb)).symm
      have hend : nodeOf ((a :: run).getLast (List.cons_ne_nil a run)) = nodeOf a := by
        rcases List.mem_cons.1 (List.getLast_mem (List.cons_ne_nil a run)) with heq | hmem
        · rw [heq]
        · exact hnode _ hmem
      rw [List.flatten_cons, List.cons_append, collapseFrom, if_neg (hlast _ rfl a rfl),
        collapseFrom_append_of_same nodeOf hnode,
        ih (fun h => hnonempty (List.mem_cons_of_mem _ h)) hruns hrest]
      · rfl
      · -- the next run starts with another node than this one ends with
        intro next hmem b hb
        obtain ⟨_, hne, hdiffer⟩ := hnext next hmem
        rw [hend, (List.head_eq_iff_head?_eq_some hne).2 hb] at hdiffer
        simpa using hdiffer

/-- What is kept of a list is the first item of each of its longest runs of equal nodes. -/
theorem collapseRepeats_eq_heads (items : List α) :
    collapseRepeats nodeOf items =
      (items.splitBy fun a b => nodeOf a == nodeOf b).filterMap List.head? := by
  have hflatten := collapseFrom_flatten nodeOf (List.nil_notMem_splitBy _ items)
    (fun _ hrun => List.isChain_of_mem_splitBy hrun)
    (List.isChain_getLast_head_splitBy (fun a b => nodeOf a == nodeOf b) items) none (by simp)
  rwa [List.flatten_splitBy] at hflatten

end Runs

/-! ### The captures of a run -/

variable {q : CompiledQuery} {t : SyntaxTree} {text : String} {r : Resolver}
  {captures : List Capture}

/-- The captures that get a range are those whose requests are granted. -/
theorem resolvedCaptures_eq_grants (q : CompiledQuery) (t : SyntaxTree) (text : String)
    (r : Resolver) (captures : List Capture) :
    resolvedCaptures q t text r captures =
      (r.grants (captures.map (Request.mk q t text))).map fun g => (g.request.capture, g.range) := by
  induction captures generalizing r with
  | nil => rfl
  | cons c cs ih =>
    have hstep : resolvedCaptures q t text r (c :: cs) =
        ((r.resolve q t text c).2.map (c, ·)).toList ++
          resolvedCaptures q t text (r.resolve q t text c).1 cs := by
      simp only [resolvedCaptures, Resolver.resolveAll, List.zip_cons_cons, List.filterMap_cons]
      cases (r.resolve q t text c).2 <;> rfl
    rw [hstep, ih, List.map_cons, Resolver.grants, List.map_append, Resolver.granted,
      Resolver.answer]
    cases (r.resolve q t text c).2 <;> rfl

theorem mem_of_mem_resolvedCaptures {c : Capture} {range : Range}
    (h : (c, range) ∈ resolvedCaptures q t text r captures) : c ∈ captures := by
  obtain ⟨⟨c', answer⟩, hzip, hpair⟩ := List.mem_filterMap.1 h
  obtain ⟨range', -, heq⟩ := Option.map_eq_some_iff.1 hpair
  obtain ⟨rfl, rfl⟩ := Prod.mk.inj heq
  exact (List.of_mem_zip hzip).1

/-- No capture gets a range twice. -/
theorem nodup_resolvedCaptures_reset (q : CompiledQuery) (t : SyntaxTree) (text : String)
    (r : Resolver) (captures : List Capture) :
    ((resolvedCaptures q t text r.reset captures).map fun (c, range) =>
      (c.nameIndex, range)).Nodup := by
  rw [resolvedCaptures_eq_grants, List.map_map]
  exact r.nodup_grants_reset _

namespace CompiledQuery

theorem captureName_of_lt {i : Nat} (hi : i < q.captureNames.length) :
    q.captureName i = q.captureNames[i] := by
  simp [captureName, hi]

/-- A name declared once gets the category of its index. -/
theorem ofName?_captureName (hnodup : q.captureNames.Nodup) {i : Nat}
    (hi : i < q.captureNames.length) :
    Category.ofName? (q.captureName i) q.captureNames = some (.ofIndex i) := by
  have hindex : q.captureNames.idxOf? q.captureNames[i] = some i := by
    rw [List.idxOf?_eq_some_iff]
    refine ⟨hi, rfl, ?_⟩
    intro j hj heq
    exact Nat.ne_of_lt hj ((List.Nodup.getElem_inj_iff hnodup).1 heq)
  rw [Category.ofName?, captureName_of_lt hi, hindex]
  rfl

/-- Names declared once tell captures apart. -/
theorem captureName_inj (hnodup : q.captureNames.Nodup) {i j : Nat}
    (hi : i < q.captureNames.length) (hj : j < q.captureNames.length)
    (heq : q.captureName i = q.captureName j) : i = j := by
  rw [captureName_of_lt hi, captureName_of_lt hj] at heq
  exact (List.Nodup.getElem_inj_iff hnodup).1 heq

/-- Every highlight of a run stems from a capture. -/
theorem exists_capture_of_mem_resolveHighlights {hl : Highlight}
    (h : hl ∈ (resolveHighlights q t text r captures).1) :
    ∃ c ∈ captures, ∃ range, hl = .ofCapture q c range := by
  obtain ⟨⟨c, range⟩, hmem, rfl⟩ := List.mem_map.1 h
  exact ⟨c, mem_of_mem_resolvedCaptures ((collapseFrom_sublist _ _ _).subset hmem), range, rfl⟩

end CompiledQuery

/-! ### Highlights -/

/-- Where names are declared once, no two highlights share both name and range. -/
theorem nodup_name_range_resolveHighlights (hnames : q.captureNames.Nodup)
    (hdeclared : ∀ c ∈ captures, c.nameIndex < q.captureNames.length) :
    ((resolveHighlights q t text r captures).1.map fun hl => (hl.captureName, hl.range)).Nodup := by
  have hresolved := nodup_resolvedCaptures_reset q t text r captures
  have hkept := (collapseFrom_sublist (fun p : Capture × Range => p.1.nodeId) none
    (resolvedCaptures q t text r.reset captures))
  refine List.pairwise_map.2 (List.pairwise_map.2 ?_)
  refine ((List.pairwise_map.1 hresolved).sublist hkept).imp_of_mem ?_
  rintro ⟨c, range⟩ ⟨c', range'⟩ hc hc' hne heq
  obtain ⟨hname, hrange⟩ := Prod.mk.inj heq
  have hdecl := hdeclared c (mem_of_mem_resolvedCaptures (hkept.subset hc))
  have hdecl' := hdeclared c' (mem_of_mem_resolvedCaptures (hkept.subset hc'))
  exact hne (Prod.ext (CompiledQuery.captureName_inj hnames hdecl hdecl' hname) hrange)

/-- **Highlights are the firsts of runs.** Let the names of a query be declared once, and let
captures go by them.

* The highlights are those of the first captures of all longest runs of equal nodes, among the
  captures that get a range from a resolver without claims, in order and with these ranges.
* Highlights next to each other differ in their nodes.
* No two highlights share both the name of their capture and their range.
* The category of a highlight is that of the index of its capture, and also that of its name among
  the names declared.
* The resolver's claims do not matter, and it has none afterwards. -/
theorem highlights_are_firsts_of_runs (q : CompiledQuery) (t : SyntaxTree) (text : String)
    (r : Resolver) (captures : List Capture) (hnames : q.captureNames.Nodup)
    (hdeclared : ∀ c ∈ captures, c.nameIndex < q.captureNames.length) :
    let resolved := resolvedCaptures q t text {} captures
    let highlights := (resolveHighlights q t text r captures).1
    highlights = ((resolved.splitBy fun a b => a.1.nodeId == b.1.nodeId).filterMap List.head?).map
      (fun (c, range) => .ofCapture q c range) ∧
    highlights.IsChain (fun hl next => hl.nodeId ≠ next.nodeId) ∧
    (highlights.map fun hl => (hl.captureName, hl.range)).Nodup ∧
    (∀ hl ∈ highlights, ∃ c ∈ captures, ∃ range, hl = .ofCapture q c range ∧
      hl.category = .ofIndex c.nameIndex ∧
      Category.ofName? hl.captureName q.captureNames = some hl.category) ∧
    (∀ r', resolveHighlights q t text r' captures = resolveHighlights q t text r captures) ∧
    (resolveHighlights q t text r captures).2 = {} := by
  intro resolved highlights
  refine ⟨?_, ?_, nodup_name_range_resolveHighlights hnames hdeclared, ?_, fun _ => rfl, rfl⟩
  · rw [← collapseRepeats_eq_heads fun p : Capture × Range => p.1.nodeId]
    rfl
  · exact (List.isChain_map _).2 (isChain_collapseRepeats _ resolved)
  · intro hl hmem
    obtain ⟨c, hc, range, rfl⟩ := CompiledQuery.exists_capture_of_mem_resolveHighlights hmem
    exact ⟨c, hc, range, rfl, rfl, CompiledQuery.ofName?_captureName hnames (hdeclared c hc)⟩

/-- An array of two numbers. -/
def numbersTree : SyntaxTree :=
  ⟨0, .mk ⟨"array", true, false, none, ⟨⟨0, 0⟩, ⟨0, 5⟩⟩, 0, 5, .root 0 false⟩
    [.mk ⟨"number", true, false, none, ⟨⟨0, 1⟩, ⟨0, 2⟩⟩, 1, 2, .inner 0 1⟩ [],
      .mk ⟨"number", true, false, none, ⟨⟨0, 3⟩, ⟨0, 4⟩⟩, 3, 4, .inner 0 2⟩ []], []⟩

/-- Captures of the two numbers, by the index of the capture and of the number. -/
def rivalCaptures : List Capture :=
  [(0, 1), (1, 1), (0, 2), (2, 1), (2, 2), (1, 1)].map fun (name, index) =>
    ⟨name, name, .seek numbersTree.root index⟩

/-- The second capture of the first number is passed over for its node, but takes the range for
good; the shy captures get nothing. -/
theorem highlights_are_firsts_of_runs_rivals :
    rivalQuery.captureNames.Nodup ∧
    (∀ c ∈ rivalCaptures, c.nameIndex < rivalQuery.captureNames.length) ∧
    (resolveHighlights rivalQuery numbersTree "[1,2]" {} rivalCaptures).1 =
      [⟨⟨⟨0, 1⟩, ⟨0, 2⟩⟩, ⟨1⟩, "a", .inner 0 1⟩, ⟨⟨⟨0, 3⟩, ⟨0, 4⟩⟩, ⟨1⟩, "a", .inner 0 2⟩] ∧
    (resolveHighlights rivalQuery numbersTree "[1,2]" {} rivalCaptures).1.IsChain
      fun hl next => hl.nodeId ≠ next.nodeId :=
  ⟨by decide, by decide, rfl, (highlights_are_firsts_of_runs rivalQuery numbersTree "[1,2]" {}
    rivalCaptures (by decide) (by decide)).2.1⟩

end SyntaxInspector
