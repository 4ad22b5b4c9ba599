import Mathlib.Data.List.Induction
import SyntaxInspector.Proofs.Scope.Pipeline
import SyntaxInspector.Proofs.Session.Turns

/-!
# Highlights and the query in use

A query is taken into use, run and forgotten by different operations, each with its own ways to
fail. The marks of a session always belong to the query in use. So do its highlights, with one
exception: a query taken into use while the active layer has no tree cannot be run, and the
highlights of the query before it stay.

* `Engine.NamesCaptures` — what is asked of an engine: captures go by the names declared;
* `Session.Agrees` — the invariant of a session;
* `Session.Suited` — every highlight has the category that the query gives its name;
* `Host.resolver_opened_run` — between operations the resolver has no claims;
* `Host.highlights_belong_to_query` — all runs of a host.
-/

namespace SyntaxInspector

/-- An engine declares each capture name of a query once and reports declared captures only. -/
structure Engine.NamesCaptures (e : Engine) : Prop where
  nodup : ∀ language source raw, e.compile language source = .ok raw → raw.captures.Nodup
  declared : ∀ language source raw, e.compile language source = .ok raw →
    ∀ subject bounds, ∀ c ∈ e.captures language.name source subject bounds,
      c.capture < raw.captures.length

/-- A highlight has the category that a query gives its name. -/
def Highlight.Suits (q : CompiledQuery) (hl : Highlight) : Prop :=
  Category.ofName? hl.captureName q.captureNames = some hl.category

/-- The highlights of a query in a tree of a session's text. -/
def Session.highlightsOf (e : Engine) (s : Session) (q : CompiledQuery) (t : SyntaxTree)
    (bounds : Option Range) : List Highlight :=
  (s.resolve e q t bounds).1

/-! ### Queries and their captures -/

namespace CompiledQuery

variable {e : Engine} {q : CompiledQuery}

/-- A query that compiles is what the engine makes of its text. -/
theorem exists_raw_of_compile {language : Language} {source : String}
    (h : compile e language source = .ok q) :
    ∃ raw rules, e.compile language source = .ok raw ∧
      q = ⟨language.name, source, raw.captures, rules⟩ := by
  unfold compile at h
  cases hraw : e.compile language source with
  | error err => simp [hraw, Except.mapError, bind, Except.bind] at h
  | ok raw =>
    cases hrules : raw.patterns.mapM (rulesOf e.regex source) with
    | error err => simp [hraw, hrules, Except.mapError, bind, Except.bind] at h
    | ok rules =>
      simp only [hraw, hrules, Except.mapError, bind, Except.bind, pure, Except.pure,
        Except.ok.injEq] at h
      exact ⟨raw, rules, rfl, h.symm⟩

/-- The names of a query are declared once, and its captures go by them. -/
structure Fits (e : Engine) (q : CompiledQuery) : Prop where
  nodup : q.captureNames.Nodup
  declared : ∀ t text bounds, ∀ c ∈ q.execute e t text bounds, c.nameIndex < q.captureNames.length

theorem fits_of_compile (he : e.NamesCaptures) {language : Language} {source : String}
    (h : compile e language source = .ok q) : q.Fits e := by
  obtain ⟨raw, rules, hraw, rfl⟩ := exists_raw_of_compile h
  refine ⟨he.nodup language source raw hraw, ?_⟩
  intro t text bounds c hc
  obtain ⟨captured, hcaptured, hnode⟩ := List.mem_filterMap.1 hc
  obtain ⟨node, -, rfl⟩ := Option.map_eq_some_iff.1 hnode
  exact he.declared language source raw hraw ⟨t, text⟩ _ captured hcaptured

/-- What a query highlights suits it. -/
theorem Fits.suits_of_mem_highlightsOf (hq : q.Fits e) {s : Session} {t : SyntaxTree}
    {bounds : Option Range} {hl : Highlight} (h : hl ∈ s.highlightsOf e q t bounds) :
    hl.Suits q := by
  obtain ⟨c, hc, range, rfl⟩ := exists_capture_of_mem_resolveHighlights h
  exact ofName?_captureName hq.nodup (hq.declared t s.text bounds c hc)

end CompiledQuery

/-! ### Sessions -/

namespace Session

/-- Every highlight suits the query in use. -/
def Suited (s : Session) : Prop := ∀ q, s.query = some q → ∀ hl ∈ s.highlights, hl.Suits q

/-- The marks are those of the query in use, and without a query there are neither marks nor
highlights. -/
structure Agrees (e : Engine) (s : Session) : Prop where
  idle : s.query = none → s.highlights = [] ∧ s.marks = []
  fits : ∀ q, s.query = some q → q.Fits e
  marks : ∀ q, s.query = some q → s.marks = captureMarks q

/-- Query, highlights and marks are the same. -/
structure SameQuery (s s' : Session) : Prop where
  query : s'.query = s.query
  highlights : s'.highlights = s.highlights
  marks : s'.marks = s.marks

/-- Query, highlights and marks are gone. -/
structure NoQuery (s : Session) : Prop where
  query : s.query = none
  highlights : s.highlights = []
  marks : s.marks = []

theorem SameQuery.refl (s : Session) : SameQuery s s := ⟨rfl, rfl, rfl⟩

theorem NoQuery.agrees {e : Engine} {s : Session} (h : s.NoQuery) : s.Agrees e where
  idle _ := ⟨h.highlights, h.marks⟩
  fits q hq := by rw [h.query] at hq; cases hq
  marks q hq := by rw [h.query] at hq; cases hq

theorem suited_of_query_eq_none {s : Session} (h : s.query = none) : s.Suited := by
  intro q hq
  rw [h] at hq
  cases hq

/-- The query in use compiled and its marks were found with it. -/
theorem agrees_of_compile {e : Engine} {s : Session} (he : e.NamesCaptures) {q : CompiledQuery}
    {language : Language} {source : String}
    (hcompile : CompiledQuery.compile e language source = .ok q) (hquery : s.query = some q)
    (hmarks : s.marks = captureMarks q) : s.Agrees e := by
  refine ⟨?_, ?_, ?_⟩ <;> rw [hquery]
  · rintro ⟨⟩
  · rintro _ ⟨rfl⟩
    exact CompiledQuery.fits_of_compile he hcompile
  · rintro _ ⟨rfl⟩
    exact hmarks

/-- The highlights are what the query in use gives. -/
theorem suited_of_highlightsOf {e : Engine} {s s' : Session} {q : CompiledQuery} {t : SyntaxTree}
    {bounds : Option Range} (hfits : q.Fits e) (hquery : s'.query = some q)
    (hhighlights : s'.highlights = s.highlightsOf e q t bounds) : s'.Suited := by
  unfold Suited
  rw [hquery, hhighlights]
  rintro _ ⟨rfl⟩ hl hmem
  exact hfits.suits_of_mem_highlightsOf hmem

theorem Leaves.noQuery {s s' : Session} (h : s.Leaves s') : s'.NoQuery := by
  obtain ⟨text, registry, options, overlay, events, rfl⟩ := h
  exact ⟨rfl, rfl, rfl⟩

/-- What an operation may do to the query in use, its marks and its highlights. -/
inductive QueryTurn (e : Engine) (s : Session) (op : Op) (s' : Session) : Prop where
  /-- Nothing changes. -/
  | kept (h : SameQuery s s')
  /-- All is forgotten. -/
  | forgotten (h : s'.NoQuery)
  /-- There is no query to run. -/
  | idle (before : s.query = none) (query : s'.query = none) (marks : s'.marks = s.marks)
    (highlights : s'.highlights = [])
  /-- The query in use is run. -/
  | run (q : CompiledQuery) (t : SyntaxTree) (bounds : Option Range) (before : s.query = some q)
    (query : s'.query = some q) (marks : s'.marks = s.marks)
    (highlights : s'.highlights = s.highlightsOf e q t bounds)
  /-- Another query is taken into use and run. -/
  | replaced (source : String) (q : CompiledQuery) (t : SyntaxTree)
    (compiled : CompiledQuery.compile e s.activeLayer.language source = .ok q)
    (query : s'.query = some q) (marks : s'.marks = captureMarks q)
    (highlights : s'.highlights = s.highlightsOf e q t none)
  /-- Another query is taken into use, but there is no tree to run it on. -/
  | stranded (source : String) (q : CompiledQuery) (hop : op = .compileQuery source)
    (tree : s.activeTree? = none)
    (compiled : CompiledQuery.compile e s.activeLayer.language source = .ok q)
    (query : s'.query = some q) (marks : s'.marks = captureMarks q)
    (highlights : s'.highlights = s.highlights)

section

variable {e : Engine} {s s' : Session} {op : Op}

theorem queryTurn_runQuery (e : Engine) (s : Session) (op : Op) (bounds : Option Range) :
    s.QueryTurn e op (s.runQuery e bounds).1 := by
  unfold runQuery
  split
  · rename_i hquery
    exact .idle hquery hquery rfl rfl
  · rename_i q hquery
    split
    · exact .kept (.refl s)
    · rename_i t _
      exact .run q t bounds hquery hquery rfl rfl

theorem queryTurn_compileQuery (e : Engine) (s : Session) (source : String) :
    s.QueryTurn e (.compileQuery source) (s.compileQuery e source).1 := by
  unfold compileQuery
  split
  · rename_i q hcompile
    have htree : activeTree? { s with status := none, marks := captureMarks q, query := some q } =
      s.activeTree? := activeTree?_congr rfl
    unfold runQuery
    dsimp only
    rw [htree]
    split
    · -- query and marks are replaced before it turns out that there is no tree
      rename_i hnone
      exact .stranded source q rfl hnone hcompile rfl rfl rfl
    · rename_i t _
      exact .replaced source q t hcompile rfl rfl rfl
  · exact .kept ⟨rfl, rfl, rfl⟩

/-- With a tree to run on, the query is run on all of the text. -/
theorem rerunQuery_cases (e : Engine) (s : Session) :
    (s.query = none ∨ s.activeTree? = none) ∧ s.rerunQuery e = s ∨
    ∃ q t, s.query = some q ∧ s.activeTree? = some t ∧
      s.rerunQuery e = { s with highlights := s.highlightsOf e q t none, resolver := {} } := by
  unfold rerunQuery runQuery
  cases hquery : s.query with
  | none => exact .inl ⟨.inl rfl, rfl⟩
  | some q =>
    cases htree : s.activeTree? with
    | none => exact .inl ⟨.inr rfl, rfl⟩
    | some t => exact .inr ⟨q, t, rfl, rfl, rfl⟩

theorem queryTurn_takeOver (e : Engine) (s : Session) (op : Op) (rows : RowSequence) :
    s.QueryTurn e op (s.takeOver e rows) := by
  obtain ⟨node, row, htrack⟩ :=
    exists_retrack_eq { s with inFlight := none, pendingEcho := none, rows }
  unfold takeOver
  rw [htrack]
  rcases rerunQuery_cases e
    { s with
      inFlight := none, pendingEcho := none, rows, activeNode := node, highlightedRow := row } with
    ⟨-, hsame⟩ | ⟨q, t, hquery, -, hrun⟩
  · rw [hsame]
    exact .kept ⟨rfl, rfl, rfl⟩
  · rw [hrun]
    exact .run q t none hquery hquery rfl rfl

/-- The beginning of a render is of no account. -/
theorem QueryTurn.of_begun (h : s.begun.QueryTurn e op s') : s.QueryTurn e op s' := by
  cases h with
  | kept h => exact .kept ⟨h.query, h.highlights, h.marks⟩
  | forgotten h => exact .forgotten h
  | idle before query marks highlights => exact .idle before query marks highlights
  | run q t bounds before query marks highlights =>
    exact .run q t bounds before query marks highlights
  | replaced source q t compiled query marks highlights =>
    exact .replaced source q t compiled query marks highlights
  | stranded source q hop tree compiled query marks highlights =>
    exact .stranded source q hop tree compiled query marks highlights

/-- Every operation that takes no rows over. -/
theorem Effect.queryTurn (h : s.Effect e op s') : s.QueryTurn e op s' := by
  cases h with
  | spares _ h =>
    obtain ⟨text, registry, options, counter, inFlight, overlay, events, rfl⟩ := h
    exact .kept ⟨rfl, rfl, rfl⟩
  | leaves _ h => exact .forgotten h.noQuery
  | compileQuery source => exact queryTurn_compileQuery e s source
  | runQuery bounds => exact queryTurn_runQuery e s _ bounds
  | clearQuery => exact .forgotten ⟨rfl, rfl, rfl⟩
  | moveCursor selection =>
    obtain ⟨node, row, heq⟩ := exists_moveCursor_eq s selection
    rw [heq]
    exact .kept ⟨rfl, rfl, rfl⟩
  | selectRow index =>
    obtain ⟨node, row, echo, heq⟩ := exists_selectRow_eq s index
    rw [heq]
    exact .kept ⟨rfl, rfl, rfl⟩

/-! ### What is kept -/

theorem Agrees.queryTurn (he : e.NamesCaptures) (hs : s.Agrees e) (h : s.QueryTurn e op s') :
    s'.Agrees e := by
  cases h with
  | kept h =>
    refine ⟨?_, ?_, ?_⟩
    · rw [h.query, h.highlights, h.marks]
      exact hs.idle
    · rw [h.query]
      exact hs.fits
    · rw [h.query, h.marks]
      exact hs.marks
  | forgotten h => exact h.agrees
  | idle before query marks highlights =>
    -- the marks are left alone, but without a query there were none
    exact NoQuery.agrees ⟨query, highlights, marks.trans (hs.idle before).2⟩
  | run q t bounds before query marks highlights =>
    refine ⟨?_, ?_, ?_⟩
    · rw [query]
      rintro ⟨⟩
    · rw [query, ← before]
      exact hs.fits
    · rw [query, ← before, marks]
      exact hs.marks
  | replaced source q t compiled query marks highlights =>
    exact agrees_of_compile he compiled query marks
  | stranded source q hop tree compiled query marks highlights =>
    exact agrees_of_compile he compiled query marks

/-- The highlights suit the query, or both are as before, or a query was taken into use without a
tree to run it on. -/
theorem Agrees.suited_queryTurn (he : e.NamesCaptures) (hs : s.Agrees e)
    (h : s.QueryTurn e op s') :
    s'.Suited ∨ (s'.query = s.query ∧ s'.highlights = s.highlights) ∨
      ∃ source q, op = .compileQuery source ∧ s.activeTree? = none ∧
        CompiledQuery.compile e s.activeLayer.language source = .ok q ∧ s'.query = some q ∧
        s'.highlights = s.highlights := by
  cases h with
  | kept h => exact .inr (.inl ⟨h.query, h.highlights⟩)
  | forgotten h => exact .inl (suited_of_query_eq_none h.query)
  | idle before query marks highlights => exact .inl (suited_of_query_eq_none query)
  | run q t bounds before query marks highlights =>
    exact .inl (suited_of_highlightsOf (hs.fits q before) query highlights)
  | replaced source q t compiled query marks highlights =>
    exact .inl (suited_of_highlightsOf (CompiledQuery.fits_of_compile he compiled) query highlights)
  | stranded source q hop tree compiled query marks highlights =>
    exact .inr (.inr ⟨source, q, hop, tree, compiled, query, highlights⟩)

/-! ### Claims -/

/-- A query run leaves no claims behind. -/
theorem resolver_runQuery (hs : s.resolver = {}) (bounds : Option Range) :
    (s.runQuery e bounds).1.resolver = {} := by
  unfold runQuery
  split
  · exact hs
  · split
    · exact hs
    · rfl

theorem resolver_compileQuery (hs : s.resolver = {}) (source : String) :
    (s.compileQuery e source).1.resolver = {} := by
  unfold compileQuery
  split
  · refine resolver_runQuery ?_ none
    exact hs
  · exact hs

theorem resolver_rerunQuery (hs : s.resolver = {}) : (s.rerunQuery e).resolver = {} := by
  unfold rerunQuery
  split
  · exact resolver_runQuery hs none
  · exact hs

theorem resolver_takeOver (hs : s.resolver = {}) (rows : RowSequence) :
    (s.takeOver e rows).resolver = {} := by
  obtain ⟨node, row, htrack⟩ :=
    exists_retrack_eq { s with inFlight := none, pendingEcho := none, rows }
  have hretracked :
      (retrack { s with inFlight := none, pendingEcho := none, rows }).resolver = {} := by
    rw [htrack]
    exact hs
  exact resolver_rerunQuery hretracked

theorem Effect.resolver_eq (h : s.Effect e op s') (hs : s.resolver = {}) : s'.resolver = {} := by
  cases h with
  | spares _ h =>
    obtain ⟨text, registry, options, counter, inFlight, overlay, events, rfl⟩ := h
    exact hs
  | leaves _ h =>
    obtain ⟨text, registry, options, overlay, events, rfl⟩ := h
    exact hs
  | compileQuery source => exact resolver_compileQuery hs source
  | runQuery bounds => exact resolver_runQuery hs bounds
  | clearQuery => exact hs
  | moveCursor selection =>
    obtain ⟨node, row, heq⟩ := exists_moveCursor_eq s selection
    rw [heq]
    exact hs
  | selectRow index =>
    obtain ⟨node, row, echo, heq⟩ := exists_selectRow_eq s index
    rw [heq]
    exact hs

end

end Session

/-! ### Runs -/

namespace Host

variable {e : Engine} {h : Host}

theorem queryTurn_step (e : Engine) (h : Host) (op : Op) :
    h.session.QueryTurn e op (h.step e op).1.session := by
  rcases session_step_cases e h op with ⟨rows, -, heq⟩ | ⟨-, hturn⟩
  · rw [heq]
    have htaken := (h.receiving op).queryTurn_takeOver e op rows
    rcases receiving_cases h op with hsame | hbegun
    · rwa [hsame] at htaken ⊢
    · rw [hbegun] at htaken ⊢
      exact htaken.of_begun
  · exact hturn.effect.queryTurn

theorem agrees_run (he : e.NamesCaptures) (hs : h.session.Agrees e) (ops : List Op) :
    (h.run e ops).session.Agrees e := by
  induction ops generalizing h with
  | nil => exact hs
  | cons op ops ih => exact ih (hs.queryTurn he (queryTurn_step e h op))

/-- Since a query was taken into use without a tree to run it on, the highlights have not
changed. -/
def Strands (e : Engine) (h : Host) (ops : List Op) (q : CompiledQuery) : Prop :=
  ∃ earlier source later, ops = earlier ++ .compileQuery source :: later ∧
    (h.run e earlier).session.activeTree? = none ∧
    CompiledQuery.compile e (h.run e earlier).session.activeLayer.language source = .ok q ∧
    (h.run e ops).session.highlights = (h.run e earlier).session.highlights

/-- The highlights suit the query in use, unless it was stranded. -/
theorem suited_or_strands (he : e.NamesCaptures) (hs : h.session.Agrees e)
    (hsuited : h.session.Suited) (ops : List Op) :
    (h.run e ops).session.Suited ∨
      ∃ q, (h.run e ops).session.query = some q ∧ h.Strands e ops q := by
  -- from the last operation backwards, since what is stranded lies in the past
  induction ops using List.reverseRecOn with
  | nil => exact .inl hsuited
  | append_singleton ops op ih =>
    have hstep := (agrees_run he hs ops).suited_queryTurn he (queryTurn_step e (h.run e ops) op)
    rw [← run_concat] at hstep
    rcases hstep with
      hnow | ⟨hquery, hhighlights⟩ | ⟨source, q, rfl, htree, hq, hquery, hhighlights⟩
    · exact .inl hnow
    · rcases ih with hbefore | ⟨q, hq, earlier, source, later, rfl, htree, hcompile, hold⟩
      · refine .inl ?_
        unfold Session.Suited
        rw [hquery, hhighlights]
        exact hbefore
      · refine .inr ⟨q, hquery.trans hq, earlier, source, later ++ [op], ?_, htree, hcompile,
          hhighlights.trans hold⟩
        rw [List.append_assoc, List.cons_append]
    · exact .inr ⟨q, hquery, ops, source, [], rfl, htree, hq, hhighlights⟩

theorem resolver_run (hs : h.session.resolver = {}) (ops : List Op) :
    (h.run e ops).session.resolver = {} := by
  induction ops generalizing h with
  | nil => exact hs
  | cons op ops ih =>
    refine ih (h := (h.step e op).1) ?_
    rcases session_step_cases e h op with ⟨rows, -, heq⟩ | ⟨-, hturn⟩
    · rw [heq]
      have hreceiving : (h.receiving op).resolver = {} := by
        rcases receiving_cases h op with hsame | hbegun
        · rw [hsame]
          exact hs
        · rw [hbegun]
          exact hs
      exact Session.resolver_takeOver hreceiving rows
    · exact hturn.effect.resolver_eq hs

/-- Between the operations of a host no captures have claims. -/
theorem resolver_opened_run (e : Engine) (document : Document) (nextTree : Nat)
    (snapshot : Snapshot) (options : SessionOptions) (ops : List Op) :
    ((opened document nextTree snapshot options).run e ops).session.resolver = {} := by
  obtain ⟨visible, hstart⟩ := exists_session_opened_eq document nextTree snapshot options
  refine resolver_run ?_ ops
  rw [hstart]

theorem noQuery_opened (document : Document) (nextTree : Nat) (snapshot : Snapshot)
    (options : SessionOptions) : (opened document nextTree snapshot options).session.NoQuery := by
  obtain ⟨visible, hstart⟩ := exists_session_opened_eq document nextTree snapshot options
  rw [hstart]
  exact ⟨rfl, rfl, rfl⟩

/-- **Highlights belong to the query in use.** After any run of a host, whatever failed in it:

* without a query there are neither highlights nor marks;
* with a query, its names are distinct, the marks are those of its text, and every highlight has
  the category that the query gives its name;
* except that a query taken into use while the active layer has no tree leaves the highlights there
  were, until they change. -/
theorem highlights_belong_to_query (e : Engine) (he : e.NamesCaptures) (document : Document)
    (nextTree : Nat) (snapshot : Snapshot) (options : SessionOptions) (ops : List Op) :
    let h₀ := opened document nextTree snapshot options
    let s := (h₀.run e ops).session
    (s.query = none → s.highlights = [] ∧ s.marks = []) ∧
    (∀ q, s.query = some q → q.captureNames.Nodup ∧ s.marks = captureMarks q ∧
      ((∀ hl ∈ s.highlights, Category.ofName? hl.captureName q.captureNames = some hl.category) ∨
        h₀.Strands e ops q)) := by
  intro h₀ s
  have hstart : h₀.session.NoQuery := noQuery_opened document nextTree snapshot options
  have hagrees : s.Agrees e := agrees_run he hstart.agrees ops
  refine ⟨hagrees.idle, ?_⟩
  intro q hq
  refine ⟨(hagrees.fits q hq).nodup, hagrees.marks q hq, ?_⟩
  rcases suited_or_strands he hstart.agrees (Session.suited_of_query_eq_none hstart.query) ops with
    hsuited | ⟨q', hq', hstrands⟩
  · exact .inl (hsuited q hq)
  · obtain rfl : q' = q := Option.some.inj (hq'.symm.trans hq)
    exact .inr hstrands

/-- A tree of an array of one number. -/
def arrayTree (number : Nat) : SyntaxTree where
  number := number
  root := .mk ⟨"document", true, false, none, ⟨⟨0, 0⟩, ⟨0, 3⟩⟩, 0, 3, .root number false⟩
    [.mk ⟨"array", true, false, none, ⟨⟨0, 0⟩, ⟨0, 3⟩⟩, 0, 3, .inner number 1⟩
      [.mk ⟨"[", false, false, none, ⟨⟨0, 0⟩, ⟨0, 1⟩⟩, 0, 1, .inner number 2⟩ [],
        .mk ⟨"number", true, false, none, ⟨⟨0, 1⟩, ⟨0, 2⟩⟩, 1, 2, .inner number 3⟩ [],
        .mk ⟨"]", false, false, none, ⟨⟨0, 2⟩, ⟨0, 3⟩⟩, 2, 3, .inner number 4⟩ []]]
  detours := []

/-- An engine that knows two queries: one for the number of `arrayTree`, one for the array. -/
def arrayEngine : Engine where
  nodes _ language _ _ := .error (.noTree language.name)
  compile _ source :=
    if source = "(number) @n" then .ok ⟨["n"], [⟨0, [], [], []⟩]⟩
    else if source = "(array) @a" then .ok ⟨["a"], [⟨0, [], [], []⟩]⟩
    else .error ⟨.malformed, .zero, source⟩
  captures _ source _ _ :=
    if source = "(number) @n" then [⟨0, 0, 3⟩]
    else if source = "(array) @a" then [⟨0, 0, 1⟩]
    else []

theorem namesCaptures_arrayEngine : arrayEngine.NamesCaptures := by
  constructor
  · intro language source raw h
    simp only [arrayEngine] at h
    split_ifs at h <;> cases h <;> decide
  · intro language source raw h t bounds c hc
    simp only [arrayEngine] at h hc
    split_ifs at h hc <;> cases h <;> simp_all

/-- The document of the array. -/
def arrayDocument : Document :=
  { language := ⟨"json", ["json"], ["json"]⟩, text := "[1]", tree := some (arrayTree 0) }

/-- The document with another tree, or with none. -/
def arraySnapshot (tree : Option SyntaxTree) : Snapshot := { arrayDocument with tree }.snapshot

/-- A query that is run. -/
theorem highlights_belong_to_query_arrayDocument :
    arrayEngine.NamesCaptures ∧
    ∃ q, ((Host.start arrayDocument 1 {}).run arrayEngine
        [.compileQuery "(number) @n"]).session.query = some q ∧
      ((Host.start arrayDocument 1 {}).run arrayEngine
        [.compileQuery "(number) @n"]).session.highlights ≠ [] ∧
      ∀ hl ∈ ((Host.start arrayDocument 1 {}).run arrayEngine
          [.compileQuery "(number) @n"]).session.highlights,
        Category.ofName? hl.captureName q.captureNames = some hl.category := by
  refine ⟨namesCaptures_arrayEngine, ⟨"json", "(number) @n", ["n"], [{}]⟩, rfl, by decide, ?_⟩
  rcases ((highlights_belong_to_query arrayEngine namesCaptures_arrayEngine arrayDocument 1
    arrayDocument.snapshot {} [.compileQuery "(number) @n"]).2 _ rfl).2.2 with
    hsuits | ⟨earlier, source, later, heq, htree, -⟩
  · exact hsuits
  · -- there was a tree before the query
    cases earlier with
    | nil => cases htree
    | cons op earlier => simp at heq

/-- The highlight of the number stays when a query for arrays is taken into use without a tree. -/
theorem highlight_left_without_tree :
    arrayEngine.NamesCaptures ∧
    ∃ q hl, ((Host.start arrayDocument 1 {}).run arrayEngine
        [.compileQuery "(number) @n", .change (arraySnapshot none),
          .compileQuery "(array) @a"]).session.query = some q ∧
      hl ∈ ((Host.start arrayDocument 1 {}).run arrayEngine
        [.compileQuery "(number) @n", .change (arraySnapshot none),
          .compileQuery "(array) @a"]).session.highlights ∧
      q.captureNames = ["a"] ∧ hl.captureName = "n" ∧
      Category.ofName? hl.captureName q.captureNames ≠ some hl.category :=
  ⟨namesCaptures_arrayEngine, ⟨"json", "(array) @a", ["a"], [{}]⟩,
    ⟨⟨⟨0, 1⟩, ⟨0, 2⟩⟩, ⟨1⟩, "n", .inner 0 3⟩, rfl, by decide, rfl, rfl, by decide⟩

end Host

end SyntaxInspector
