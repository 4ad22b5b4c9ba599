import Mathlib.Data.List.Infix
import SyntaxInspector.Proofs.Session.Layers

/-!
# Queries run on their own grammar only

A query is compiled for the language of the active layer, and kept as long as the layer keeps its
id. If all that a session is ever told of are snapshots of one document, old or new, an id stands
for one language throughout, so the language of the active layer is always the one its query was
compiled for.

* `Document.Life` — the life of a document, and the snapshots and trees of it;
* `Document.Life.language_eq` — an id has one language in all its snapshots;
* `Session.Attuned` — the invariant of a session;
* `Engine.withCaptures` — an engine that differs in what it captures;
* `Host.Attends` — a host that tells its session of one document only;
* `Host.queries_run_on_their_own_grammar` — all runs of such a host.
-/

namespace SyntaxInspector

/-! ### The snapshots of one document -/

namespace Document

/-- The life of a document: what it is from the start, and its new texts in order. -/
structure Life where
  language : Language
  points : List InjectionPoint
  edits : List Edit

namespace Life

/-- A snapshot was taken at some point of a life. -/
def Shows (life : Life) (snapshot : Snapshot) : Prop :=
  ∃ past, past <+: life.edits ∧
    snapshot = ((unparsed life.language life.points).edits past).snapshot

/-- A tree was made from a text of a life, in a language. -/
def Parsed (life : Life) (language : Language) (t : SyntaxTree) : Prop :=
  ∃ x ∈ life.edits, x.Parses language t

/-- A tree is the tree of a layer of that grammar at some point of a life. -/
def Owns (life : Life) (grammar : String) (t : SyntaxTree) : Prop :=
  ∃ snapshot, life.Shows snapshot ∧ ∃ l ∈ snapshot.layers, l.grammar = grammar ∧ l.tree = some t

variable {life : Life} {past past' : List Edit} {snapshot snapshot' : Snapshot} {l l' : Layer}

theorem sound (hpast : past <+: life.edits) :
    ((unparsed life.language life.points).edits past).Sound life.Parsed :=
  (sound_unparsed life.language life.points).edits fun x hx _ _ hparse =>
    ⟨x, hpast.subset hx, hparse⟩

/-- An injected layer has the language of its key's point, whenever it is seen. -/
theorem exists_key_of_mem_injections (hpast : past <+: life.edits)
    (hmem : l ∈ ((unparsed life.language life.points).edits past).injections) :
    ∃ key p, (key, l.id) ∈ ((unparsed life.language life.points).edits past).ids ∧
      life.points[key.point]? = some p ∧ l.language = p.language := by
  have hsound := sound hpast
  obtain ⟨point, hlayer⟩ := hsound.exists_layersOf_of_mem hmem
  obtain ⟨ordinal, hget⟩ := List.mem_iff_getElem?.1 hlayer
  obtain ⟨p, hp, hlanguage, hids⟩ := hsound.exists_key_of_layersOf hget
  rw [(language_edits _ _).2] at hp
  exact ⟨_, p, hids, hp, hlanguage⟩

theorem language_eq_of_earlier (hpast' : past' <+: life.edits) (hle : past <+: past')
    (hmem : l ∈ ((unparsed life.language life.points).edits past).injections)
    (hmem' : l' ∈ ((unparsed life.language life.points).edits past').injections)
    (hid : l.id = l'.id) : l.language = l'.language := by
  obtain ⟨key, p, hids, hp, hlanguage⟩ := exists_key_of_mem_injections (hle.trans hpast') hmem
  obtain ⟨key', p', hids', hp', hlanguage'⟩ := exists_key_of_mem_injections hpast' hmem'
  obtain ⟨since, rfl⟩ := hle
  rw [edits_append, ← hid] at hids'
  have hmade : ∀ x ∈ since, ∀ language t, x.Parses language t → life.Parsed language t :=
    fun x hx language t hparse =>
      ⟨x, hpast'.subset (List.mem_append_right _ hx), hparse⟩
  have hsound := sound ((List.prefix_append past since).trans hpast')
  obtain rfl := hsound.key_eq_of_edits hmade hids hids'
  rw [hp] at hp'
  rw [hlanguage, hlanguage', Option.some.inj hp']

/-- An id has one language in all snapshots of one life. -/
theorem language_eq (hs : life.Shows snapshot) (hs' : life.Shows snapshot')
    (hmem : l ∈ snapshot.layers) (hmem' : l' ∈ snapshot'.layers) (hid : l.id = l'.id) :
    l.language = l'.language := by
  obtain ⟨past, hpast, rfl⟩ := hs
  obtain ⟨past', hpast', rfl⟩ := hs'
  -- the ids of injected layers are positive, so a root layer has its id to itself
  have hpos : ∀ {past l}, past <+: life.edits →
      l ∈ ((unparsed life.language life.points).edits past).injections → l.id ≠ .root := by
    intro past l hpast hmem hroot
    have hbound := ((sound hpast).bounds_of_mem_layerIds (List.mem_map_of_mem hmem)).1
    rw [hroot] at hbound
    exact Nat.lt_irrefl 0 hbound
  rcases List.mem_cons.1 hmem with rfl | hinjected <;>
    rcases List.mem_cons.1 hmem' with rfl | hinjected'
  · exact (language_edits _ past).1.trans (language_edits _ past').1.symm
  · exact absurd hid.symm (hpos hpast' hinjected')
  · exact absurd hid (hpos hpast hinjected)
  · rcases List.prefix_or_prefix_of_prefix hpast hpast' with hle | hle
    · exact language_eq_of_earlier hpast' hle hinjected hinjected' hid
    · exact (language_eq_of_earlier hpast hle hinjected' hinjected hid.symm).symm

/-- The tree of a layer was made from a text of the layer's language. -/
theorem parsed_of_mem_layers (hs : life.Shows snapshot) (hmem : l ∈ snapshot.layers)
    {t : SyntaxTree} (ht : l.tree = some t) : life.Parsed l.language t := by
  obtain ⟨past, hpast, rfl⟩ := hs
  rcases List.mem_cons.1 hmem with rfl | hinjected
  · exact (sound hpast).tree t ht
  · exact (sound hpast).parsed_of_mem_injections hinjected ht

end Life

end Document

/-! ### Sessions on one document -/

namespace Session

/-- The layers of a session are those of a document at some point of its life, and the query in use
was compiled for the language of the active one. -/
structure Attuned (e : Engine) (life : Document.Life) (s : Session) : Prop where
  shown : ∃ snapshot, life.Shows snapshot ∧ s.registry.layers = snapshot.layers
  active : ∃ l ∈ s.registry.layers, l.id = s.registry.active
  query : ∀ q, s.query = some q →
    ∃ source, CompiledQuery.compile e s.activeLayer.language source = .ok q

variable {e : Engine} {life : Document.Life} {s s' : Session} {op : Op}

/-- An operation that leaves the layers alone keeps the query, forgets it, or takes one into use
that is compiled for the active layer. -/
theorem Attuned.of_registry_eq (h : s.Attuned e life) (hregistry : s'.registry = s.registry)
    (hturn : s.QueryTurn e op s') : s'.Attuned e life := by
  have hlayer : s'.activeLayer = s.activeLayer := congrArg Registry.activeLayer hregistry
  refine ⟨hregistry ▸ h.shown, hregistry ▸ h.active, ?_⟩
  intro q hq
  rw [hlayer]
  cases hturn with
  | kept hsame => exact h.query q (hsame.query ▸ hq)
  | forgotten hnone =>
    rw [hnone.query] at hq
    cases hq
  | idle _ query =>
    rw [query] at hq
    cases hq
  | run q' t bounds before query =>
    rw [query, ← before] at hq
    exact h.query q hq
  | replaced source q' t compiled query =>
    rw [query] at hq
    exact ⟨source, Option.some.inj hq ▸ compiled⟩
  | stranded source q' _ _ compiled query =>
    rw [query] at hq
    exact ⟨source, Option.some.inj hq ▸ compiled⟩

/-- A session that starts afresh has no query. -/
theorem attuned_moved {text : String} {registry : Registry} {event : Event} {snapshot : Snapshot}
    (hshows : life.Shows snapshot) (hlayers : registry.layers = snapshot.layers)
    (hactive : ∃ l ∈ registry.layers, l.id = registry.active) :
    (s.moved text registry event).Attuned e life := by
  obtain ⟨options, overlay, heq⟩ := moved_eq s text registry event
  rw [heq]
  refine ⟨⟨snapshot, hshows, hlayers⟩, hactive, ?_⟩
  rintro q ⟨⟩

/-- A changed document keeps the query only if the active layer keeps its id, and then it keeps its
language. -/
theorem Attuned.documentChanged (h : s.Attuned e life) {snapshot : Snapshot}
    (hshows : life.Shows snapshot) : (s.documentChanged snapshot).Attuned e life := by
  by_cases hkept : ∃ l ∈ snapshot.layers, l.id = s.registry.active
  · obtain ⟨before, hbefore, hlayers⟩ := h.shown
    rw [documentChanged_of_kept s hkept]
    refine ⟨⟨snapshot, hshows, rfl⟩, hkept, ?_⟩
    intro q hq
    obtain ⟨source, hcompile⟩ := h.query q hq
    -- the layer that was active and the one that is now have one id
    obtain ⟨hold, hid⟩ := Registry.activeLayer_mem h.active
    obtain ⟨hnew, hid'⟩ := Registry.activeLayer_mem
      (r := snapshot.registry s.registry.active) hkept
    rw [hlayers] at hold
    have hlanguage := Document.Life.language_eq hbefore hshows hold hnew (hid.trans hid'.symm)
    refine ⟨source, ?_⟩
    rw [← hcompile]
    exact congrArg (CompiledQuery.compile e · source) hlanguage.symm
  · have hlost : ∀ l ∈ snapshot.layers, l.id ≠ s.registry.active :=
      fun l hmem hid => hkept ⟨l, hmem, hid⟩
    rw [documentChanged_of_lost s hlost]
    refine attuned_moved hshows rfl ⟨snapshot.root, List.mem_cons_self, ?_⟩
    obtain ⟨past, -, rfl⟩ := hshows
    rfl

theorem Attuned.setActiveLayer (h : s.Attuned e life) (id : LayerId) :
    (s.setActiveLayer id).1.Attuned e life := by
  by_cases hunchanged : id = s.registry.active ∨ s.registry.find? id = none
  · rw [setActiveLayer_of_unchanged s hunchanged]
    exact h
  · obtain ⟨hne, hfound⟩ := not_or.1 hunchanged
    obtain ⟨l, hl⟩ := Option.ne_none_iff_exists'.1 hfound
    obtain ⟨snapshot, hshows, hlayers⟩ := h.shown
    rw [setActiveLayer_of_other s hne (by rw [hl]; rfl)]
    exact attuned_moved hshows hlayers ⟨l, Registry.mem_of_find? hl⟩

theorem Attuned.grammar_eq (h : s.Attuned e life) {q : CompiledQuery} (hq : s.query = some q) :
    q.grammar = s.activeLayer.grammar := by
  obtain ⟨source, hcompile⟩ := h.query q hq
  obtain ⟨raw, rules, -, rfl⟩ := CompiledQuery.exists_raw_of_compile hcompile
  rfl

/-- The tree that a query is run on is one of a layer of the query's grammar. -/
theorem Attuned.owns (h : s.Attuned e life) {t : SyntaxTree} (ht : s.activeTree? = some t) :
    life.Owns s.activeLayer.grammar t := by
  obtain ⟨snapshot, hshows, hlayers⟩ := h.shown
  have hmem := (Registry.activeLayer_mem h.active).1
  exact ⟨snapshot, hshows, s.activeLayer, hlayers ▸ hmem, rfl, ht⟩

theorem attuned_start {snapshot : Snapshot} (hshows : life.Shows snapshot)
    (options : SessionOptions) : (start snapshot options).Attuned e life := by
  obtain ⟨visible, heq⟩ := exists_hideOverlayAtRoot_eq
    { registry := .ofSnapshot snapshot, text := snapshot.text, options }
  rw [start, heq]
  refine ⟨⟨snapshot, hshows, rfl⟩, ⟨snapshot.root, List.mem_cons_self, ?_⟩, ?_⟩
  · obtain ⟨past, -, rfl⟩ := hshows
    rfl
  · rintro q ⟨⟩

/-! ### Runs of queries, whatever is captured in the trees of other grammars -/

/-- If the query in use is run, it is on the tree of a layer of its own grammar. -/
def StaysHome (life : Document.Life) (s : Session) : Prop :=
  ∀ q t, s.query = some q → s.activeTree? = some t → life.Owns q.grammar t

theorem Attuned.staysHome (h : s.Attuned e life) : s.StaysHome life := by
  intro q t hq ht
  rw [h.grammar_eq hq]
  exact h.owns ht

end Session

/-- The engine that captures something else. -/
def Engine.withCaptures (e : Engine)
    (captures : String → String → Subject → Range → List RawCapture) : Engine :=
  { e with captures }

/-- Two ways to capture agree on the trees of each grammar for the queries of the grammar. -/
def Document.Life.SameAtHome (life : Document.Life)
    (captures captures' : String → String → Subject → Range → List RawCapture) : Prop :=
  ∀ grammar source (subject : Subject) bounds, life.Owns grammar subject.toSyntaxTree →
    captures grammar source subject bounds = captures' grammar source subject bounds

/-! Nothing but queries depends on what is captured. -/

namespace Snapshot

variable (e : Engine) (captures : String → String → Subject → Range → List RawCapture)

theorem languageAndTree_withCaptures (next : Nat) (name : String) (wanted : Bool) (text : String)
    (spans : List ByteSpan) :
    languageAndTree (e.withCaptures captures) next name wanted text spans =
      languageAndTree e next name wanted text spans := rfl

theorem buildLayers_withCaptures (text : String) (next : Nat) (specs : List LayerSpec) :
    buildLayers (e.withCaptures captures) text next specs = buildLayers e text next specs := by
  induction specs generalizing next with
  | nil => rfl
  | cons spec specs ih => simp only [buildLayers, languageAndTree_withCaptures, ih]

theorem build_withCaptures (next : Nat) (text languageName : String) (parsed : Bool)
    (specs : List LayerSpec) :
    build (e.withCaptures captures) next text languageName parsed specs =
      build e next text languageName parsed specs := by
  simp only [build, languageAndTree_withCaptures, buildLayers_withCaptures]

end Snapshot

section

variable {e : Engine} {life : Document.Life} {s : Session}
  {captures : String → String → Subject → Range → List RawCapture}

namespace Session

theorem runQuery_withCaptures (hsame : life.SameAtHome captures e.captures)
    (hs : s.StaysHome life) (bounds : Option Range) :
    s.runQuery (e.withCaptures captures) bounds = s.runQuery e bounds := by
  unfold runQuery
  cases hq : s.query with
  | none => rfl
  | some q =>
    cases ht : s.activeTree? with
    | none => rfl
    | some t =>
      have hexecute : q.execute (e.withCaptures captures) t s.text bounds =
          q.execute e t s.text bounds :=
        congrArg (List.filterMap _) (hsame _ _ ⟨t, s.text⟩ _ (hs q t hq ht))
      simp only [resolve, hexecute]

theorem rerunQuery_withCaptures (hsame : life.SameAtHome captures e.captures)
    (hs : s.StaysHome life) :
    s.rerunQuery (e.withCaptures captures) = s.rerunQuery e := by
  rw [rerunQuery, rerunQuery, runQuery_withCaptures hsame hs]

/-- The rows that are taken over do not matter to the run that follows. -/
theorem takeOver_withCaptures (hsame : life.SameAtHome captures e.captures)
    (hs : s.StaysHome life) (rows : RowSequence) :
    s.takeOver (e.withCaptures captures) rows = s.takeOver e rows := by
  obtain ⟨node, row, hretrack⟩ :=
    exists_retrack_eq { s with inFlight := none, pendingEcho := none, rows }
  have hretracked :
      { s with inFlight := none, pendingEcho := none, rows }.retrack.StaysHome life := by
    rw [hretrack]
    exact hs
  rw [takeOver, takeOver, rerunQuery_withCaptures hsame hretracked]

/-- A query that compiles is one for the active layer. -/
theorem Attuned.compileQuery_withCaptures (hsame : life.SameAtHome captures e.captures)
    (hs : s.Attuned e life) (source : String) :
    s.compileQuery (e.withCaptures captures) source = s.compileQuery e source := by
  have hcompile : CompiledQuery.compile (e.withCaptures captures) s.activeLayer.language source =
      CompiledQuery.compile e s.activeLayer.language source := rfl
  unfold compileQuery
  rw [hcompile]
  cases hq : CompiledQuery.compile e s.activeLayer.language source with
  | error err => rfl
  | ok q =>
    have hnew : Attuned e life
        { s with status := none, marks := captureMarks q, query := some q } := by
      refine ⟨hs.shown, hs.active, ?_⟩
      rintro q' ⟨⟩
      exact ⟨source, hq⟩
    exact runQuery_withCaptures hsame hnew.staysHome none

end Session

end

/-! ### Hosts that tell their session of one document -/

namespace Host

/-- Whatever the operations tell the session of, it is a document at some point of its life. -/
def Attends (e : Engine) (life : Document.Life) (h : Host) : List Op → Prop
  | [] => True
  | op :: ops =>
    (∀ snapshot, h.layerChange? e op = some (.document snapshot) → life.Shows snapshot) ∧
    (h.step e op).1.Attends e life ops

variable {e : Engine} {life : Document.Life} {h : Host} {op : Op} {ops : List Op}
  {captures : String → String → Subject → Range → List RawCapture}

theorem attuned_step (hs : h.session.Attuned e life)
    (htold : ∀ snapshot, h.layerChange? e op = some (.document snapshot) → life.Shows snapshot) :
    (h.step e op).1.session.Attuned e life := by
  cases hc : h.layerChange? e op with
  | none => exact hs.of_registry_eq (registry_eq_of_layerChange_eq_none hc) (queryTurn_step e h op)
  | some c =>
    rw [session_of_layerChange hc]
    cases c with
    | activate id => exact hs.setActiveLayer id
    | document snapshot => exact hs.documentChanged (htold snapshot hc)

theorem attuned_run (hs : h.session.Attuned e life) (hattends : h.Attends e life ops) :
    (h.run e ops).session.Attuned e life := by
  induction ops generalizing h with
  | nil => exact hs
  | cons op ops ih => exact ih (attuned_step hs hattends.1) hattends.2

theorem step_withCaptures (hsame : life.SameAtHome captures e.captures)
    (hs : h.session.Attuned e life) : h.step (e.withCaptures captures) op = h.step e op := by
  cases op with
  | describe text languageName parsed layers =>
    simp only [step, Snapshot.build_withCaptures]
  | update =>
    cases htree : h.session.activeTree? with
    | none => simp only [step, Session.update_of_none htree]
    | some t =>
      have hbegun : h.session.begun.StaysHome life := hs.staysHome
      simp only [step, Session.update_eq htree, Session.takeOver_withCaptures hsame hbegun]
  | commit number =>
    cases hrows : (h.ticket? number).bind Ticket.rows with
    | none => rw [step_commit_of_none hrows, step_commit_of_none hrows]
    | some rows =>
      rw [step_commit hrows, step_commit hrows, Session.takeOver_withCaptures hsame hs.staysHome]
  | compileQuery source => simp only [step, hs.compileQuery_withCaptures hsame]
  | runQuery bounds => simp only [step, Session.runQuery_withCaptures hsame hs.staysHome]
  | _ => rfl

theorem run_withCaptures (hsame : life.SameAtHome captures e.captures)
    (hs : h.session.Attuned e life) (hattends : h.Attends e life ops) :
    h.run (e.withCaptures captures) ops = h.run e ops := by
  induction ops generalizing h with
  | nil => rfl
  | cons op ops ih =>
    rw [run_cons, run_cons, step_withCaptures hsame hs]
    exact ih (attuned_step hs hattends.1) hattends.2

/-- **A query is run on its own grammar only.** Let the session of a host start on a snapshot of a
document, and let snapshots of the same document be all that it is told of, taken whenever and in
whatever order. After any operations:

* the query in use, if any, is one for the grammar of the active layer, compiled for its language;
* the tree of the active layer, if any, was made from a text of the document in that language.

No run of the query on the way, asked for or after a render, depends on what is captured in a tree
that is not the tree of a layer of the query's grammar. -/
theorem queries_run_on_their_own_grammar (e : Engine) (life : Document.Life) (h : Host)
    (snapshot : Snapshot) (options : SessionOptions) (ops : List Op)
    (hshows : life.Shows snapshot) (hstart : h.session = .start snapshot options)
    (hattends : h.Attends e life ops) :
    let s := (h.run e ops).session
    (∀ q, s.query = some q → q.grammar = s.activeLayer.grammar ∧
      ∃ source, CompiledQuery.compile e s.activeLayer.language source = .ok q) ∧
    (∀ t, s.activeTree? = some t → life.Parsed s.activeLayer.language t) ∧
    (∀ captures, life.SameAtHome captures e.captures →
      h.run (e.withCaptures captures) ops = h.run e ops ∧
      ∀ op, (h.run e ops).step (e.withCaptures captures) op = (h.run e ops).step e op) := by
  intro s
  have hinit : h.session.Attuned e life := hstart ▸ Session.attuned_start hshows options
  have hs : s.Attuned e life := attuned_run hinit hattends
  refine ⟨fun q hq => ⟨hs.grammar_eq hq, hs.query q hq⟩, ?_, ?_⟩
  · intro t ht
    obtain ⟨shown, hshown, hlayers⟩ := hs.shown
    exact Document.Life.parsed_of_mem_layers hshown
      (hlayers ▸ (Registry.activeLayer_mem hs.active).1) ht
  · intro captures hsame
    exact ⟨run_withCaptures hsame hinit hattends, fun op => step_withCaptures hsame hs⟩

/-- The document of words, which has two letters and then one. -/
def wordLife : Document.Life where
  language := Document.wordDocument.language
  points := Document.wordDocument.points
  edits := [⟨Document.letterEngine 2, 0, "ab"⟩, ⟨Document.letterEngine 1, 4, "a"⟩]

/-- The document of words when it had two letters. -/
def olderWord : Snapshot := (Document.wordDocument.edits (wordLife.edits.take 1)).snapshot

/-- The document of words when it had one letter. -/
def newerWord : Snapshot := (Document.wordDocument.edits wordLife.edits).snapshot

/-- An engine that captures the first letter, if it is asked for letters. -/
def letterQueries : Engine where
  nodes _ language _ _ := .error (.noTree language.name)
  compile _ _ := .ok ⟨["l"], [⟨0, [], [], []⟩]⟩
  captures grammar _ _ _ := if grammar = "letters" then [⟨0, 0, 1⟩] else []

/-- An engine that captures as `letterQueries` does, but in the trees of letters only. -/
def letterTreeQueries : Engine :=
  letterQueries.withCaptures fun grammar source subject bounds =>
    if subject.number ∈ [2, 3, 6] then letterQueries.captures grammar source subject bounds else []

/-- A host of the document when it had one letter. -/
def wordHost : Host := opened Document.wordDocument 0 newerWord {}

/-- A query is compiled for the first letter, and the document is then as it was before. -/
def wordOps : List Op :=
  [.activate ⟨2⟩, .compileQuery "(letter) @l", .change olderWord, .update]

/-- The query is run on the letter of the older snapshot, whatever is captured in words. -/
theorem queries_run_on_their_own_grammar_wordHost :
    wordLife.Shows newerWord ∧ wordHost.session = .start newerWord {} ∧
    wordHost.Attends letterQueries wordLife wordOps ∧
    (∃ q, (wordHost.run letterQueries wordOps).session.query = some q ∧
      q.grammar = (wordHost.run letterQueries wordOps).session.activeLayer.grammar) ∧
    (wordHost.run letterQueries wordOps).session.registry.layers.map Layer.grammar =
      ["words", "spelling", "letters", "letters"] ∧
    (wordHost.run letterQueries wordOps).session.highlights.length = 1 ∧
    wordHost.run letterTreeQueries wordOps = wordHost.run letterQueries wordOps := by
  have hnewer : wordLife.Shows newerWord := ⟨wordLife.edits, List.prefix_refl _, rfl⟩
  have holder : wordLife.Shows olderWord := ⟨_, List.take_prefix 1 wordLife.edits, rfl⟩
  have hattends : wordHost.Attends letterQueries wordLife wordOps := by
    refine ⟨?_, ?_, ?_, ?_, trivial⟩
    · rintro snapshot ⟨⟩
    · rintro snapshot ⟨⟩
    · rintro snapshot ⟨⟩
      exact holder
    · rintro snapshot ⟨⟩
  -- the trees of letters have these numbers
  have hnumbers : ∀ past ∈ wordLife.edits.inits,
      ∀ l ∈ (Document.wordDocument.edits past).snapshot.layers,
        l.grammar = "letters" → ∀ t ∈ l.tree, t.number ∈ [2, 3, 6] := by decide +kernel
  have hsame : wordLife.SameAtHome letterTreeQueries.captures letterQueries.captures := by
    rintro grammar source subject bounds ⟨snapshot, ⟨past, hpast, rfl⟩, l, hmem, rfl, ht⟩
    by_cases hletters : l.grammar = "letters"
    · exact if_pos (hnumbers past ((List.mem_inits _ _).2 hpast) l hmem hletters _ ht)
    · simp [letterTreeQueries, Engine.withCaptures, letterQueries, hletters]
  obtain ⟨hgrammar, -, hcaptures⟩ := queries_run_on_their_own_grammar letterQueries wordLife
    wordHost newerWord {} wordOps hnewer rfl hattends
  have hquery : (wordHost.run letterQueries wordOps).session.query.isSome = true := by
    decide +kernel
  obtain ⟨q, hq⟩ := Option.isSome_iff_exists.1 hquery
  exact ⟨hnewer, rfl, hattends, ⟨q, hq, (hgrammar q hq).1⟩, by decide +kernel, by decide +kernel,
    (hcaptures _ hsame).1⟩

end Host

end SyntaxInspector
