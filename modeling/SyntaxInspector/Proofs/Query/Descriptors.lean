import SyntaxInspector.Proofs.Text.Splitting
import SyntaxInspector.Query.Descriptor

/-!
# What descriptors are

A text is a descriptor if the parts between its full stops are names of steps, with at most the
last one naming an edge instead. No name has a full stop in it, so a descriptor is written in one
way only and is read back from it.

* `Step.ofName?_eq_some_iff`, `Edge.ofName?_eq_some_iff` — names of steps and edges;
* `Descriptor.parse_eq_ok_iff` — which texts are read as which descriptor;
* `Descriptor.IsPath` — the words that make up descriptors;
* `Descriptor.parse_accepts_paths` — reading and writing.
-/

namespace SyntaxInspector

/-! ### Names -/

theorem Step.ofName?_eq_some_iff {name : String} {step : Step} :
    Step.ofName? name = some step ↔ step.name = name := by
  constructor
  · intro h
    have hname := List.find?_some h
    exact eq_of_beq hname
  · rintro rfl
    cases step <;> rfl

theorem Edge.ofName?_eq_some_iff {name : String} {edge : Edge} :
    Edge.ofName? name = some edge ↔ edge.name = name := by
  constructor
  · intro h
    have hname := List.find?_some h
    exact eq_of_beq hname
  · rintro rfl
    cases edge <;> rfl

/-- No step is named like an edge. -/
theorem Edge.ofName?_stepName (step : Step) : Edge.ofName? step.name = none := by
  cases step <;> rfl

/-! ### Parts -/

namespace Descriptor

@[simp] theorem parts_cons (step : Step) (steps : List Step) (edge : Option Edge) :
    parts ⟨step :: steps, edge⟩ = step.name :: parts ⟨steps, edge⟩ := rfl

variable {whole : String}

theorem ofParts_edgeName (edge : Edge) : ofParts whole [edge.name] = .ok ⟨[], some edge⟩ := by
  rw [ofParts, Edge.ofName?_eq_some_iff.2 rfl]
  rfl

theorem ofParts_stepName (step : Step) (rest : List String) :
    ofParts whole (step.name :: rest) =
      (ofParts whole rest).map fun d => { d with steps := step :: d.steps } := by
  rw [ofParts, Edge.ofName?_stepName, Step.ofName?_eq_some_iff.2 rfl]
  cases ofParts whole rest <;> rfl

/-- The parts of a descriptor are read as this descriptor. -/
theorem ofParts_parts (d : Descriptor) : ofParts whole d.parts = .ok d := by
  obtain ⟨steps, edge⟩ := d
  induction steps with
  | nil =>
    cases edge with
    | none => rfl
    | some edge => exact ofParts_edgeName edge
  | cons step steps ih =>
    rw [parts_cons, ofParts_stepName, ih]
    rfl

/-- What is read has just the parts it was read from. -/
theorem parts_of_ofParts {names : List String} {d : Descriptor}
    (h : ofParts whole names = .ok d) : d.parts = names := by
  induction names generalizing d with
  | nil =>
    cases h
    rfl
  | cons part rest ih =>
    cases hedge : Edge.ofName? part with
    | some edge =>
      rw [ofParts, hedge] at h
      -- an edge comes last
      cases rest with
      | nil =>
        cases h
        rw [← Edge.ofName?_eq_some_iff.1 hedge]
        rfl
      | cons => cases h
    | none =>
      cases hstep : Step.ofName? part with
      | none =>
        rw [ofParts, hedge, hstep] at h
        cases h
      | some step =>
        obtain rfl := Step.ofName?_eq_some_iff.1 hstep
        rw [ofParts_stepName] at h
        cases htail : ofParts whole rest with
        | error e =>
          rw [htail] at h
          cases h
        | ok tail =>
          rw [htail] at h
          cases h
          rw [parts_cons, ih htail]

/-- A text is read as the descriptor whose parts stand between its full stops. -/
theorem parse_eq_ok_iff {text : String} {d : Descriptor} :
    parse text = .ok d ↔ d.parts = splitText (· = '.') text := by
  constructor
  · exact parts_of_ofParts
  · intro h
    rw [parse, ← h, ofParts_parts]

/-! ### Words -/

/-- The words for steps. -/
def stepWords : List String :=
  ["parent", "firstChild", "lastChild", "firstNamedChild", "lastNamedChild", "nextSibling",
   "previousSibling", "nextNamedSibling", "previousNamedSibling"]

/-- The words for edges. -/
def edgeWords : List String := ["startPosition", "endPosition"]

/-- Words make up a descriptor: they are words for steps, perhaps with one for an edge behind them,
and there is at least one. -/
structure IsPath (words : List String) : Prop where
  nonempty : words ≠ []
  spelled : ∃ (steps : List String) (edge : Option String), words = steps ++ edge.toList ∧
    (∀ word ∈ steps, word ∈ stepWords) ∧ ∀ word ∈ edge, word ∈ edgeWords

theorem mem_stepWords_iff {word : String} : word ∈ stepWords ↔ ∃ step : Step, step.name = word := by
  constructor
  · intro h
    obtain ⟨step, -, hname⟩ := List.mem_map.1 (show word ∈ Step.all.map Step.name from h)
    exact ⟨step, hname⟩
  · rintro ⟨step, rfl⟩
    cases step <;> decide

theorem mem_edgeWords_iff {word : String} : word ∈ edgeWords ↔ ∃ edge : Edge, edge.name = word := by
  constructor
  · intro h
    obtain ⟨edge, -, hname⟩ := List.mem_map.1 (show word ∈ [.start, .stop].map Edge.name from h)
    exact ⟨edge, hname⟩
  · rintro ⟨edge, rfl⟩
    cases edge <;> decide

theorem exists_steps {words : List String} (h : ∀ word ∈ words, word ∈ stepWords) :
    ∃ steps : List Step, steps.map Step.name = words := by
  induction words with
  | nil => exact ⟨[], rfl⟩
  | cons word words ih =>
    obtain ⟨hword, hwords⟩ := List.forall_mem_cons.1 h
    obtain ⟨step, rfl⟩ := mem_stepWords_iff.1 hword
    obtain ⟨steps, rfl⟩ := ih hwords
    exact ⟨step :: steps, rfl⟩

theorem exists_edge {edge : Option String} (h : ∀ word ∈ edge, word ∈ edgeWords) :
    ∃ edge' : Option Edge, edge'.map Edge.name = edge := by
  cases edge with
  | none => exact ⟨none, rfl⟩
  | some word =>
    obtain ⟨edge', rfl⟩ := mem_edgeWords_iff.1 (h word rfl)
    exact ⟨some edge', rfl⟩

/-- Such words are the parts of a descriptor. -/
theorem isPath_iff {words : List String} :
    IsPath words ↔ words ≠ [] ∧ ∃ d : Descriptor, d.parts = words := by
  constructor
  · rintro ⟨hne, steps, edge, rfl, hsteps, hedge⟩
    obtain ⟨steps', rfl⟩ := exists_steps hsteps
    obtain ⟨edge', rfl⟩ := exists_edge hedge
    exact ⟨hne, ⟨steps', edge'⟩, rfl⟩
  · rintro ⟨hne, d, rfl⟩
    refine ⟨hne, d.steps.map Step.name, d.edge.map Edge.name, rfl, ?_, ?_⟩
    · intro word hword
      obtain ⟨step, -, rfl⟩ := List.mem_map.1 hword
      exact mem_stepWords_iff.2 ⟨step, rfl⟩
    · intro word hword
      obtain ⟨edge, -, rfl⟩ := Option.map_eq_some_iff.1 hword
      exact mem_edgeWords_iff.2 ⟨edge, rfl⟩

/-! ### Reading what is written -/

theorem parts_ne_nil_iff {d : Descriptor} : d.parts ≠ [] ↔ d.steps ≠ [] ∨ d.edge ≠ none := by
  obtain ⟨steps, edge⟩ := d
  cases steps <;> cases edge <;> simp [parts]

theorem dot_notMem_of_mem_parts {d : Descriptor} {part : String} (h : part ∈ d.parts) :
    '.' ∉ part.toList := by
  rcases List.mem_append.1 h with h | h
  · obtain ⟨step, -, rfl⟩ := List.mem_map.1 h
    cases step <;> decide
  · obtain ⟨edge, -, rfl⟩ := Option.map_eq_some_iff.1 (Option.mem_toList.1 h)
    cases edge <;> decide

theorem text_eq_intercalate (d : Descriptor) : d.text = ".".intercalate d.parts :=
  joinText_eq_intercalate '.' d.parts

/-- A descriptor is written as the text it was read from. -/
theorem text_of_parse {text : String} {d : Descriptor} (h : parse text = .ok d) :
    d.text = text := by
  rw [Descriptor.text, parse_eq_ok_iff.1 h, joinText_splitText]

/-- A descriptor with any part is read from what is written for it. -/
theorem parse_text {d : Descriptor} (h : d.parts ≠ []) : parse d.text = .ok d :=
  parse_eq_ok_iff.2 (splitText_joinText h fun _ => dot_notMem_of_mem_parts).symm

theorem parts_ne_nil_of_parse {text : String} {d : Descriptor} (h : parse text = .ok d) :
    d.parts ≠ [] := by
  rw [parse_eq_ok_iff.1 h]
  exact mt List.map_eq_nil_iff.1 (splitChars_ne_nil _ _)

/-- **Descriptors are read exactly.**

* A text is a descriptor just if it is made of words for steps, perhaps with one for an edge behind
  them, with full stops between them.
* The names of the steps and the edge of a descriptor that was read, with full stops between them,
  are the text it was read from.
* Every descriptor with a step or an edge is read from the text that is written for it so. -/
theorem parse_accepts_paths :
    (∀ text, (∃ d, parse text = .ok d) ↔
      ∃ words, IsPath words ∧ ".".intercalate words = text) ∧
    (∀ text d, parse text = .ok d →
      ".".intercalate (d.steps.map Step.name ++ (d.edge.map Edge.name).toList) = text) ∧
    ∀ d : Descriptor, d.steps ≠ [] ∨ d.edge ≠ none →
      parse (".".intercalate (d.steps.map Step.name ++ (d.edge.map Edge.name).toList)) = .ok d := by
  refine ⟨fun text => ⟨?_, ?_⟩, fun text d h => ?_, fun d h => ?_⟩
  · rintro ⟨d, h⟩
    refine ⟨d.parts, isPath_iff.2 ⟨parts_ne_nil_of_parse h, d, rfl⟩, ?_⟩
    rw [← text_eq_intercalate, text_of_parse h]
  · rintro ⟨words, hpath, rfl⟩
    obtain ⟨hne, d, rfl⟩ := isPath_iff.1 hpath
    exact ⟨d, by rw [← text_eq_intercalate, parse_text hne]⟩
  · exact (text_eq_intercalate d).symm.trans (text_of_parse h)
  · have hparse := parse_text (parts_ne_nil_iff.2 h)
    rwa [text_eq_intercalate] at hparse

/-- A descriptor with a step before its edge, and one that is an edge only. An edge in the middle, a
doubled full stop and the empty text are no descriptors. -/
theorem parse_accepts_paths_firstChild :
    parse "firstChild.endPosition" = .ok ⟨[.firstChild], some .stop⟩ ∧
    parse "startPosition" = .ok ⟨[], some .start⟩ ∧
    (¬ ∃ words, IsPath words ∧ ".".intercalate words = "endPosition.parent") ∧
    (¬ ∃ words, IsPath words ∧ ".".intercalate words = "parent..parent") ∧
    ¬ ∃ words, IsPath words ∧ ".".intercalate words = "" := by
  obtain ⟨haccepts, -, hwritten⟩ := parse_accepts_paths
  have hrefuses : ∀ {text e}, parse text = .error e →
      ¬ ∃ words, IsPath words ∧ ".".intercalate words = text := by
    intro text e herror hpath
    obtain ⟨d, hok⟩ := (haccepts text).2 hpath
    rw [herror] at hok
    cases hok
  refine ⟨hwritten ⟨[.firstChild], some .stop⟩ (.inl (List.cons_ne_nil _ _)),
    hwritten ⟨[], some .start⟩ (.inr (Option.some_ne_none _)), ?_, ?_, ?_⟩
  · exact hrefuses (e := .misplacedEdge "endPosition" "endPosition.parent") rfl
  · exact hrefuses (e := .unknownStep "" "parent..parent") rfl
  · exact hrefuses (e := .unknownStep "" "") rfl

end Descriptor

end SyntaxInspector
