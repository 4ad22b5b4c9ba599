import SyntaxInspector.Scope.Resolver

/-!
# Claims as a history

A resolver keeps, for each range, the captures that have had it and whether one of them was final.
That sums up the whole history of a range since the last reset: whether a request is granted can be
said from the earlier grants alone, whatever queries, trees and texts they came from.

* `Request`, `Request.AsksFor` — what a resolver is asked, and the range a request is after;
* `Grant.LeavesTo` — an earlier grant does not stand in the way of a later request;
* `Resolver.Records` — the invariant: the claims are what a history of grants comes to;
* `Resolver.answers_follow_history` — all sequences of requests.
-/

namespace SyntaxInspector

/-! ### Requests and grants -/

/-- What a resolver is asked: a range for a capture of some query run. -/
structure Request where
  /-- The query. -/
  query : CompiledQuery
  /-- The tree it was run on. -/
  tree : SyntaxTree
  /-- The text of the tree. -/
  text : String
  /-- The capture. -/
  capture : Capture

namespace Request

/-- The rules of the capture's pattern. -/
def rules (q : Request) : PatternRules := q.query.rulesFor q.capture.patternIndex

/-- The capture, by index. -/
def name (q : Request) : Nat := q.capture.nameIndex

/-- Whether the capture takes its range for good. -/
def isFinal (q : Request) : Bool := q.rules.hasClaim q.name .final

/-- Whether the capture only takes a range that nobody has had. -/
def isShy (q : Request) : Bool := q.rules.hasClaim q.name .shy

/-- The range that a request is after. -/
structure AsksFor (q : Request) (range : Range) : Prop where
  /-- The node passes all tests for the capture. -/
  tests : ∀ test ∈ q.rules.testsFor q.name, test.passes q.tree q.capture.node = true
  /-- The adjustments for the capture, in order, lead from the node's range to this one. -/
  span : ∃ s, Span.adjustAll? q.tree q.capture.node q.text (.ofNode q.capture.node.data)
    (q.rules.adjustmentsFor q.name) = some s ∧ s.range = range
  /-- If there are any, they leave something. -/
  nonempty : q.rules.adjustmentsFor q.name ≠ [] → range.isEmpty = false

theorem candidate?_eq (q : Request) :
    candidate? q.query q.tree q.text q.capture =
      if (q.rules.testsFor q.name).all (·.passes q.tree q.capture.node) then
        match Span.adjustAll? q.tree q.capture.node q.text (.ofNode q.capture.node.data)
          (q.rules.adjustmentsFor q.name) with
        | none => none
        | some s =>
          if !(q.rules.adjustmentsFor q.name).isEmpty && s.range.isEmpty then none
          else some s.range
      else none := rfl

theorem candidate?_eq_some_iff {q : Request} {range : Range} :
    candidate? q.query q.tree q.text q.capture = some range ↔ q.AsksFor range := by
  rw [candidate?_eq]
  constructor
  · intro h
    split at h
    · rename_i htests
      split at h
      · cases h
      · rename_i s hspan
        split at h
        · cases h
        · rename_i hempty
          cases h
          exact ⟨List.all_eq_true.1 htests, ⟨s, hspan, rfl⟩, by simpa using hempty⟩
    · cases h
  · rintro ⟨htests, ⟨s, hspan, rfl⟩, hempty⟩
    rw [if_pos (List.all_eq_true.2 htests), hspan]
    exact if_neg (by simpa using hempty)

end Request

/-- A request that got a range. -/
structure Grant where
  /-- The request. -/
  request : Request
  /-- What it got. -/
  range : Range

/-- A grant leaves its range to a later request. -/
structure Grant.LeavesTo (g : Grant) (q : Request) : Prop where
  /-- The range was not taken for good. -/
  final : g.request.isFinal = false
  /-- It went to another capture. -/
  name : g.request.name ≠ q.name
  /-- The later request does not mind that others have had the range. -/
  shy : q.isShy = false

namespace Resolver

/-- Answers a request. -/
def answer (r : Resolver) (q : Request) : Resolver × Option Range :=
  r.resolve q.query q.tree q.text q.capture

/-- The resolver after some requests. -/
def after (r : Resolver) (qs : List Request) : Resolver := qs.foldl (fun r q => (r.answer q).1) r

/-- What the answer to a request grants, if anything. -/
def granted (r : Resolver) (q : Request) : List Grant := ((r.answer q).2.map (Grant.mk q)).toList

/-- The grants while requests are answered in order. -/
def grants : Resolver → List Request → List Grant
  | _, [] => []
  | r, q :: qs => r.granted q ++ grants (r.answer q).1 qs

variable {r : Resolver} {q : Request} {range : Range} {given : List Grant}

theorem answer_eq (r : Resolver) (q : Request) :
    r.answer q = match candidate? q.query q.tree q.text q.capture with
      | none => (r, none)
      | some range => r.claim range q.name q.isShy q.isFinal := rfl

/-- A request gets the range it is after, unless it is refused; then nothing changes. -/
theorem answer_cases (r : Resolver) (q : Request) :
    r.answer q = (r, none) ∧ (∀ range, q.AsksFor range → r.refuses range q.name q.isShy = true) ∨
    ∃ range, q.AsksFor range ∧ r.refuses range q.name q.isShy = false ∧
      r.answer q = (⟨record range q.name q.isFinal r.claimed⟩, some range) := by
  rw [answer_eq]
  cases hcandidate : candidate? q.query q.tree q.text q.capture with
  | none =>
    refine .inl ⟨rfl, fun range hasks => ?_⟩
    rw [Request.candidate?_eq_some_iff.2 hasks] at hcandidate
    cases hcandidate
  | some range =>
    have hasks := Request.candidate?_eq_some_iff.1 hcandidate
    cases hrefuses : r.refuses range q.name q.isShy with
    | false => exact .inr ⟨range, hasks, hrefuses, by simp [claim, hrefuses]⟩
    | true =>
      refine .inl ⟨by simp [claim, hrefuses], fun range' hasks' => ?_⟩
      -- a request is after one range at most
      rw [Request.candidate?_eq_some_iff.2 hasks'] at hcandidate
      cases hcandidate
      exact hrefuses

/-- A request that gets nothing changes nothing. -/
theorem answer_of_none (h : (r.answer q).2 = none) : (r.answer q).1 = r := by
  rcases answer_cases r q with ⟨heq, -⟩ | ⟨range, -, -, heq⟩
  · rw [heq]
  · rw [heq] at h
    cases h

/-! ### What a history comes to -/

/-- The claims on a range after one more. -/
def extended (range : Range) (name : Nat) (isFinal : Bool) : Option ClaimedRange → ClaimedRange
  | none => ⟨range, [name], isFinal⟩
  | some c => { c with names := c.names ++ [name], isFinal := c.isFinal || isFinal }

theorem find?_record (range range' : Range) (name : Nat) (isFinal : Bool)
    (cs : List ClaimedRange) :
    (record range name isFinal cs).find? (·.range == range') =
      if range = range' then some (extended range name isFinal (cs.find? (·.range == range)))
      else cs.find? (·.range == range') := by
  induction cs with
  | nil => by_cases h : range = range' <;> simp [record, extended, h]
  | cons c cs ih =>
    rw [record]
    by_cases hc : c.range = range
    · by_cases h : range = range' <;> simp [hc, extended, h]
    · by_cases h : range = range'
      · subst h
        simpa [hc] using ih
      · rw [if_neg hc, if_neg h, List.find?_cons, List.find?_cons, ih, if_neg h]

/-- The claims on a range that a history of grants comes to. -/
def claimedBy (given : List Grant) (range : Range) : Option ClaimedRange :=
  match given.filter (·.range = range) with
  | [] => none
  | g :: gs => some ⟨range, (g :: gs).map (·.request.name), (g :: gs).any (·.request.isFinal)⟩

theorem claimedBy_concat (given : List Grant) (g : Grant) (range : Range) :
    claimedBy (given ++ [g]) range =
      if g.range = range then
        some (extended range g.request.name g.request.isFinal (claimedBy given range))
      else claimedBy given range := by
  unfold claimedBy
  rw [List.filter_append]
  by_cases h : g.range = range
  · cases given.filter (·.range = range) <;> simp [h, extended, Bool.or_assoc]
  · simp [h]

/-- The claims of a resolver are what a history of grants comes to. -/
def Records (r : Resolver) (given : List Grant) : Prop :=
  ∀ range, r.find? range = claimedBy given range

theorem records_reset (r : Resolver) : r.reset.Records [] := fun _ => rfl

/-- The claims that some grants come to stand in nobody's way just if no grant does. -/
theorem leavesTo_iff_of_ne_nil {gs : List Grant} (hne : gs ≠ []) (q : Request) :
    (gs.any (·.request.isFinal) || q.isShy || (gs.map (·.request.name)).contains q.name) = false ↔
      ∀ g ∈ gs, g.LeavesTo q := by
  rw [Bool.or_eq_false_iff, Bool.or_eq_false_iff, List.any_eq_false, List.contains_eq_mem,
    decide_eq_false_iff_not, List.mem_map]
  constructor
  · rintro ⟨⟨hfinal, hshy⟩, hname⟩ g hg
    exact ⟨by simpa using hfinal g hg, fun heq => hname ⟨g, hg, heq⟩, hshy⟩
  · intro hleaves
    obtain ⟨g₀, hg₀⟩ := List.exists_mem_of_ne_nil gs hne
    refine ⟨⟨fun g hg => by simp [(hleaves g hg).final], (hleaves g₀ hg₀).shy⟩, ?_⟩
    rintro ⟨g, hg, heq⟩
    exact (hleaves g hg).name heq

/-- A range is refused just if one of its grants stands in the way. -/
theorem Records.refuses_eq_false_iff (h : r.Records given) :
    r.refuses range q.name q.isShy = false ↔
      ∀ g ∈ given, g.range = range → g.LeavesTo q := by
  have hon : (∀ g ∈ given, g.range = range → g.LeavesTo q) ↔
      ∀ g ∈ given.filter (·.range = range), g.LeavesTo q := by
    simp only [List.mem_filter, decide_eq_true_eq, and_imp]
  rw [hon, refuses, h range, claimedBy]
  cases given.filter (·.range = range) with
  | nil => simp
  | cons g gs => exact leavesTo_iff_of_ne_nil (List.cons_ne_nil g gs) q

/-- A request gets the range it is after just if all earlier grants of the range leave it. -/
theorem Records.answer_eq_some_iff (h : r.Records given) :
    (r.answer q).2 = some range ↔
      q.AsksFor range ∧ ∀ g ∈ given, g.range = range → g.LeavesTo q := by
  rw [← h.refuses_eq_false_iff]
  rcases answer_cases r q with ⟨heq, hrefuses⟩ | ⟨range', hasks, hclear, heq⟩
  · rw [heq]
    constructor
    · rintro ⟨⟩
    · rintro ⟨hasks, hclear⟩
      rw [hrefuses range hasks] at hclear
      cases hclear
  · rw [heq]
    constructor
    · rintro ⟨rfl⟩
      exact ⟨hasks, hclear⟩
    · rintro ⟨hasks', -⟩
      have hsame := Request.candidate?_eq_some_iff.2 hasks
      rw [Request.candidate?_eq_some_iff.2 hasks'] at hsame
      exact hsame.symm

/-- What a request is granted goes into the history. -/
theorem Records.answer (h : r.Records given) (q : Request) :
    (r.answer q).1.Records (given ++ r.granted q) := by
  unfold granted
  rcases answer_cases r q with ⟨heq, -⟩ | ⟨range, -, -, heq⟩
  · rw [heq]
    simpa using h
  · rw [heq]
    intro range'
    change (record range q.name q.isFinal r.claimed).find? (·.range == range') =
      claimedBy (given ++ [⟨q, range⟩]) range'
    have hrange : r.claimed.find? (·.range == range) = claimedBy given range := h range
    have hrange' : r.claimed.find? (·.range == range') = claimedBy given range' := h range'
    rw [find?_record, claimedBy_concat, hrange, hrange']
    by_cases hsame : range = range'
    · subst hsame
      rfl
    · rw [if_neg hsame, if_neg hsame]

/-- So the claims are the history of all that was granted. -/
theorem Records.after (h : r.Records given) (qs : List Request) :
    (r.after qs).Records (given ++ r.grants qs) := by
  induction qs generalizing r given with
  | nil => simpa [Resolver.after, grants] using h
  | cons q qs ih =>
    rw [grants, ← List.append_assoc]
    exact ih (h.answer q)

/-- Each grant leaves its range to all later ones. -/
theorem Records.pairwise_grants (h : r.Records given) (qs : List Request)
    (hgiven : given.Pairwise fun g g' => g.range = g'.range → g.LeavesTo g'.request) :
    (given ++ r.grants qs).Pairwise fun g g' => g.range = g'.range → g.LeavesTo g'.request := by
  induction qs generalizing r given with
  | nil => simpa [grants] using hgiven
  | cons q qs ih =>
    rw [grants, ← List.append_assoc]
    refine ih (h.answer q) (List.pairwise_append.2 ⟨hgiven, ?_, ?_⟩)
    · unfold granted
      cases (r.answer q).2 <;> simp
    · intro g hg g' hnew
      obtain ⟨range, hanswer, rfl⟩ : ∃ range, (r.answer q).2 = some range ∧ ⟨q, range⟩ = g' := by
        simpa [granted] using hnew
      exact (h.answer_eq_some_iff.1 hanswer).2 g hg

theorem pairwise_grants_reset (r : Resolver) (qs : List Request) :
    (r.reset.grants qs).Pairwise fun g g' => g.range = g'.range → g.LeavesTo g'.request := by
  simpa using r.records_reset.pairwise_grants qs List.Pairwise.nil

/-- No capture gets a range twice. -/
theorem nodup_grants_reset (r : Resolver) (qs : List Request) :
    ((r.reset.grants qs).map fun g => (g.request.name, g.range)).Nodup := by
  refine List.pairwise_map.2 ((r.pairwise_grants_reset qs).imp fun {g g'} hleaves heq => ?_)
  obtain ⟨hname, hrange⟩ := Prod.mk.inj heq
  exact (hleaves hrange).name hname

/-- **Answers follow the history.** Reset a resolver, and let it answer any requests.

* The next request gets a range just if it is after that range, and among the earlier requests that
  got the range none was final, none was for the same capture, and, if this one is shy, there was
  none at all.
* A request that gets nothing leaves the resolver as it is.
* No capture gets a range twice, and nothing gets a range after a final capture got it. -/
theorem answers_follow_history (r : Resolver) (earlier : List Request) (q : Request) :
    let given := r.reset.grants earlier
    let s := r.reset.after earlier
    (∀ range, (s.answer q).2 = some range ↔
      q.AsksFor range ∧ ∀ g ∈ given, g.range = range → g.LeavesTo q) ∧
    ((s.answer q).2 = none → (s.answer q).1 = s) ∧
    (given.map fun g => (g.request.name, g.range)).Nodup ∧
    given.Pairwise fun g g' => g.request.isFinal = true → g'.range ≠ g.range := by
  intro given s
  have hrecords : s.Records given := by simpa using r.records_reset.after earlier
  refine ⟨fun range => hrecords.answer_eq_some_iff, answer_of_none, r.nodup_grants_reset earlier,
    (r.pairwise_grants_reset earlier).imp fun {g g'} hleaves hfinal hrange => ?_⟩
  rw [(hleaves hrange.symm).final] at hfinal
  cases hfinal

end Resolver

/-- A tree that is a number and nothing else. -/
def numberTree : SyntaxTree :=
  ⟨0, .mk ⟨"number", true, false, none, ⟨⟨0, 0⟩, ⟨0, 1⟩⟩, 0, 1, .plain 1⟩ [], []⟩

/-- Three captures of numbers: the second is final and the third is shy. -/
def rivalQuery : CompiledQuery :=
  ⟨"json", "(number) @a ((number) @b (#set! capture.final)) ((number) @c (#set! capture.shy))",
    ["a", "b", "c"],
    [{}, { claims := [⟨none, .final⟩] }, { claims := [⟨none, .shy⟩] }]⟩

/-- One of the three captures asks for the number. -/
def rival (index : Nat) : Request :=
  ⟨rivalQuery, numberTree, "1", ⟨index, index, numberTree.walk⟩⟩

/-- After the first of the three, the second gets the number as well, but the third does not. After
the second, the first gets it no more. -/
theorem Resolver.answers_follow_history_rivals :
    ((({} : Resolver).reset.after [rival 0]).answer (rival 1)).2 = some ⟨⟨0, 0⟩, ⟨0, 1⟩⟩ ∧
    ((({} : Resolver).reset.after [rival 0]).answer (rival 2)).2 ≠ some ⟨⟨0, 0⟩, ⟨0, 1⟩⟩ ∧
    ((({} : Resolver).reset.after [rival 1]).answer (rival 0)).2 ≠ some ⟨⟨0, 0⟩, ⟨0, 1⟩⟩ := by
  have hsecond := (answers_follow_history {} [rival 0] (rival 1)).1 ⟨⟨0, 0⟩, ⟨0, 1⟩⟩
  have hthird := (answers_follow_history {} [rival 0] (rival 2)).1 ⟨⟨0, 0⟩, ⟨0, 1⟩⟩
  have hfirst := (answers_follow_history {} [rival 1] (rival 0)).1 ⟨⟨0, 0⟩, ⟨0, 1⟩⟩
  refine ⟨hsecond.2 ⟨⟨?_, ⟨_, rfl, rfl⟩, fun _ => rfl⟩, ?_⟩, ?_, ?_⟩
  · intro test htest
    cases htest
  · intro g hg _
    obtain rfl : g = ⟨rival 0, ⟨⟨0, 0⟩, ⟨0, 1⟩⟩⟩ := List.mem_singleton.1 hg
    exact ⟨rfl, by decide, rfl⟩
  · intro hgets
    have hleaves := (hthird.1 hgets).2 ⟨rival 0, ⟨⟨0, 0⟩, ⟨0, 1⟩⟩⟩ List.mem_cons_self rfl
    cases hleaves.shy
  · intro hgets
    have hleaves := (hfirst.1 hgets).2 ⟨rival 1, ⟨⟨0, 0⟩, ⟨0, 1⟩⟩⟩ List.mem_cons_self rfl
    cases hleaves.final

end SyntaxInspector
