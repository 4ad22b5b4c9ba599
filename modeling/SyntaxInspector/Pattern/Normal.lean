import SyntaxInspector.Pattern.Basic

/-!
# Building patterns

Patterns are built in a normal form: sequences are flat and without empty parts, a choice between
sets is one set, repetitions of what takes up no text happen at most once, and what all branches of
a choice begin with stands before the choice. The last rule decides which match is found: after
`.*?b|.*?c` the nearest `b` or `c` ends the match, whichever it is.

* `Pattern.concat`, `Pattern.alternation`, `Pattern.repeated` — the three ways of joining patterns.
-/

namespace SyntaxInspector

namespace Pattern

/-! ### Sequences -/

/-- The parts of a sequence, each no sequence itself. -/
def parts : Pattern → List Pattern
  | .empty => []
  | .seq p q => p.parts ++ q.parts
  | p => [p]

/-- Parts one after the other. -/
def ofParts : List Pattern → Pattern
  | [] => .empty
  | [p] => p
  | p :: ps => .seq p (ofParts ps)

/-- The patterns one after the other, as one flat sequence. -/
def concat (ps : List Pattern) : Pattern := ofParts (ps.flatMap parts)

/-! ### Choices -/

/-- The branches of a choice, each no choice itself. -/
def branches : Pattern → List Pattern
  | .alt p q => p.branches ++ q.branches
  | p => [p]

/-- A choice between branches, the earlier ones preferred. -/
def ofBranches : List Pattern → Pattern
  | [] => .empty
  | [p] => p
  | p :: ps => .alt p (ofBranches ps)

/-- The set that a pattern for single characters matches. -/
def set? : Pattern → Option CharSet
  | .char set => some set
  | _ => none

/-- A choice between branches; between sets, their union. -/
def choice (bs : List Pattern) : Pattern :=
  match bs.mapM set? with
  | some sets => .char (sets.foldl CharSet.union .empty)
  | none => ofBranches bs

/-- What two lists of parts both begin with. -/
def commonParts : List Pattern → List Pattern → List Pattern
  | p :: ps, q :: qs => if p = q then p :: commonParts ps qs else []
  | _, _ => []

/-- What all the branches begin with. A branch that is no sequence has nothing in common with the
others. -/
def sharedParts (bs : List Pattern) : List Pattern :=
  match bs.map parts with
  | [] => []
  | first :: others =>
    if first.length < 2 || others.any (·.length < 2) then [] else others.foldl commonParts first

/-- The first of the patterns that matches. Shared beginnings are matched once, before the choice. -/
def alternation (ps : List Pattern) : Pattern :=
  let bs := ps.flatMap branches
  match bs, sharedParts bs with
  | [p], _ => p
  | _, [] => choice bs
  | _, shared =>
    let rests := bs.map fun b => ofParts (b.parts.drop shared.length)
    concat (shared ++ [choice (rests.flatMap branches)])

/-! ### Repetitions -/

/-- A pattern repeated `least` to `most` times. What takes up no text is tried once at most, since
trying it again changes nothing. -/
def repeated (p : Pattern) (least : Nat) (most : Option Nat) (greedy : Bool) : Pattern :=
  let once := p.maxLength == some 0
  let least := if once then min least 1 else least
  let most := if once then some (min (most.getD 1) 1) else most
  if most == some 0 then .empty
  else if least == 1 && most == some 1 then p
  else .rep p least most greedy

/-! ### Laws -/

@[simp] theorem parts_empty : parts .empty = [] := rfl

@[simp] theorem concat_nil : concat [] = .empty := rfl

@[simp] theorem parts_seq (p q : Pattern) : (seq p q).parts = p.parts ++ q.parts := rfl

@[simp] theorem branches_alt (p q : Pattern) : (alt p q).branches = p.branches ++ q.branches := rfl

/-- No part is a sequence or empty, so it is its own only part. -/
theorem parts_of_mem_parts {p x : Pattern} (h : x ∈ p.parts) : x.parts = [x] := by
  induction p with
  | seq p q ihp ihq =>
    rcases List.mem_append.1 h with h | h
    · exact ihp h
    · exact ihq h
  | empty => simp [parts] at h
  | _ => simp only [parts, List.mem_singleton] at h; subst h; rfl

/-- Putting parts together loses none of them. -/
theorem parts_ofParts (ps : List Pattern) (h : ∀ x ∈ ps, x.parts = [x]) :
    (ofParts ps).parts = ps := by
  induction ps with
  | nil => rfl
  | cons p ps ih =>
    cases ps with
    | nil => exact h p (by simp)
    | cons q qs =>
      have hp : p.parts = [p] := h p (by simp)
      have hqs := ih fun x hx => h x (List.mem_cons_of_mem _ hx)
      simp [ofParts, hp, hqs]

/-- A sequence has the parts of its members, in order. -/
@[simp] theorem parts_concat (ps : List Pattern) : (concat ps).parts = ps.flatMap parts := by
  apply parts_ofParts
  intro x hx
  obtain ⟨p, _, hx⟩ := List.mem_flatMap.1 hx
  exact parts_of_mem_parts hx

end Pattern

end SyntaxInspector
