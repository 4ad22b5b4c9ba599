import Mathlib.Data.List.Forall2
import Mathlib.Data.List.Induction
import SyntaxInspector.Proofs.Language.Distance

/-!
# Suggested languages

A misspelt name is compared with all names of all languages. The suggestion is the first language
that is as close to it as any, if some name is at most two edits away.

* `Language.distanceTo?_eq_some_iff` — how far a language is from a name;
* `Language.exists_of_closest?` — the first candidate of the closest ones;
* `Language.isSome_suggest?_iff`, `Language.exists_of_suggest?` — when something is suggested, and
  what it is;
* `Language.suggest?_eq_of_sameButSigmas` — the two small sigmas are equally far from all names;
* `Language.suggestions_use_edit_distance` — which language is suggested.
-/

namespace SyntaxInspector

theorem leastOf?_eq_min? (ns : List Nat) : leastOf? ns = ns.min? := by
  cases ns <;> rfl

/-- Characters that stand in the same places of a list make the same difference to it. -/
theorem editDistance_congr_right {as bs bs' : List Char}
    (h : List.Forall₂ (fun b b' => ∀ a ∈ as, a = b ↔ a = b') bs bs') :
    editDistance as bs = editDistance as bs' := by
  induction as generalizing bs bs' with
  | nil => simp [h.length_eq]
  | cons a as ih =>
    have htail : ∀ {cs cs'}, List.Forall₂ (fun b b' => ∀ c ∈ a :: as, c = b ↔ c = b') cs cs' →
        editDistance as cs = editDistance as cs' :=
      fun hcs => ih (hcs.imp fun _ _ heq c hc => heq c (List.mem_cons_of_mem a hc))
    induction h with
    | nil => rfl
    | @cons b b' bs bs' hb hbs ihinner =>
      have heq : a = b ↔ a = b' := hb a List.mem_cons_self
      rw [editDistance_cons_cons, editDistance_cons_cons, htail (.cons hb hbs), htail hbs, ihinner]
      simp only [heq]

namespace Language

variable {l : Language} {name : String} {n : Nat} {c : Nat × Language}
  {cs : List (Nat × Language)}

/-! ### One language -/

/-- A language is as far from a name as the closest of its aliases. -/
theorem distanceTo?_eq_some_iff :
    l.distanceTo? name = some n ↔
      (∃ a ∈ l.aliases, editDistance a.toList name.toList = n) ∧
      ∀ a ∈ l.aliases, n ≤ editDistance a.toList name.toList := by
  simp [distanceTo?, leastOf?_eq_min?, List.min?_eq_some_iff, tableDistance_eq]

/-- A language as a candidate for a lowercased name, with its distance; none if it is too far. -/
def candidate? (name : String) (l : Language) : Option (Nat × Language) :=
  match l.distanceTo? name with
  | some n => if n ≤ 2 then some (n, l) else none
  | none => none

theorem suggest?_eq (name : String) :
    suggest? name =
      (closest? (all.filterMap (candidate? (lowercase name)))).map fun c => c.2.name := rfl

theorem candidate?_eq_some_iff :
    candidate? name l = some c ↔ c.1 ≤ 2 ∧ c.2 = l ∧ l.distanceTo? name = some c.1 := by
  obtain ⟨k, m⟩ := c
  unfold candidate?
  cases l.distanceTo? name with
  | none => simp
  | some n =>
    by_cases hn : n ≤ 2
    · simp only [hn, if_true, Option.some.injEq, Prod.mk.injEq]
      constructor
      · rintro ⟨rfl, rfl⟩
        exact ⟨hn, rfl, rfl⟩
      · rintro ⟨-, rfl, rfl⟩
        exact ⟨rfl, rfl⟩
    · simp only [hn, if_false, Option.some.injEq]
      constructor
      · nofun
      · rintro ⟨hk, -, rfl⟩
        exact absurd hk hn

/-- A language is no candidate if all its aliases are too far. -/
theorem candidate?_eq_none_iff :
    candidate? name l = none ↔ ∀ a ∈ l.aliases, 2 < editDistance a.toList name.toList := by
  constructor
  · intro h a ha
    by_contra hle
    have hne : (l.aliases.map fun a => tableDistance a.toList name.toList) ≠ [] := by
      simpa using List.ne_nil_of_mem ha
    obtain ⟨n, hn⟩ := Option.isSome_iff_exists.1 (List.isSome_min?_of_ne_nil hne)
    rw [← leastOf?_eq_min?] at hn
    have hle' : n ≤ editDistance a.toList name.toList := (distanceTo?_eq_some_iff.1 hn).2 a ha
    have hsome : candidate? name l = some (n, l) :=
      candidate?_eq_some_iff.2 ⟨by omega, rfl, hn⟩
    rw [h] at hsome
    cases hsome
  · intro h
    rw [Option.eq_none_iff_forall_ne_some]
    intro c hc
    obtain ⟨hle, -, hc⟩ := candidate?_eq_some_iff.1 hc
    obtain ⟨⟨a, ha, heq⟩, -⟩ := distanceTo?_eq_some_iff.1 hc
    have hlt := h a ha
    omega

/-- All aliases are at least as far as the language if it is a candidate, and farther than any
candidate if it is none. -/
theorem le_editDistance_of_candidate? {k : Nat} (hk : k ≤ 3)
    (h : ∀ c, candidate? name l = some c → k ≤ c.1) {a : String} (ha : a ∈ l.aliases) :
    k ≤ editDistance a.toList name.toList := by
  cases hcandidate : candidate? name l with
  | none => exact hk.trans (candidate?_eq_none_iff.1 hcandidate a ha)
  | some c =>
    obtain ⟨-, -, hdistance⟩ := candidate?_eq_some_iff.1 hcandidate
    exact (h c hcandidate).trans ((distanceTo?_eq_some_iff.1 hdistance).2 a ha)

/-! ### The two small sigmas

At the end of a word a capital sigma has another small form than elsewhere, which `lowercase` does
not tell apart. No name has either of them, so that a suggestion does not depend on it. -/

/-- Texts that differ at most in which of the two small sigmas they have. -/
def SameButSigmas (s t : String) : Prop :=
  List.Forall₂ (fun c d => c = d ∨ c ∈ ['σ', 'ς'] ∧ d ∈ ['σ', 'ς']) s.toList t.toList

theorem notMem_aliases_of_sigma : ∀ l ∈ all, ∀ a ∈ l.aliases, ∀ c ∈ a.toList, c ∉ ['σ', 'ς'] := by
  have hall : (all.all fun l => l.aliases.all fun a => a.toList.all (· ∉ ['σ', 'ς'])) = true := by
    decide +kernel
  simpa only [List.all_eq_true, decide_eq_true_eq] using hall

/-- No name is nearer to one small sigma than to the other. -/
theorem editDistance_alias_congr {s t : String} (h : SameButSigmas s t) (hl : l ∈ all) {a : String}
    (ha : a ∈ l.aliases) :
    editDistance a.toList s.toList = editDistance a.toList t.toList := by
  refine editDistance_congr_right (h.imp fun c d hcd b hb => ?_)
  rcases hcd with rfl | ⟨hc, hd⟩
  · exact Iff.rfl
  · have hb := notMem_aliases_of_sigma l hl a ha b hb
    exact iff_of_false (fun heq => hb (heq ▸ hc)) (fun heq => hb (heq ▸ hd))

/-- So the candidates are the same. -/
theorem filterMap_candidate?_congr {s t : String} (h : SameButSigmas s t) :
    all.filterMap (candidate? s) = all.filterMap (candidate? t) := by
  refine List.filterMap_congr fun l hl => ?_
  have hdistance : l.distanceTo? s = l.distanceTo? t := by
    refine congrArg leastOf? (List.map_congr_left fun a ha => ?_)
    rw [tableDistance_eq, tableDistance_eq, editDistance_alias_congr h hl ha]
  rw [candidate?, candidate?, hdistance]

/-- It makes no difference which form a capital sigma gets. -/
theorem suggest?_eq_of_sameButSigmas {lowered : String}
    (h : SameButSigmas lowered (lowercase name)) :
    suggest? name = (closest? (all.filterMap (candidate? lowered))).map fun c => c.2.name := by
  rw [suggest?_eq, filterMap_candidate?_congr h]

/-! ### The closest candidate -/

/-- What is kept of candidates is the first of the closest ones: those before are farther, and none
after is closer. -/
theorem exists_of_foldl_closest (c : Nat × Language) (cs : List (Nat × Language)) :
    ∃ before after, c :: cs =
        before ++ cs.foldl (fun best d => if d.1 < best.1 then d else best) c :: after ∧
      (∀ d ∈ before, (cs.foldl (fun best d => if d.1 < best.1 then d else best) c).1 < d.1) ∧
      ∀ d ∈ after, (cs.foldl (fun best d => if d.1 < best.1 then d else best) c).1 ≤ d.1 := by
  induction cs using List.reverseRecOn with
  | nil => exact ⟨[], [], rfl, nofun, nofun⟩
  | append_singleton cs d ih =>
    obtain ⟨before, after, hsplit, hbefore, hafter⟩ := ih
    rw [List.foldl_concat, ← List.cons_append]
    generalize cs.foldl (fun best d => if d.1 < best.1 then d else best) c = best at *
    by_cases hlt : d.1 < best.1
    · -- the new candidate is closer than all before it
      rw [if_pos hlt]
      refine ⟨c :: cs, [], rfl, fun e he => ?_, nofun⟩
      rw [hsplit] at he
      rcases List.mem_append.1 he with hmem | hmem
      · exact hlt.trans (hbefore e hmem)
      · rcases List.mem_cons.1 hmem with rfl | hmem
        · exact hlt
        · exact Nat.lt_of_lt_of_le hlt (hafter e hmem)
    · rw [if_neg hlt, hsplit]
      refine ⟨before, after ++ [d], by simp, hbefore, fun e he => ?_⟩
      rcases List.mem_append.1 he with hmem | hmem
      · exact hafter e hmem
      · rw [List.mem_singleton.1 hmem]
        exact Nat.le_of_not_lt hlt

theorem exists_of_closest? (h : closest? cs = some c) :
    ∃ before after, cs = before ++ c :: after ∧ (∀ d ∈ before, c.1 < d.1) ∧
      ∀ d ∈ after, c.1 ≤ d.1 := by
  cases cs with
  | nil => cases h
  | cons d cs =>
    cases h
    exact exists_of_foldl_closest d cs

theorem closest?_eq_none_iff : closest? cs = none ↔ cs = [] := by
  cases cs <;> simp [closest?]

/-- Among any languages, those listed before the closest candidate are farther from the name, and
none listed after it is closer. -/
theorem exists_of_closest?_filterMap {ls : List Language}
    (h : closest? (ls.filterMap (candidate? name)) = some c) :
    ∃ before after, ls = before ++ c.2 :: after ∧
      (c.1 ≤ 2 ∧ c.2.distanceTo? name = some c.1) ∧
      (∀ m ∈ before, ∀ b ∈ m.aliases, c.1 < editDistance b.toList name.toList) ∧
      ∀ m ∈ after, ∀ b ∈ m.aliases, c.1 ≤ editDistance b.toList name.toList := by
  obtain ⟨before, after, hsplit, hbefore, hafter⟩ := exists_of_closest? h
  obtain ⟨ls₁, rest, rfl, rfl, hrest⟩ := List.filterMap_eq_append_iff.1 hsplit
  obtain ⟨skipped, l, ls₂, rfl, hskipped, hl, rfl⟩ := List.filterMap_eq_cons_iff.1 hrest
  obtain ⟨hle, rfl, hdistance⟩ := candidate?_eq_some_iff.1 hl
  refine ⟨ls₁ ++ skipped, ls₂, by simp, ⟨hle, hdistance⟩, fun m hm b hb => ?_, fun m hm b hb => ?_⟩
  · refine le_editDistance_of_candidate? (Nat.succ_le_succ hle) (fun d hd => ?_) hb
    rcases List.mem_append.1 hm with hmem | hmem
    · exact hbefore d (List.mem_filterMap.2 ⟨m, hmem, hd⟩)
    · -- the languages skipped are no candidates
      rw [hskipped m hmem] at hd
      cases hd
  · exact le_editDistance_of_candidate? (Nat.le_succ_of_le hle)
      (fun d hd => hafter d (List.mem_filterMap.2 ⟨m, hm, hd⟩)) hb

/-! ### What is suggested -/

/-- There is a suggestion if there is something to suggest. -/
theorem isSome_suggest?_iff :
    (suggest? name).isSome = true ↔
      ∃ l ∈ all, ∃ a ∈ l.aliases, editDistance a.toList (lowercase name).toList ≤ 2 := by
  rw [suggest?_eq, Option.isSome_map, Option.isSome_iff_ne_none, ne_eq, closest?_eq_none_iff,
    List.filterMap_eq_nil_iff]
  simp only [candidate?_eq_none_iff]
  push Not
  rfl

/-- An alias of the suggested language is the closest of all aliases, and those listed before are
farther. -/
theorem exists_of_suggest? {s : String} (h : suggest? name = some s) :
    ∃ before l after, all = before ++ l :: after ∧ l.name = s ∧
      ∃ a ∈ l.aliases, editDistance a.toList (lowercase name).toList ≤ 2 ∧
        (∀ m ∈ all, ∀ b ∈ m.aliases, editDistance a.toList (lowercase name).toList ≤
          editDistance b.toList (lowercase name).toList) ∧
        ∀ m ∈ before, ∀ b ∈ m.aliases, editDistance a.toList (lowercase name).toList <
          editDistance b.toList (lowercase name).toList := by
  rw [suggest?_eq] at h
  obtain ⟨c, hc, rfl⟩ := Option.map_eq_some_iff.1 h
  obtain ⟨before, after, hall, ⟨hle, hdistance⟩, hbefore, hafter⟩ := exists_of_closest?_filterMap hc
  obtain ⟨⟨a, ha, heq⟩, hleast⟩ := distanceTo?_eq_some_iff.1 hdistance
  rw [← heq] at hle hbefore hafter hleast
  refine ⟨before, c.2, after, hall, rfl, a, ha, hle, fun m hm b hb => ?_, hbefore⟩
  rw [hall] at hm
  rcases List.mem_append.1 hm with hmem | hmem
  · exact Nat.le_of_lt (hbefore m hmem b hb)
  · rcases List.mem_cons.1 hmem with rfl | hmem
    · exact hleast b hb
    · exact hafter m hmem b hb

/-- **Suggestions use the edit distance.** The rows of distances between prefixes come to what the
recursion says, which is the least number of edits that lead from one text to the other. It is the
same both ways, and it is zero for equal texts alone.

A language is suggested exactly if some alias of some language is at most two edits from the
lowercased name. What is suggested is a language with such an alias that no alias of any language is
closer, while all aliases of the languages listed before it are farther. Whichever small form the
capital sigmas of the name get, no distance to an alias is another one and the same is suggested. -/
theorem suggestions_use_edit_distance :
    (∀ a b : String,
      tableDistance a.toList b.toList = editDistance a.toList b.toList ∧
      IsLeast {n | Edits n a.toList b.toList} (tableDistance a.toList b.toList) ∧
      tableDistance a.toList b.toList = tableDistance b.toList a.toList ∧
      (tableDistance a.toList b.toList = 0 ↔ a = b)) ∧
    (∀ name : String,
      ((suggest? name).isSome = true ↔
        ∃ l ∈ all, ∃ a ∈ l.aliases, editDistance a.toList (lowercase name).toList ≤ 2) ∧
      ∀ s, suggest? name = some s → ∃ before l after, all = before ++ l :: after ∧ l.name = s ∧
        ∃ a ∈ l.aliases, editDistance a.toList (lowercase name).toList ≤ 2 ∧
          (∀ m ∈ all, ∀ b ∈ m.aliases, editDistance a.toList (lowercase name).toList ≤
            editDistance b.toList (lowercase name).toList) ∧
          ∀ m ∈ before, ∀ b ∈ m.aliases, editDistance a.toList (lowercase name).toList <
            editDistance b.toList (lowercase name).toList) ∧
    ∀ name lowered : String, SameButSigmas lowered (lowercase name) →
      (∀ l ∈ all, ∀ a ∈ l.aliases,
        editDistance a.toList lowered.toList = editDistance a.toList (lowercase name).toList) ∧
      suggest? name = (closest? (all.filterMap (candidate? lowered))).map fun c => c.2.name := by
  refine ⟨?_, fun name => ⟨isSome_suggest?_iff, fun s => exists_of_suggest?⟩, fun name lowered h =>
    ⟨fun l hl a ha => editDistance_alias_congr h hl ha, suggest?_eq_of_sameButSigmas h⟩⟩
  · intro a b
    refine ⟨tableDistance_eq _ _, ?_⟩
    simp only [tableDistance_eq]
    exact ⟨isLeast_editDistance _ _, editDistance_comm _ _,
      editDistance_eq_zero_iff.trans String.toList_inj⟩

/-- A letter too many and a wrong one, both in capitals, are near enough to be understood. So is a
sigma at the end of a word, whose small form is another one there. -/
theorem suggestions_use_edit_distance_jsomm :
    (suggest? "JSOMM").isSome = true ∧ (∃ l ∈ all, l.name = "json" ∧
      ∃ a ∈ l.aliases, ∀ m ∈ all, ∀ b ∈ m.aliases,
        editDistance a.toList (lowercase "JSOMM").toList ≤
          editDistance b.toList (lowercase "JSOMM").toList) ∧
    SameButSigmas "jsoς" (lowercase "JSOΣ") ∧
    (closest? (all.filterMap (candidate? "jsoς"))).map (fun c => c.2.name) = some "json" := by
  have h := suggestions_use_edit_distance.2.1 "JSOMM"
  have hjson : suggest? "JSOMM" = some "json" := by decide +kernel
  have hsigma : SameButSigmas "jsoς" (lowercase "JSOΣ") := by
    have hlowered : (lowercase "JSOΣ").toList = ['j', 's', 'o', 'σ'] := by decide +kernel
    rw [SameButSigmas, hlowered]
    exact .cons (.inl rfl) (.cons (.inl rfl) (.cons (.inl rfl) (.cons (.inr (by decide)) .nil)))
  refine ⟨?_, ?_, hsigma, ?_⟩
  · refine h.1.2 ⟨⟨"json", ["json"], ["json"]⟩, by decide +kernel, "json", by decide +kernel, ?_⟩
    rw [← tableDistance_eq]
    decide +kernel
  · obtain ⟨before, l, after, hall, hl, a, ha, -, hclosest, -⟩ := h.2 "json" hjson
    have hmem : l ∈ all := hall ▸ List.mem_append_right _ List.mem_cons_self
    exact ⟨l, hmem, hl, a, ha, hclosest⟩
  · rw [← (suggestions_use_edit_distance.2.2 "JSOΣ" "jsoς" hsigma).2]
    decide +kernel

end Language

end SyntaxInspector
