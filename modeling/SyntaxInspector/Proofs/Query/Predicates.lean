import Mathlib.Data.List.Forall2
import SyntaxInspector.Proofs.Query.Descriptors
import SyntaxInspector.Query.Compiled

/-!
# Which predicates are accepted

A query pattern may test and set properties. The properties there are, and the values they take,
are written down here without regard to how they are read. A query compiles if its patterns have no
other predicates, and otherwise the error tells of the first problem of the first pattern that has
one.

* `Property.Tests`, `Property.Sets` — the properties there are, and what they mean;
* `RawPattern.IsDocumented` — a pattern without problems;
* `RawPattern.FirstProblem` — the first problem of a pattern;
* `PatternRules.ofPattern_eq_ok_iff`, `PatternRules.ofPattern_eq_error_iff` — one pattern;
* `CompiledQuery.compile_accepts_documented` — all query texts.
-/

namespace SyntaxInspector

/-! ### Reading lists -/

section Lists

variable {α β γ ε : Type} {read : α → Except ε γ} {items : List α}

theorem map_eq_ok_iff {result : Except ε γ} {f : γ → β} {b : β} :
    result.map f = .ok b ↔ ∃ c, result = .ok c ∧ f c = b := by
  cases result <;> simp [Except.map]

theorem map_eq_error_iff {result : Except ε γ} {f : γ → β} {e : ε} :
    result.map f = .error e ↔ result = .error e := by
  cases result <;> simp [Except.map]

theorem mapM_cons_error {a : α} {e : ε} (h : read a = .error e) :
    (a :: items).mapM read = .error e := by
  rw [List.mapM_cons, h]
  rfl

theorem mapM_cons_ok {a : α} {c : γ} (h : read a = .ok c) :
    (a :: items).mapM read = (items.mapM read).map (c :: ·) := by
  rw [List.mapM_cons, h]
  rfl

/-- A list is read if all its items are. -/
theorem mapM_eq_ok_iff {results : List γ} :
    items.mapM read = .ok results ↔ List.Forall₂ (fun a c => read a = .ok c) items results := by
  induction items generalizing results with
  | nil =>
    rw [List.forall₂_nil_left_iff]
    exact ⟨fun h => (Except.ok.inj h).symm, fun h => h ▸ rfl⟩
  | cons a items ih =>
    rw [List.forall₂_cons_left_iff]
    cases hread : read a with
    | error e =>
      rw [mapM_cons_error hread]
      simp
    | ok c =>
      rw [mapM_cons_ok hread]
      cases htail : items.mapM read with
      | error e =>
        constructor
        · rintro ⟨⟩
        · rintro ⟨_, tail, -, hall, -⟩
          rw [ih.2 hall] at htail
          cases htail
      | ok tail =>
        constructor
        · rintro ⟨⟩
          exact ⟨c, tail, rfl, ih.1 htail, rfl⟩
        · rintro ⟨_, tail', ⟨⟩, hall, rfl⟩
          rw [ih.2 hall] at htail
          cases htail
          rfl

theorem exists_mapM_eq_ok_iff :
    (∃ results, items.mapM read = .ok results) ↔ ∀ a ∈ items, ∃ c, read a = .ok c := by
  induction items with
  | nil => exact ⟨fun _ => by simp, fun _ => ⟨[], rfl⟩⟩
  | cons a items ih =>
    rw [List.forall_mem_cons, ← ih]
    cases hread : read a with
    | error e =>
      rw [mapM_cons_error hread]
      simp
    | ok c =>
      rw [mapM_cons_ok hread]
      cases items.mapM read <;> simp [Except.map]

/-- A list is not read because of the first item that is not. -/
theorem mapM_eq_error_iff {e : ε} :
    items.mapM read = .error e ↔ ∃ before a after, items = before ++ a :: after ∧
      (∀ b ∈ before, ∃ c, read b = .ok c) ∧ read a = .error e := by
  induction items with
  | nil =>
    constructor
    · rintro ⟨⟩
    · rintro ⟨before, a, after, hsplit, -⟩
      simp at hsplit
  | cons a items ih =>
    cases hread : read a with
    | error e' =>
      rw [mapM_cons_error hread]
      constructor
      · rintro ⟨⟩
        exact ⟨[], a, items, rfl, by simp, hread⟩
      · rintro ⟨before, b, after, hsplit, hbefore, herror⟩
        cases before with
        | nil =>
          cases hsplit
          rw [hread] at herror
          cases herror
          rfl
        | cons d before =>
          obtain ⟨rfl, -⟩ := List.cons.inj hsplit
          obtain ⟨c, hc⟩ := hbefore a List.mem_cons_self
          rw [hread] at hc
          cases hc
    | ok c =>
      rw [mapM_cons_ok hread, map_eq_error_iff, ih]
      constructor
      · rintro ⟨before, b, after, rfl, hbefore, herror⟩
        exact ⟨a :: before, b, after, rfl, List.forall_mem_cons.2 ⟨⟨c, hread⟩, hbefore⟩, herror⟩
      · rintro ⟨before, b, after, hsplit, hbefore, herror⟩
        cases before with
        | nil =>
          cases hsplit
          rw [hread] at herror
          cases herror
        | cons d before =>
          obtain ⟨rfl, rfl⟩ := List.cons.inj hsplit
          exact ⟨before, b, after, rfl, (List.forall_mem_cons.1 hbefore).2, herror⟩

/-- Reading items one after the other and adding each is reading all and adding them then. -/
theorem foldlM_eq_mapM {step : β → α → Except ε β} {add : β → γ → β}
    (hstep : ∀ b a, step b a = (read a).map (add b)) (b : β) (items : List α) :
    items.foldlM step b = (items.mapM read).map (·.foldl add b) := by
  induction items generalizing b with
  | nil => rfl
  | cons a items ih =>
    rw [List.foldlM_cons, hstep]
    cases hread : read a with
    | error e =>
      rw [mapM_cons_error hread]
      rfl
    | ok c =>
      rw [mapM_cons_ok hread]
      change items.foldlM step (add b c) = _
      rw [ih]
      cases items.mapM read <;> rfl

theorem exists_mem_iff_of_forall₂ {R : α → β → Prop} {P : α → Prop} {Q : β → Prop}
    (hsame : ∀ a b, R a b → (P a ↔ Q b)) {as : List α} {bs : List β} (h : List.Forall₂ R as bs) :
    (∃ a ∈ as, P a) ↔ ∃ b ∈ bs, Q b := by
  induction h with
  | nil => simp
  | cons hr _ ih => rw [List.exists_mem_cons_iff, List.exists_mem_cons_iff, ih, hsame _ _ hr]

/-- What a reading gives is known if it is known for all that may be read. -/
theorem outcome_iff {result : Except ε γ} {Good : γ → Prop} {Bad : ε → Prop}
    (hgood : ∀ {c}, Good c → result = .ok c) (hbad : ∀ {e}, Bad e → result = .error e)
    (htotal : (∃ c, Good c) ∨ ∃ e, Bad e) :
    (∀ c, result = .ok c ↔ Good c) ∧ ∀ e, result = .error e ↔ Bad e := by
  rcases htotal with ⟨c, hc⟩ | ⟨e, he⟩
  · have hresult := hgood hc
    refine ⟨fun c' => ⟨fun h => ?_, hgood⟩, fun e => ⟨fun h => ?_, hbad⟩⟩
    · cases hresult.symm.trans h
      exact hc
    · cases hresult.symm.trans h
  · have hresult := hbad he
    refine ⟨fun c => ⟨fun h => ?_, hgood⟩, fun e' => ⟨fun h => ?_, hbad⟩⟩
    · cases hresult.symm.trans h
    · cases hresult.symm.trans h
      exact he

end Lists

/-! ### The properties there are -/

/-- The kinds in the value of a property, between spaces and commas. -/
def kindsIn (value : String) : List String :=
  (splitText (fun c => c = ' ' || c = ',') value).filter (!·.isEmpty)

/-- The tests without a value. -/
def plainTests : List (String × TestKind) := [("test.first", .first), ("test.last", .last)]

/-- The tests whose values are lists of kinds. -/
def kindTests : List (String × (List String → TestKind)) :=
  [("test.type", .ofType), ("test.ancestorOfType", .ancestorOfType),
    ("test.descendantOfType", .descendantOfType)]

/-- The settings that say how captures get along. -/
def claimModes : List (String × ClaimMode) := [("capture.final", .final), ("capture.shy", .shy)]

/-- The adjustments whose values are descriptors. -/
def descriptorAdjustments : List (String × (Descriptor → Adjustment)) :=
  [("adjust.startAt", .startAt), ("adjust.endAt", .endAt)]

/-- The adjustments whose values are integers. -/
def offsetAdjustments : List (String × (Int → Adjustment)) :=
  [("adjust.offsetStart", .offsetStart), ("adjust.offsetEnd", .offsetEnd)]

/-- The adjustments whose values are regular expressions. -/
def regexAdjustments : List (String × (Regex → Adjustment)) :=
  [("adjust.startAndEndAroundFirstMatchOf", .aroundMatch),
    ("adjust.startBeforeFirstMatchOf", .startBeforeMatch),
    ("adjust.endAfterFirstMatchOf", .endAfterMatch)]

/-- The keys of a table of properties. -/
def keysOf {α : Type} (table : List (String × α)) : List String := table.map Prod.fst

theorem exists_mem_of_mem_keysOf {α : Type} {table : List (String × α)} {key : String}
    (h : key ∈ keysOf table) : ∃ a, (key, a) ∈ table := by
  obtain ⟨⟨_, a⟩, hmem, rfl⟩ := List.mem_map.1 h
  exact ⟨a, hmem⟩

theorem mem_keysOf {α : Type} {table : List (String × α)} {key : String} {a : α}
    (h : (key, a) ∈ table) : key ∈ keysOf table := List.mem_map.2 ⟨_, h, rfl⟩

/-- What a property sets. -/
inductive Setting where
  /-- How its captures get along. -/
  | claim (mode : ClaimMode)
  /-- An adjustment. -/
  | adjust (a : Adjustment)

namespace Property

variable {lib : RegexCompiler} {p : Property} {value : String}

/-- A property that can be tested, and the test it stands for. A list of kinds has one at least. -/
inductive Tests (p : Property) : TestKind → Prop
  | plain {kind : TestKind} : (p.key, kind) ∈ plainTests → p.Tests kind
  | kinds {make : List String → TestKind} {value : String} : (p.key, make) ∈ kindTests →
      p.value = some value → kindsIn value ≠ [] → p.Tests (make (kindsIn value))

/-- What is wrong with a property that is tested. -/
inductive TestProblem (p : Property) : RuleError → Prop
  | unknown : p.key ∉ keysOf plainTests → p.key ∉ keysOf kindTests →
      p.TestProblem (.unknownTest p.key)
  | noValue : p.key ∈ keysOf kindTests → p.value = none → p.TestProblem (.valueRequired p.key)
  | noKind {value : String} : p.key ∈ keysOf kindTests → p.value = some value →
      kindsIn value = [] → p.TestProblem (.kindRequired p.key)

/-- A property that can be set, and what it sets; `lib` has the regular expressions. -/
inductive Sets (lib : RegexCompiler) (p : Property) : Setting → Prop
  | claim {mode : ClaimMode} : (p.key, mode) ∈ claimModes → p.Sets lib (.claim mode)
  | descriptor {make : Descriptor → Adjustment} {value : String} {d : Descriptor} :
      (p.key, make) ∈ descriptorAdjustments → p.value = some value →
      d.parts = splitText (· = '.') value → p.Sets lib (.adjust (make d))
  | offset {make : Int → Adjustment} {value : String} {i : Int} :
      (p.key, make) ∈ offsetAdjustments → p.value = some value →
      readInteger? (trimSpace value) = some i → p.Sets lib (.adjust (make i))
  | regex {make : Regex → Adjustment} {value : String} {r : Regex} :
      (p.key, make) ∈ regexAdjustments → p.value = some value →
      lib value = .ok r → p.Sets lib (.adjust (make r))

/-- What is wrong with a property that is set. Only how captures get along needs no value. -/
inductive SettingProblem (lib : RegexCompiler) (p : Property) : RuleError → Prop
  | noValue : p.key ∉ keysOf claimModes → p.value = none →
      p.SettingProblem lib (.valueRequired p.key)
  | unknown {value : String} : p.key ∉ keysOf claimModes → p.key ∉ keysOf descriptorAdjustments →
      p.key ∉ keysOf offsetAdjustments → p.key ∉ keysOf regexAdjustments →
      p.value = some value → p.SettingProblem lib (.unknownProperty p.key)
  | badDescriptor {value : String} {e : DescriptorError} : p.key ∈ keysOf descriptorAdjustments →
      p.value = some value → Descriptor.parse value = .error e →
      p.SettingProblem lib (.badDescriptor e)
  | notAnInteger {value : String} : p.key ∈ keysOf offsetAdjustments → p.value = some value →
      readInteger? (trimSpace value) = none → p.SettingProblem lib (.notAnInteger p.key value)
  | badPattern {value message : String} : p.key ∈ keysOf regexAdjustments →
      p.value = some value → lib value = .error message →
      p.SettingProblem lib (.badPattern value message)

/-- Whether a property is for a capture. -/
def IsFor (p : Property) (capture : Nat) : Prop := p.capture = none ∨ p.capture = some capture

instance (p : Property) (capture : Nat) : Decidable (p.IsFor capture) :=
  inferInstanceAs (Decidable (_ ∨ _))

/-! ### Reading tests -/

theorem kinds_eq (hvalue : p.value = some value) :
    p.kinds = if kindsIn value = [] then .error (.kindRequired p.key) else .ok (kindsIn value) := by
  unfold kinds required
  rw [hvalue]
  dsimp only [bind, Except.bind]
  split
  · rename_i hnil
    exact (if_pos hnil).symm
  · rename_i hne
    exact (if_neg hne).symm

theorem kinds_of_none (hvalue : p.value = none) : p.kinds = .error (.valueRequired p.key) := by
  unfold kinds required
  rw [hvalue]
  rfl

theorem testKind_of_kinds {make : List String → TestKind} (hkey : (p.key, make) ∈ kindTests) :
    p.testKind = make <$> p.kinds := by
  simp only [kindTests, List.mem_cons, Prod.mk.injEq, List.not_mem_nil, or_false] at hkey
  unfold testKind
  rcases hkey with ⟨hkey, rfl⟩ | ⟨hkey, rfl⟩ | ⟨hkey, rfl⟩ <;> rw [hkey] <;> rfl

theorem Tests.testKind_eq {kind : TestKind} (h : p.Tests kind) : p.testKind = .ok kind := by
  cases h with
  | plain hkey =>
    simp only [plainTests, List.mem_cons, Prod.mk.injEq, List.not_mem_nil, or_false] at hkey
    unfold testKind
    rcases hkey with ⟨hkey, rfl⟩ | ⟨hkey, rfl⟩ <;> rw [hkey] <;> rfl
  | kinds hkey hvalue hne =>
    rw [testKind_of_kinds hkey, kinds_eq hvalue, if_neg hne]
    rfl

theorem TestProblem.testKind_eq {e : RuleError} (h : p.TestProblem e) : p.testKind = .error e := by
  cases h with
  | unknown hplain hkinds =>
    simp only [keysOf, plainTests, kindTests, List.map_cons, List.map_nil, List.mem_cons,
      List.not_mem_nil, or_false, not_or] at hplain hkinds
    unfold testKind
    split <;> first | rfl | simp_all
  | noValue hkey hvalue =>
    obtain ⟨make, hkey⟩ := exists_mem_of_mem_keysOf hkey
    rw [testKind_of_kinds hkey, kinds_of_none hvalue]
    rfl
  | noKind hkey hvalue hnil =>
    obtain ⟨make, hkey⟩ := exists_mem_of_mem_keysOf hkey
    rw [testKind_of_kinds hkey, kinds_eq hvalue, if_pos hnil]
    rfl

/-- A property that is tested stands for a test, or else it has a problem. -/
theorem tests_or_testProblem (p : Property) :
    (∃ kind, p.Tests kind) ∨ ∃ e, p.TestProblem e := by
  by_cases hplain : p.key ∈ keysOf plainTests
  · obtain ⟨kind, hkey⟩ := exists_mem_of_mem_keysOf hplain
    exact .inl ⟨kind, .plain hkey⟩
  by_cases hkinds : p.key ∈ keysOf kindTests
  · obtain ⟨make, hkey⟩ := exists_mem_of_mem_keysOf hkinds
    cases hvalue : p.value with
    | none => exact .inr ⟨_, .noValue hkinds hvalue⟩
    | some value =>
      by_cases hnil : kindsIn value = []
      · exact .inr ⟨_, .noKind hkinds hvalue hnil⟩
      · exact .inl ⟨_, .kinds hkey hvalue hnil⟩
  · exact .inr ⟨_, .unknown hplain hkinds⟩

/-! ### Reading settings -/

/-- What a property sets, as it is read. -/
def setting (lib : RegexCompiler) (p : Property) : Except RuleError Setting :=
  match p.claimMode? with
  | some mode => .ok (.claim mode)
  | none => .adjust <$> p.adjustment lib

theorem claimMode?_eq_none (hkey : p.key ∉ keysOf claimModes) : p.claimMode? = none := by
  simp only [keysOf, claimModes, List.map_cons, List.map_nil, List.mem_cons, List.not_mem_nil,
    or_false, not_or] at hkey
  unfold claimMode?
  split <;> first | rfl | simp_all

theorem claimMode?_eq_some_iff {mode : ClaimMode} :
    p.claimMode? = some mode ↔ (p.key, mode) ∈ claimModes := by
  simp only [claimModes, List.mem_cons, Prod.mk.injEq, List.not_mem_nil, or_false]
  unfold claimMode?
  constructor
  · intro h
    split at h
    · rename_i hkey
      cases h
      exact .inl ⟨hkey, rfl⟩
    · rename_i hkey
      cases h
      exact .inr ⟨hkey, rfl⟩
    · cases h
  · rintro (⟨hkey, rfl⟩ | ⟨hkey, rfl⟩) <;> rw [hkey] <;> rfl

theorem adjustment_of_value (hvalue : p.value = some value) :
    p.adjustment lib = match p.key with
      | "adjust.startAt" => .startAt <$> descriptor value
      | "adjust.endAt" => .endAt <$> descriptor value
      | "adjust.offsetStart" => .offsetStart <$> p.offset value
      | "adjust.offsetEnd" => .offsetEnd <$> p.offset value
      | "adjust.startAndEndAroundFirstMatchOf" => .aroundMatch <$> regex lib value
      | "adjust.startBeforeFirstMatchOf" => .startBeforeMatch <$> regex lib value
      | "adjust.endAfterFirstMatchOf" => .endAfterMatch <$> regex lib value
      | key => .error (.unknownProperty key) := by
  unfold adjustment required
  rw [hvalue]
  rfl

theorem setting_of_descriptor {make : Descriptor → Adjustment}
    (hkey : (p.key, make) ∈ descriptorAdjustments) (hvalue : p.value = some value) :
    p.setting lib = .adjust <$> make <$> descriptor value := by
  simp only [descriptorAdjustments, List.mem_cons, Prod.mk.injEq, List.not_mem_nil,
    or_false] at hkey
  unfold setting claimMode?
  rw [adjustment_of_value hvalue]
  rcases hkey with ⟨hkey, rfl⟩ | ⟨hkey, rfl⟩ <;> rw [hkey] <;> rfl

theorem setting_of_offset {make : Int → Adjustment} (hkey : (p.key, make) ∈ offsetAdjustments)
    (hvalue : p.value = some value) : p.setting lib = .adjust <$> make <$> p.offset value := by
  simp only [offsetAdjustments, List.mem_cons, Prod.mk.injEq, List.not_mem_nil, or_false] at hkey
  unfold setting claimMode?
  rw [adjustment_of_value hvalue]
  rcases hkey with ⟨hkey, rfl⟩ | ⟨hkey, rfl⟩ <;> rw [hkey] <;> rfl

theorem setting_of_regex {make : Regex → Adjustment}
    (hkey : (p.key, make) ∈ regexAdjustments) (hvalue : p.value = some value) :
    p.setting lib = .adjust <$> make <$> regex lib value := by
  simp only [regexAdjustments, List.mem_cons, Prod.mk.injEq, List.not_mem_nil, or_false] at hkey
  unfold setting claimMode?
  rw [adjustment_of_value hvalue]
  rcases hkey with ⟨hkey, rfl⟩ | ⟨hkey, rfl⟩ | ⟨hkey, rfl⟩ <;> rw [hkey] <;> rfl

theorem Sets.setting_eq {s : Setting} (h : p.Sets lib s) : p.setting lib = .ok s := by
  cases h with
  | claim hkey => rw [setting, claimMode?_eq_some_iff.2 hkey]
  | descriptor hkey hvalue hd =>
    rw [setting_of_descriptor hkey hvalue, Property.descriptor, Descriptor.parse_eq_ok_iff.2 hd]
    rfl
  | offset hkey hvalue hi =>
    rw [setting_of_offset hkey hvalue, Property.offset, hi]
    rfl
  | regex hkey hvalue hr =>
    rw [setting_of_regex hkey hvalue, Property.regex, hr]
    rfl

theorem SettingProblem.setting_eq {e : RuleError} (h : p.SettingProblem lib e) :
    p.setting lib = .error e := by
  cases h with
  | noValue hclaim hvalue =>
    rw [setting, claimMode?_eq_none hclaim, adjustment, required, hvalue]
    rfl
  | unknown hclaim hdescriptor hoffset hregex hvalue =>
    rw [setting, claimMode?_eq_none hclaim, adjustment_of_value hvalue]
    simp only [keysOf, descriptorAdjustments, offsetAdjustments, regexAdjustments,
      List.map_cons, List.map_nil, List.mem_cons, List.not_mem_nil, or_false, not_or]
      at hdescriptor hoffset hregex
    split <;> first | rfl | simp_all
  | badDescriptor hkey hvalue hd =>
    obtain ⟨make, hkey⟩ := exists_mem_of_mem_keysOf hkey
    rw [setting_of_descriptor hkey hvalue, Property.descriptor, hd]
    rfl
  | notAnInteger hkey hvalue hi =>
    obtain ⟨make, hkey⟩ := exists_mem_of_mem_keysOf hkey
    rw [setting_of_offset hkey hvalue, Property.offset, hi]
    rfl
  | badPattern hkey hvalue hr =>
    obtain ⟨make, hkey⟩ := exists_mem_of_mem_keysOf hkey
    rw [setting_of_regex hkey hvalue, Property.regex, hr]
    rfl

/-- A property that is set sets something, or else it has a problem. -/
theorem sets_or_settingProblem (lib : RegexCompiler) (p : Property) :
    (∃ s, p.Sets lib s) ∨ ∃ e, p.SettingProblem lib e := by
  by_cases hclaim : p.key ∈ keysOf claimModes
  · obtain ⟨mode, hkey⟩ := exists_mem_of_mem_keysOf hclaim
    exact .inl ⟨_, .claim hkey⟩
  cases hvalue : p.value with
  | none => exact .inr ⟨_, .noValue hclaim hvalue⟩
  | some value =>
    by_cases hdescriptor : p.key ∈ keysOf descriptorAdjustments
    · obtain ⟨make, hkey⟩ := exists_mem_of_mem_keysOf hdescriptor
      cases hd : Descriptor.parse value with
      | error e => exact .inr ⟨_, .badDescriptor hdescriptor hvalue hd⟩
      | ok d => exact .inl ⟨_, .descriptor hkey hvalue (Descriptor.parse_eq_ok_iff.1 hd)⟩
    by_cases hoffset : p.key ∈ keysOf offsetAdjustments
    · obtain ⟨make, hkey⟩ := exists_mem_of_mem_keysOf hoffset
      cases hi : readInteger? (trimSpace value) with
      | none => exact .inr ⟨_, .notAnInteger hoffset hvalue hi⟩
      | some i => exact .inl ⟨_, .offset hkey hvalue hi⟩
    by_cases hregex : p.key ∈ keysOf regexAdjustments
    · obtain ⟨make, hkey⟩ := exists_mem_of_mem_keysOf hregex
      cases hr : lib value with
      | error message => exact .inr ⟨_, .badPattern hregex hvalue hr⟩
      | ok r => exact .inl ⟨_, .regex hkey hvalue hr⟩
    · exact .inr ⟨_, .unknown hclaim hdescriptor hoffset hregex hvalue⟩

theorem testKind_eq_ok_iff {kind : TestKind} : p.testKind = .ok kind ↔ p.Tests kind :=
  (outcome_iff Tests.testKind_eq TestProblem.testKind_eq p.tests_or_testProblem).1 kind

theorem testKind_eq_error_iff {e : RuleError} : p.testKind = .error e ↔ p.TestProblem e :=
  (outcome_iff Tests.testKind_eq TestProblem.testKind_eq p.tests_or_testProblem).2 e

theorem setting_eq_ok_iff {s : Setting} : p.setting lib = .ok s ↔ p.Sets lib s :=
  (outcome_iff Sets.setting_eq SettingProblem.setting_eq (p.sets_or_settingProblem lib)).1 s

theorem setting_eq_error_iff {e : RuleError} : p.setting lib = .error e ↔ p.SettingProblem lib e :=
  (outcome_iff Sets.setting_eq SettingProblem.setting_eq (p.sets_or_settingProblem lib)).2 e

/-- A property that sets an adjustment does not say how captures get along. -/
theorem Sets.not_mem_claimModes {a : Adjustment} (h : p.Sets lib (.adjust a)) :
    p.key ∉ keysOf claimModes := by
  intro hmem
  obtain ⟨mode, hkey⟩ := exists_mem_of_mem_keysOf hmem
  cases h.setting_eq.symm.trans (Sets.claim hkey).setting_eq

theorem Sets.mem_claimModes {mode : ClaimMode} (h : p.Sets lib (.claim mode)) :
    p.key ∈ keysOf claimModes := by
  obtain ⟨hkey⟩ := h
  exact mem_keysOf hkey

end Property

/-! ### Patterns -/

/-- A pattern of which all predicates are documented. -/
structure RawPattern.IsDocumented (lib : RegexCompiler) (p : RawPattern) : Prop where
  general : p.general = []
  tests : ∀ t ∈ p.tests, ∃ kind, t.1.Tests kind
  settings : ∀ s ∈ p.settings, ∃ set, s.Sets lib set

/-- The first problem of a pattern: unknown predicates come before tests, and tests before
settings. -/
inductive RawPattern.FirstProblem (lib : RegexCompiler) (p : RawPattern) : RuleError → Prop
  | general {operator : String} {rest : List String} : p.general = operator :: rest →
      p.FirstProblem lib (.unknownPredicate operator)
  | test {before : List (Property × Bool)} {t : Property × Bool} {after : List (Property × Bool)}
      {e : RuleError} : p.general = [] → p.tests = before ++ t :: after →
      (∀ t' ∈ before, ∃ kind, t'.1.Tests kind) → t.1.TestProblem e → p.FirstProblem lib e
  | setting {before : List Property} {s : Property} {after : List Property} {e : RuleError} :
      p.general = [] → (∀ t ∈ p.tests, ∃ kind, t.1.Tests kind) →
      p.settings = before ++ s :: after → (∀ s' ∈ before, ∃ set, s'.Sets lib set) →
      s.SettingProblem lib e → p.FirstProblem lib e

namespace PatternRules

variable {lib : RegexCompiler}

/-- The rule of a property that is tested. -/
def readTest (t : Property × Bool) : Except RuleError (Scoped NodeTest) :=
  t.1.testKind.map fun kind => ⟨t.1.capture, ⟨kind, t.2⟩⟩

/-- The rule of a property that is set. -/
def readSetting (lib : RegexCompiler) (p : Property) : Except RuleError (Scoped Setting) :=
  (p.setting lib).map (⟨p.capture, ·⟩)

theorem readTest_eq_ok_iff {t : Property × Bool} {s : Scoped NodeTest} :
    readTest t = .ok s ↔
      s.capture = t.1.capture ∧ t.1.Tests s.rule.kind ∧ s.rule.expected = t.2 := by
  rw [readTest, map_eq_ok_iff]
  constructor
  · rintro ⟨kind, hkind, rfl⟩
    exact ⟨rfl, Property.testKind_eq_ok_iff.1 hkind, rfl⟩
  · obtain ⟨capture, kind, expected⟩ := s
    rintro ⟨rfl, hkind, rfl⟩
    exact ⟨kind, Property.testKind_eq_ok_iff.2 hkind, rfl⟩

theorem readSetting_eq_ok_iff {p : Property} {s : Scoped Setting} :
    readSetting lib p = .ok s ↔ s.capture = p.capture ∧ p.Sets lib s.rule := by
  rw [readSetting, map_eq_ok_iff]
  constructor
  · rintro ⟨set, hset, rfl⟩
    exact ⟨rfl, Property.setting_eq_ok_iff.1 hset⟩
  · obtain ⟨capture, set⟩ := s
    rintro ⟨rfl, hset⟩
    exact ⟨set, Property.setting_eq_ok_iff.2 hset, rfl⟩

theorem readTest_eq_error_iff {t : Property × Bool} {e : RuleError} :
    readTest t = .error e ↔ t.1.TestProblem e := by
  rw [readTest, map_eq_error_iff, Property.testKind_eq_error_iff]

theorem readSetting_eq_error_iff {p : Property} {e : RuleError} :
    readSetting lib p = .error e ↔ p.SettingProblem lib e := by
  rw [readSetting, map_eq_error_iff, Property.setting_eq_error_iff]

theorem exists_readTest_iff {t : Property × Bool} :
    (∃ s, readTest t = .ok s) ↔ ∃ kind, t.1.Tests kind := by
  simp only [readTest_eq_ok_iff]
  exact ⟨fun ⟨s, _, h, _⟩ => ⟨_, h⟩, fun ⟨kind, h⟩ => ⟨⟨t.1.capture, ⟨kind, t.2⟩⟩, rfl, h, rfl⟩⟩

theorem exists_readSetting_iff {p : Property} :
    (∃ s, readSetting lib p = .ok s) ↔ ∃ set, p.Sets lib set := by
  simp only [readSetting_eq_ok_iff]
  exact ⟨fun ⟨s, _, h⟩ => ⟨_, h⟩, fun ⟨set, h⟩ => ⟨⟨p.capture, set⟩, rfl, h⟩⟩

theorem exists_mapM_readTest_iff {tests : List (Property × Bool)} :
    (∃ rules, tests.mapM readTest = .ok rules) ↔ ∀ t ∈ tests, ∃ kind, t.1.Tests kind := by
  simp only [exists_mapM_eq_ok_iff, exists_readTest_iff]

theorem mapM_readTest_eq_error_iff {tests : List (Property × Bool)} {e : RuleError} :
    tests.mapM readTest = .error e ↔ ∃ before t after, tests = before ++ t :: after ∧
      (∀ t' ∈ before, ∃ kind, t'.1.Tests kind) ∧ t.1.TestProblem e := by
  simp only [mapM_eq_error_iff, exists_readTest_iff, readTest_eq_error_iff]

theorem exists_mapM_readSetting_iff {settings : List Property} :
    (∃ rules, settings.mapM (readSetting lib) = .ok rules) ↔
      ∀ s ∈ settings, ∃ set, s.Sets lib set := by
  simp only [exists_mapM_eq_ok_iff, exists_readSetting_iff]

theorem mapM_readSetting_eq_error_iff {settings : List Property} {e : RuleError} :
    settings.mapM (readSetting lib) = .error e ↔ ∃ before s after, settings = before ++ s :: after ∧
      (∀ s' ∈ before, ∃ set, s'.Sets lib set) ∧ s.SettingProblem lib e := by
  simp only [mapM_eq_error_iff, exists_readSetting_iff, readSetting_eq_error_iff]

/-- The rules with what another property sets. -/
def add (rules : PatternRules) (s : Scoped Setting) : PatternRules :=
  match s.rule with
  | .claim mode => { rules with claims := rules.claims ++ [⟨s.capture, mode⟩] }
  | .adjust a => { rules with adjustments := rules.adjustments ++ [⟨s.capture, a⟩] }

/-- The adjustment, if a property sets one. -/
def adjustment? (s : Scoped Setting) : Option (Scoped Adjustment) :=
  match s.rule with
  | .claim _ => none
  | .adjust a => some ⟨s.capture, a⟩

/-- How captures get along, if a property says so. -/
def claim? (s : Scoped Setting) : Option (Scoped ClaimMode) :=
  match s.rule with
  | .claim mode => some ⟨s.capture, mode⟩
  | .adjust _ => none

theorem foldl_add (rules : PatternRules) (settings : List (Scoped Setting)) :
    settings.foldl add rules = ⟨rules.tests, rules.adjustments ++ settings.filterMap adjustment?,
      rules.claims ++ settings.filterMap claim?⟩ := by
  induction settings generalizing rules with
  | nil => simp
  | cons s settings ih =>
    obtain ⟨capture, mode | a⟩ := s <;> simp [ih, add, adjustment?, claim?, List.filterMap_cons]

theorem addTest_eq (rules : PatternRules) (t : Property × Bool) :
    addTest rules t = (readTest t).map fun s => { rules with tests := rules.tests ++ [s] } := by
  rw [addTest, readTest]
  cases t.1.testKind <;> rfl

theorem addSetting_eq (rules : PatternRules) (p : Property) :
    addSetting lib rules p = (readSetting lib p).map rules.add := by
  rw [addSetting, readSetting, Property.setting]
  cases p.claimMode? with
  | some mode => rfl
  | none => cases p.adjustment lib <;> rfl

theorem foldl_tests (rules : PatternRules) (tests : List (Scoped NodeTest)) :
    tests.foldl (fun rules s => { rules with tests := rules.tests ++ [s] }) rules =
      { rules with tests := rules.tests ++ tests } := by
  induction tests generalizing rules with
  | nil => simp
  | cons s tests ih => simp [ih]

/-- Tests are read and then settings, each in order. -/
theorem ofPattern_eq {p : RawPattern} (hgeneral : p.general = []) :
    ofPattern lib p = (p.tests.mapM readTest).bind fun tests =>
      (p.settings.mapM (readSetting lib)).map fun settings =>
        ⟨tests, settings.filterMap adjustment?, settings.filterMap claim?⟩ := by
  have htests : p.tests.foldlM addTest ({} : PatternRules) =
      (p.tests.mapM readTest).map fun tests => { tests } := by
    rw [foldlM_eq_mapM addTest_eq]
    congr 1
    funext tests
    rw [foldl_tests, List.nil_append]
  unfold ofPattern
  rw [hgeneral]
  change (p.tests.foldlM addTest {}).bind
    (fun rules => p.settings.foldlM (addSetting lib) rules) = _
  rw [htests]
  cases p.tests.mapM readTest with
  | error e => rfl
  | ok tests =>
    change p.settings.foldlM (addSetting lib) _ = (p.settings.mapM (readSetting lib)).map _
    rw [foldlM_eq_mapM addSetting_eq]
    congr 1
    funext settings
    rw [foldl_add, List.nil_append, List.nil_append]

/-- A pattern gets rules if it is documented. -/
theorem ofPattern_eq_ok_iff {p : RawPattern} {rules : PatternRules} :
    ofPattern lib p = .ok rules ↔ p.general = [] ∧
      List.Forall₂ (fun t s => readTest t = .ok s) p.tests rules.tests ∧
      ∃ settings, List.Forall₂ (fun s c => readSetting lib s = .ok c) p.settings settings ∧
        rules.adjustments = settings.filterMap adjustment? ∧
        rules.claims = settings.filterMap claim? := by
  cases hgeneral : p.general with
  | cons operator rest => simp [ofPattern, hgeneral]
  | nil =>
    rw [ofPattern_eq hgeneral, ← mapM_eq_ok_iff]
    simp only [← mapM_eq_ok_iff, true_and]
    obtain ⟨tests, adjustments, claims⟩ := rules
    cases p.tests.mapM readTest with
    | error e => simp [Except.bind]
    | ok tests' =>
      cases p.settings.mapM (readSetting lib) with
      | error e => simp [Except.bind, Except.map]
      | ok settings =>
        simp only [Except.bind, Except.map, Except.ok.injEq, mk.injEq, exists_eq_left']
        grind

/-- Otherwise the error is its first problem. -/
theorem ofPattern_eq_error_iff {p : RawPattern} {e : RuleError} :
    ofPattern lib p = .error e ↔ p.FirstProblem lib e := by
  constructor
  · intro h
    cases hgeneral : p.general with
    | cons operator rest =>
      rw [ofPattern, hgeneral] at h
      cases h
      exact .general hgeneral
    | nil =>
      rw [ofPattern_eq hgeneral] at h
      cases htests : p.tests.mapM readTest with
      | error e' =>
        rw [htests] at h
        cases h
        obtain ⟨before, t, after, hsplit, hbefore, ht⟩ := mapM_readTest_eq_error_iff.1 htests
        exact .test hgeneral hsplit hbefore ht
      | ok tests =>
        rw [htests] at h
        have hsettings := map_eq_error_iff.1 h
        obtain ⟨before, s, after, hsplit, hbefore, hs⟩ := mapM_readSetting_eq_error_iff.1 hsettings
        exact .setting hgeneral (exists_mapM_readTest_iff.1 ⟨tests, htests⟩) hsplit hbefore hs
  · intro h
    cases h with
    | general hgeneral => rw [ofPattern, hgeneral]
    | test hgeneral hsplit hbefore ht =>
      rw [ofPattern_eq hgeneral, mapM_readTest_eq_error_iff.2 ⟨_, _, _, hsplit, hbefore, ht⟩]
      rfl
    | setting hgeneral htests hsplit hbefore hs =>
      obtain ⟨tests, htests⟩ := exists_mapM_readTest_iff.2 htests
      rw [ofPattern_eq hgeneral, htests,
        mapM_readSetting_eq_error_iff.2 ⟨_, _, _, hsplit, hbefore, hs⟩]
      rfl

theorem exists_ofPattern_eq_ok_iff {p : RawPattern} :
    (∃ rules, ofPattern lib p = .ok rules) ↔ p.IsDocumented lib := by
  constructor
  · rintro ⟨rules, h⟩
    obtain ⟨hgeneral, htests, settings, hsettings, -⟩ := ofPattern_eq_ok_iff.1 h
    exact ⟨hgeneral, exists_mapM_readTest_iff.1 ⟨_, mapM_eq_ok_iff.2 htests⟩,
      exists_mapM_readSetting_iff.1 ⟨_, mapM_eq_ok_iff.2 hsettings⟩⟩
  · rintro ⟨hgeneral, htests, hsettings⟩
    obtain ⟨tests, htests⟩ := exists_mapM_readTest_iff.2 htests
    obtain ⟨settings, hsettings⟩ := exists_mapM_readSetting_iff.2 hsettings
    rw [ofPattern_eq hgeneral, htests, hsettings]
    exact ⟨_, rfl⟩

/-! ### Rules for a capture -/

variable {p : RawPattern} {rules : PatternRules} {capture : Nat}

theorem appliesTo_iff {α : Type} {s : Scoped α} {p : Property} (h : s.capture = p.capture) :
    s.appliesTo capture = true ↔ p.IsFor capture := by
  rw [Scoped.appliesTo, Property.IsFor, h]
  cases p.capture <;> simp

/-- What the rules of a pattern come to for each capture: what its properties say that are for this
capture or for all. -/
structure AreFor (rules : PatternRules) (lib : RegexCompiler) (p : RawPattern) : Prop where
  tests : ∀ capture, List.Forall₂ (fun t test => t.1.Tests test.kind ∧ test.expected = t.2)
    (p.tests.filter (·.1.IsFor capture)) (rules.testsFor capture)
  adjustments : ∀ capture, List.Forall₂ (fun s a => s.Sets lib (.adjust a))
    ((p.settings.filter (·.key ∉ keysOf claimModes)).filter (·.IsFor capture))
    (rules.adjustmentsFor capture)
  claims : ∀ capture mode, rules.hasClaim capture mode = true ↔
    ∃ s ∈ p.settings, s.IsFor capture ∧ s.Sets lib (.claim mode)

/-- Properties and their rules are for the same captures. -/
theorem forall₂_filter_appliesTo {α β : Type} {R : α → Scoped β → Prop} {propertyOf : α → Property}
    {items : List α} {ruled : List (Scoped β)}
    (hcapture : ∀ a s, R a s → s.capture = (propertyOf a).capture)
    (h : List.Forall₂ R items ruled) (capture : Nat) :
    List.Forall₂ R (items.filter fun a => (propertyOf a).IsFor capture)
      (ruled.filter (·.appliesTo capture)) := by
  refine List.rel_filter (fun {a s} hr => ?_) h
  change decide ((propertyOf a).IsFor capture) = true ↔ s.appliesTo capture = true
  rw [decide_eq_true_iff, appliesTo_iff (hcapture a s hr)]

theorem forall₂_testsFor
    (h : List.Forall₂ (fun t s => readTest t = .ok s) p.tests rules.tests) :
    List.Forall₂ (fun t test => t.1.Tests test.kind ∧ test.expected = t.2)
      (p.tests.filter (·.1.IsFor capture)) (rules.testsFor capture) := by
  have hcapture : ∀ t s, readTest t = .ok s → s.capture = t.1.capture := fun _ _ hread =>
    (readTest_eq_ok_iff.1 hread).1
  rw [testsFor, List.forall₂_map_right_iff]
  exact (forall₂_filter_appliesTo hcapture h capture).imp
    fun _ _ hread => (readTest_eq_ok_iff.1 hread).2

section Settings

variable {settings : List (Scoped Setting)} {properties : List Property}

theorem forall₂_adjustments
    (h : List.Forall₂ (fun p s => readSetting lib p = .ok s) properties settings) :
    List.Forall₂ (fun p s => s.capture = p.capture ∧ p.Sets lib (.adjust s.rule))
      (properties.filter (·.key ∉ keysOf claimModes)) (settings.filterMap adjustment?) := by
  induction h with
  | nil => exact .nil
  | @cons p s properties settings hread _ ih =>
    obtain ⟨hcapture, hset⟩ := readSetting_eq_ok_iff.1 hread
    obtain ⟨capture, mode | a⟩ := s
    · rw [List.filter_cons_of_neg (by simpa using hset.mem_claimModes)]
      exact ih
    · rw [List.filter_cons_of_pos (by simpa using hset.not_mem_claimModes)]
      exact .cons ⟨hcapture, hset⟩ ih

theorem any_claims_iff
    (h : List.Forall₂ (fun p s => readSetting lib p = .ok s) properties settings)
    {mode : ClaimMode} :
    ((settings.filterMap claim?).any fun s => s.appliesTo capture && s.rule == mode) = true ↔
      ∃ p ∈ properties, p.IsFor capture ∧ p.Sets lib (.claim mode) := by
  have hsame : ∀ p s, readSetting lib p = .ok s → (p.IsFor capture ∧ p.Sets lib (.claim mode) ↔
      s.appliesTo capture = true ∧ s.rule = .claim mode) := by
    intro p s hread
    obtain ⟨hcapture, hset⟩ := readSetting_eq_ok_iff.1 hread
    rw [appliesTo_iff hcapture, ← Property.setting_eq_ok_iff, hset.setting_eq, Except.ok.injEq]
  rw [exists_mem_iff_of_forall₂ hsame h, List.any_eq_true]
  constructor
  · rintro ⟨c, hc, happlies⟩
    obtain ⟨⟨scope, mode' | a⟩, hs, hclaim⟩ := List.mem_filterMap.1 hc
    · cases hclaim
      obtain ⟨happlies, hmode⟩ := Bool.and_eq_true_iff.1 happlies
      exact ⟨_, hs, happlies, congrArg Setting.claim (eq_of_beq hmode)⟩
    · cases hclaim
  · rintro ⟨⟨scope, rule⟩, hs, happlies, rfl⟩
    exact ⟨⟨scope, mode⟩, List.mem_filterMap.2 ⟨_, hs, rfl⟩,
      Bool.and_eq_true_iff.2 ⟨happlies, beq_self_eq_true mode⟩⟩

end Settings

theorem areFor_of_ofPattern (h : ofPattern lib p = .ok rules) : rules.AreFor lib p := by
  obtain ⟨-, htests, settings, hsettings, hadjustments, hclaims⟩ := ofPattern_eq_ok_iff.1 h
  refine ⟨fun capture => forall₂_testsFor htests, fun capture => ?_, fun capture mode => ?_⟩
  · rw [adjustmentsFor, hadjustments, List.forall₂_map_right_iff]
    exact (forall₂_filter_appliesTo (fun _ _ h => h.1) (forall₂_adjustments hsettings) capture).imp
      fun _ _ h => h.2
  · rw [hasClaim, hclaims]
    exact any_claims_iff hsettings

end PatternRules

/-! ### Queries -/

namespace CompiledQuery

variable {lib : RegexCompiler} {source : String} {p : RawPattern}

theorem rulesOf_eq_ok_iff {rules : PatternRules} :
    rulesOf lib source p = .ok rules ↔ PatternRules.ofPattern lib p = .ok rules := by
  rw [rulesOf]
  cases PatternRules.ofPattern lib p <;> simp [Except.mapError]

theorem rulesOf_eq_error_iff {err : CompileError} :
    rulesOf lib source p = .error err ↔ ∃ problem, p.FirstProblem lib problem ∧
      err = ⟨.predicate, pointAt source .zero p.start, problem.message⟩ := by
  simp only [← PatternRules.ofPattern_eq_error_iff, rulesOf]
  cases PatternRules.ofPattern lib p with
  | ok rules => simp [Except.mapError]
  | error problem => simp [Except.mapError, eq_comm]

theorem exists_rulesOf_eq_ok_iff (source : String) :
    (∃ rules, rulesOf lib source p = .ok rules) ↔ p.IsDocumented lib := by
  simp only [rulesOf_eq_ok_iff]
  exact PatternRules.exists_ofPattern_eq_ok_iff

/-- What the engine accepts is compiled pattern by pattern. -/
theorem compile_of_engine {e : Engine} {language : Language} {raw : RawQuery}
    (hraw : e.compile language source = .ok raw) :
    compile e language source = (raw.patterns.mapM (rulesOf e.regex source)).map fun rules =>
      ⟨language.name, source, raw.captures, rules⟩ := by
  rw [compile, hraw]
  change (raw.patterns.mapM (rulesOf e.regex source)).bind _ = _
  cases raw.patterns.mapM (rulesOf e.regex source) <;> rfl

/-- **Compilation accepts just what is documented.** Let the engine accept a query text; it also
says what the regular expressions are.

* It compiles just if all predicates of all its patterns are documented.
* The error, if there is one, tells of the first pattern that has a problem, at the place where that
  pattern starts, and of the first problem of that pattern.
* The compiled query has rules for each pattern. For each capture they are those of the properties
  that are for this capture or for all, in order. -/
theorem compile_accepts_documented (e : Engine) (language : Language) (source : String)
    (raw : RawQuery) (hraw : e.compile language source = .ok raw) :
    ((∃ q, compile e language source = .ok q) ↔ ∀ p ∈ raw.patterns, p.IsDocumented e.regex) ∧
    (∀ err, compile e language source = .error err ↔
      ∃ before p after problem, raw.patterns = before ++ p :: after ∧
        (∀ p' ∈ before, p'.IsDocumented e.regex) ∧ ¬ p.IsDocumented e.regex ∧
        p.FirstProblem e.regex problem ∧
        err = ⟨.predicate, pointAt source .zero p.start, problem.message⟩) ∧
    ∀ q, compile e language source = .ok q → q.captureNames = raw.captures ∧
      q.rules.length = raw.patterns.length ∧
      ∀ k p, raw.patterns[k]? = some p → (q.rulesFor k).AreFor e.regex p := by
  rw [compile_of_engine hraw]
  refine ⟨?_, fun err => ?_, fun q hq => ?_⟩
  · simp only [← exists_rulesOf_eq_ok_iff source, ← exists_mapM_eq_ok_iff, map_eq_ok_iff]
    exact ⟨fun ⟨_, rules, h, _⟩ => ⟨rules, h⟩, fun ⟨rules, h⟩ => ⟨_, rules, h, rfl⟩⟩
  · rw [map_eq_error_iff, mapM_eq_error_iff]
    constructor
    · rintro ⟨before, p, after, hsplit, hbefore, herror⟩
      obtain ⟨problem, hfirst, rfl⟩ := rulesOf_eq_error_iff.1 herror
      refine ⟨before, p, after, problem, hsplit, fun p' hp' =>
        (exists_rulesOf_eq_ok_iff source).1 (hbefore p' hp'), fun hdocumented => ?_, hfirst, rfl⟩
      obtain ⟨rules, hrules⟩ := (exists_rulesOf_eq_ok_iff source).2 hdocumented
      rw [hrules] at herror
      cases herror
    · rintro ⟨before, p, after, problem, hsplit, hbefore, -, hfirst, rfl⟩
      exact ⟨before, p, after, hsplit, fun p' hp' =>
        (exists_rulesOf_eq_ok_iff source).2 (hbefore p' hp'),
        rulesOf_eq_error_iff.2 ⟨problem, hfirst, rfl⟩⟩
  · obtain ⟨rules, hrules, rfl⟩ := map_eq_ok_iff.1 hq
    have hall := mapM_eq_ok_iff.1 hrules
    refine ⟨rfl, hall.length_eq.symm, fun k p hget => ?_⟩
    obtain ⟨hk, rfl⟩ := List.getElem?_eq_some_iff.1 hget
    have hk' : k < rules.length := hall.length_eq ▸ hk
    have hrule := List.Forall₂.get hall hk hk'
    have hfor := PatternRules.areFor_of_ofPattern (rulesOf_eq_ok_iff.1 hrule)
    rw [rulesFor, List.getElem?_eq_getElem hk']
    exact hfor

/-- An engine that reports some patterns for every query text. -/
def reporting (patterns : List RawPattern) : Engine where
  nodes _ language _ _ := .error (.noTree language.name)
  compile _ _ := .ok ⟨["a", "b"], patterns⟩
  captures _ _ _ _ := []

/-- A pattern with a list of kinds, an integer between blanks and a regular expression. -/
def documentedPattern : RawPattern :=
  ⟨0, [], [(⟨"test.type", some "x, y", some 0⟩, true)],
    [⟨"adjust.offsetStart", some " 1 ", none⟩, ⟨"adjust.endAfterFirstMatchOf", some "x", some 0⟩,
      ⟨"capture.final", none, some 1⟩]⟩

/-- A pattern with a descriptor whose edge is misplaced, before an unknown property. -/
def misplacedPattern : RawPattern :=
  ⟨9, [], [(⟨"test.last", none, none⟩, false)],
    [⟨"adjust.endAt", some "startPosition.parent", none⟩, ⟨"adjust.sideways", some "", none⟩]⟩

/-- The first pattern alone compiles. With the second, the error is at the start of the second and
tells of its descriptor. -/
theorem compile_accepts_documented_misplaced :
    (∃ q, compile (reporting [documentedPattern]) ⟨"json", ["json"], []⟩ "(x) @a" = .ok q) ∧
    ∃ before p after problem, [documentedPattern, misplacedPattern] = before ++ p :: after ∧
      ¬ p.IsDocumented Pattern.library ∧ p.FirstProblem Pattern.library problem ∧
      (⟨.predicate, ⟨1, 2⟩, "'startPosition' must end the descriptor 'startPosition.parent'"⟩ :
        CompileError) =
        ⟨.predicate, pointAt "(x) @a\n  (y) @b" .zero p.start, problem.message⟩ := by
  constructor
  · refine (compile_accepts_documented _ _ _ _ rfl).1.2 fun p hp => ?_
    obtain rfl := List.mem_singleton.1 hp
    refine ⟨rfl, fun t ht => ?_, fun s hs => ?_⟩
    · obtain rfl := List.mem_singleton.1 ht
      exact ⟨_, .kinds List.mem_cons_self rfl (by decide +kernel)⟩
    · simp only [documentedPattern, List.mem_cons, List.not_mem_nil, or_false] at hs
      rcases hs with rfl | rfl | rfl
      · exact ⟨.adjust (.offsetStart 1), .offset List.mem_cons_self rfl (by decide +kernel)⟩
      · have hregex : Pattern.library "x" = .ok (Pattern.char (.single 'x')).regex :=
          Pattern.library_eq_ok_iff.2 ⟨_, by decide +kernel, rfl⟩
        exact ⟨_, .regex (List.mem_cons_of_mem _ (List.mem_cons_of_mem _ List.mem_cons_self)) rfl
          hregex⟩
      · exact ⟨_, .claim List.mem_cons_self⟩
  · obtain ⟨before, p, after, problem, hsplit, -, hproblem⟩ :=
      ((compile_accepts_documented (reporting [documentedPattern, misplacedPattern])
        ⟨"json", ["json"], []⟩ "(x) @a\n  (y) @b" _ rfl).2.1 _).1 rfl
    exact ⟨before, p, after, problem, hsplit, hproblem⟩

end CompiledQuery

end SyntaxInspector
