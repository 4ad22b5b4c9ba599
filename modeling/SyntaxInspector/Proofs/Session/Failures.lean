import SyntaxInspector.Proofs.Session.Highlights

/-!
# What a failed operation leaves behind

An operation fails in one of a few ways, and in some of them parts of the session have been replaced
by then. For each function that may fail, one lemma says when it does and what it leaves behind;
that the session is intact is read off these lemmas.

* `Session.selectRow_eq_error_iff`, `Session.compileQuery_eq_error_iff` — those that leave a mark;
* `Session.Intact` — what is asked of a session after a failure;
* `Host.failures_leave_session_intact` — all failures of all operations.
-/

namespace SyntaxInspector

/-! ### When functions fail, and what they leave -/

/-- A parse that fails uses no tree number up. -/
theorem Engine.parse_of_error {e : Engine} {next : Nat} {language : Language} {text : String}
    {included : List ByteSpan} {err : ParseError}
    (hparse : (e.parse next language text included).1 = .error err) :
    e.parse next language text included = (.error err, next) := by
  unfold parse at hparse ⊢
  cases hspans : e.badSpan? included with
  | some index => simpa [hspans] using hparse
  | none =>
    cases hnodes : e.nodes next language text included with
    | error err' => simpa [hspans, hnodes] using hparse
    | ok parsed =>
      cases htree : SyntaxTree.ofEntries next parsed.entries parsed.detours with
      | some t => simp [hspans, hnodes, htree] at hparse
      | none => simpa [hspans, hnodes, htree] using hparse

/-- A document refuses a text if it cannot be parsed, at no cost. -/
theorem Document.setText_of_error {e : Engine} {d : Document} {next : Nat} {text : String}
    {err : ParseError} (hparse : (e.parse next d.language text []).1 = .error err) :
    d.setText e next text = (.error err, next) := by
  rw [setText, Engine.parse_of_error hparse]

namespace Session

variable {e : Engine} {s s' : Session} {err : SessionError}

theorem setActiveLayer_eq_error_iff {id : LayerId} :
    s.setActiveLayer id = (s', .error err) ↔
      s.registry.find? id = none ∧ s' = s ∧ err = .layerNotFound id := by
  unfold setActiveLayer
  cases hfind : s.registry.find? id with
  | none => simp [eq_comm]
  | some l =>
    simp only [Option.isNone_some, Bool.false_eq_true, if_false]
    split <;> simp

theorem beginRender_eq_error_iff :
    s.beginRender = (s', .error err) ↔
      s.activeTree? = none ∧ s' = s ∧ err = .noActiveTree s.activeLayer.id := by
  cases htree : s.activeTree? with
  | none => simp [beginRender_of_none htree, eq_comm]
  | some t => simp [beginRender_eq htree]

theorem update_eq_error_iff :
    s.update e = (s', .error err) ↔
      s.activeTree? = none ∧ s' = s ∧ err = .noActiveTree s.activeLayer.id := by
  cases htree : s.activeTree? with
  | none => simp [update_of_none htree, eq_comm]
  | some t => simp [update_eq htree]

theorem runQuery_eq_error_iff {bounds : Option Range} :
    s.runQuery e bounds = (s', .error err) ↔
      s.query.isSome ∧ s.activeTree? = none ∧ s' = s ∧ err = .noActiveTree s.activeLayer.id := by
  unfold runQuery
  cases s.query with
  | none => simp
  | some q =>
    cases s.activeTree? with
    | none => simp [eq_comm]
    | some t => simp

/-- A query text is refused, or taken into use before it turns out that there is no tree. -/
theorem compileQuery_eq_error_iff {source : String} :
    s.compileQuery e source = (s', .error err) ↔
      (∃ ce, CompiledQuery.compile e s.activeLayer.language source = .error ce ∧
        s' = { s with status := some ce.text } ∧ err = .queryCompile ce) ∨
      ∃ q, CompiledQuery.compile e s.activeLayer.language source = .ok q ∧
        s.activeTree? = none ∧
        s' = { s with status := none, marks := captureMarks q, query := some q } ∧
        err = .noActiveTree s.activeLayer.id := by
  unfold compileQuery
  cases CompiledQuery.compile e s.activeLayer.language source with
  | error ce => simp [eq_comm]
  | ok q =>
    have htree : activeTree? { s with status := none, marks := captureMarks q, query := some q } =
      s.activeTree? := activeTree?_congr rfl
    dsimp only
    rw [runQuery_eq_error_iff, htree]
    simp [activeLayer]

/-- There is no such row, or no tree, or no such node in the tree; the echo awaited is forgotten
before any of these turns out. -/
theorem selectRow_eq_error_iff {index : Nat} :
    s.selectRow index = (s', .error err) ↔
      s' = { s with pendingEcho := none } ∧
        (s.rows.get? index = none ∧ err = .nodeNotFound (.row index) ∨
        ∃ row, s.rows.get? index = some row ∧
          (s.activeTree? = none ∧ err = .noActiveTree s.activeLayer.id ∨
          ∃ t, s.activeTree? = some t ∧ t.root.withIdAt? row.range.start row.id = none ∧
            err = .nodeNotFound (.node row.id))) := by
  have htree : activeTree? { s with pendingEcho := none } = s.activeTree? := activeTree?_congr rfl
  unfold selectRow
  dsimp only
  rw [htree]
  cases s.rows.get? index with
  | none => simp [eq_comm]
  | some row =>
    cases s.activeTree? with
    | none => simp [activeLayer, eq_comm]
    | some t =>
      cases hnode : t.root.withIdAt? row.range.start row.id with
      | none => simp [hnode, eq_comm]
      | some node => simp [hnode]

/-- The node at a point is there unless there is no tree. -/
theorem nodeAt_eq_error_iff {p : Point} :
    s.nodeAt p = .error err ↔ s.activeTree? = none ∧ err = .noActiveTree s.activeLayer.id := by
  unfold nodeAt
  cases s.activeTree? with
  | none => simp [eq_comm]
  | some t => simp

/-! ### Failed operations -/

/-- What a failed operation leaves of a session. -/
structure Intact (s : Session) (op : Op) (err : SessionError) (s' : Session) : Prop where
  /-- All but four parts are as before. -/
  rest : s' =
    { s with
      query := s'.query, marks := s'.marks, status := s'.status, pendingEcho := s'.pendingEcho }
  /-- So are the query and its marks, unless there is no tree to run a new query on. -/
  query : s'.query = s.query ∧ s'.marks = s.marks ∨
    ∃ source id, op = .compileQuery source ∧ err = .noActiveTree id
  /-- So is the status, unless a query was to be taken into use. -/
  status : s'.status = s.status ∨ ∃ source, op = .compileQuery source
  /-- If its text was refused, the status tells why. -/
  refused : ∀ ce, err = .queryCompile ce → s'.status = some err.message
  /-- The echo awaited is as before, unless a row was to be selected. -/
  pendingEcho : s'.pendingEcho = s.pendingEcho ∨ ∃ index, op = .selectRow index
  /-- In that case none is awaited. -/
  cleared : ∀ index, op = .selectRow index → s'.pendingEcho = none

/-- Most failures come before anything is replaced. -/
theorem intact_of_eq {op : Op} (hsame : s' = s) (hrow : ∀ index, op ≠ .selectRow index)
    (herr : ∀ ce, err ≠ .queryCompile ce) : s.Intact op err s' := by
  subst hsame
  exact {
    rest := rfl
    query := .inl ⟨rfl, rfl⟩
    status := .inl rfl
    refused := fun ce hce => absurd hce (herr ce)
    pendingEcho := .inl rfl
    cleared := fun index hindex => absurd hindex (hrow index) }

theorem intact_compileQuery {source : String}
    (hfails : s.compileQuery e source = (s', .error err)) :
    s.Intact (.compileQuery source) err s' := by
  rcases compileQuery_eq_error_iff.1 hfails with ⟨ce, -, rfl, rfl⟩ | ⟨q, -, -, rfl, rfl⟩
  · exact {
      rest := rfl
      query := .inl ⟨rfl, rfl⟩
      status := .inr ⟨source, rfl⟩
      refused := by rintro _ ⟨rfl⟩; rfl
      pendingEcho := .inl rfl
      cleared := by simp }
  · exact {
      rest := rfl
      query := .inr ⟨source, s.activeLayer.id, rfl, rfl⟩
      status := .inr ⟨source, rfl⟩
      refused := by simp
      pendingEcho := .inl rfl
      cleared := by simp }

theorem intact_selectRow {index : Nat} (hfails : s.selectRow index = (s', .error err)) :
    s.Intact (.selectRow index) err s' := by
  obtain ⟨rfl, hwhy⟩ := selectRow_eq_error_iff.1 hfails
  refine ⟨rfl, .inl ⟨rfl, rfl⟩, .inl rfl, ?_, .inr ⟨index, rfl⟩, fun _ _ => rfl⟩
  rintro ce rfl
  rcases hwhy with ⟨-, ⟨⟩⟩ | ⟨row, -, ⟨-, ⟨⟩⟩ | ⟨t, -, -, ⟨⟩⟩⟩

end Session

namespace Host

variable {e : Engine} {h : Host} {op : Op} {err : SessionError}

theorem replyOf_eq_failed {α : Type} {ok : α → Reply} (hok : ∀ a err, ok a ≠ .failed err)
    {result : Except SessionError α} (hfailed : replyOf ok result = .failed err) :
    result = .error err := by
  cases result with
  | ok a => exact absurd hfailed (hok a err)
  | error err' => cases hfailed; rfl

/-- An operation that fails leaves the document and the renders begun as they are, and the session
intact. -/
theorem intact_of_failed (hfailed : (h.step e op).2 = .failed err) :
    (h.step e op).1.document = h.document ∧ (h.step e op).1.tickets = h.tickets ∧
      h.session.Intact op err (h.step e op).1.session := by
  cases op with
  | setText text =>
    simp only [step] at hfailed ⊢
    split at hfailed
    · cases hfailed
    · cases hfailed
      exact ⟨rfl, rfl, Session.intact_of_eq rfl (by simp) (by simp)⟩
  | describe text languageName parsed layers =>
    simp only [step] at hfailed ⊢
    split at hfailed
    · cases hfailed
    · rename_i err' next _
      cases hfailed
      refine ⟨rfl, rfl, Session.intact_of_eq rfl (by simp) ?_⟩
      cases err' <;> simp [SessionError.ofDescription]
  | activate id =>
    have hresult := replyOf_eq_failed (by simp) hfailed
    obtain ⟨-, hsame, rfl⟩ := Session.setActiveLayer_eq_error_iff.1 (Prod.ext rfl hresult)
    exact ⟨rfl, rfl, Session.intact_of_eq hsame (by simp) (by simp)⟩
  | update =>
    have hresult := replyOf_eq_failed (by simp) hfailed
    obtain ⟨-, hsame, rfl⟩ := Session.update_eq_error_iff.1 (Prod.ext rfl hresult)
    exact ⟨rfl, rfl, Session.intact_of_eq hsame (by simp) (by simp)⟩
  | begin =>
    simp only [step] at hfailed ⊢
    split at hfailed
    · rename_i s' err' hbegin
      obtain ⟨-, rfl, rfl⟩ := Session.beginRender_eq_error_iff.1 hbegin
      cases hfailed
      exact ⟨rfl, rfl, Session.intact_of_eq rfl (by simp) (by simp)⟩
    · cases hfailed
  | commit number =>
    simp only [step] at hfailed
    split at hfailed <;> cases hfailed
  | compileQuery source =>
    have hresult := replyOf_eq_failed (by simp) hfailed
    exact ⟨rfl, rfl, Session.intact_compileQuery (Prod.ext rfl hresult)⟩
  | runQuery bounds =>
    have hresult := replyOf_eq_failed (by simp) hfailed
    obtain ⟨-, -, hsame, rfl⟩ := Session.runQuery_eq_error_iff.1 (Prod.ext rfl hresult)
    exact ⟨rfl, rfl, Session.intact_of_eq hsame (by simp) (by simp)⟩
  | selectRow index =>
    have hresult := replyOf_eq_failed (by simp) hfailed
    exact ⟨rfl, rfl, Session.intact_selectRow (Prod.ext rfl hresult)⟩
  | _ => cases hfailed

/-- **A failed operation leaves the session intact.** Take a host in any state, however it came
about.

* If an operation fails, the document and the renders begun are as before, and all of the session is
  but for four parts. The query in use and its marks change only if there is no tree to run a new
  query on; the status changes only if a query was to be taken into use, and tells why if its text
  was refused; the echo awaited changes only if a row was to be selected, and is forgotten then.
* If a new text cannot be parsed, nothing changes at all, the document included.
* The node at a point is looked up without a session being handed back. There is one unless there is
  no tree. -/
theorem failures_leave_session_intact (e : Engine) (h : Host) :
    (∀ op err, (h.step e op).2 = .failed err →
      let h' := (h.step e op).1
      h'.document = h.document ∧ h'.tickets = h.tickets ∧
        h.session.Intact op err h'.session) ∧
    (∀ text err, (e.parse h.nextTree h.document.language text []).1 = .error err →
      h.step e (.setText text) = (h, .failed (.parse err))) ∧
    ∀ p err, h.session.nodeAt p = .error err ↔
      h.session.activeTree? = none ∧ err = .noActiveTree h.session.activeLayer.id := by
  refine ⟨fun op err => intact_of_failed, ?_, fun p err => Session.nodeAt_eq_error_iff⟩
  intro text err hparse
  simp only [step, Document.setText_of_error hparse]

/-- An array whose tree is lost after a query was run and a row was selected. -/
def lostArray : Host :=
  (Host.start arrayDocument 1 {}).run arrayEngine
    [.update, .compileQuery "(number) @n", .selectRow 1, .change (arraySnapshot none)]

/-- Highlights outlive a query that cannot be run, rows and the document a failed selection and a
text that is refused. -/
theorem failures_leave_session_intact_lostArray :
    (lostArray.step arrayEngine (.compileQuery "(array) @a")).2 = .failed (.noActiveTree .root) ∧
    lostArray.session.highlights ≠ [] ∧
    (lostArray.step arrayEngine (.compileQuery "(array) @a")).1.session.highlights =
      lostArray.session.highlights ∧
    (lostArray.step arrayEngine (.selectRow 9)).2 = .failed (.nodeNotFound (.row 9)) ∧
    lostArray.session.rows.size ≠ 0 ∧
    (lostArray.step arrayEngine (.selectRow 9)).1.session.rows = lostArray.session.rows ∧
    lostArray.session.pendingEcho = some ⟨⟨0, 0⟩, ⟨0, 3⟩⟩ ∧
    (lostArray.step arrayEngine (.selectRow 9)).1.session.pendingEcho = none ∧
    (lostArray.step arrayEngine (.setText "[2]")).2 = .failed (.parse (.noTree "json")) ∧
    (lostArray.step arrayEngine (.setText "[2]")).1.document = arrayDocument := by
  obtain ⟨hfailed, hrefused, -⟩ := failures_leave_session_intact arrayEngine lostArray
  have hquery := (hfailed (.compileQuery "(array) @a") (.noActiveTree .root) rfl).2.2
  have hrow := (hfailed (.selectRow 9) (.nodeNotFound (.row 9)) rfl).2.2
  have htext := hrefused "[2]" (.noTree "json") rfl
  have hhighlights := congrArg Session.highlights hquery.rest
  have hrows := congrArg Session.rows hrow.rest
  refine ⟨rfl, by decide, hhighlights, rfl, by decide, hrows, rfl, hrow.cleared 9 rfl, ?_, ?_⟩
  · rw [htext]
  · rw [htext]
    rfl

end Host

end SyntaxInspector
