import EzRets.Bindings
import EzRets.Lib.TwoRuns

/-!
# EzRets.Reads — calls that only look

An application describes columns, reads values and asks for diagnostics when it likes.  Such a call
touches nothing of a statement but its records and the position in the column that is read, and no
other call depends on these: what the other calls answer is the same with the reads and without.
-/

namespace EzRets

open FaultRun TwoRuns

/-- The calls that look at a statement. -/
def StmtCall.isRead : StmtCall → Bool
  | .describeCol _ _ | .numResultCols _ | .colAttribute _ _ _ | .rowCount _ | .getData _ _
  | .getStmtAttr _ _ _ | .numParams _ | .getDiagField _ _ _ | .getDiagRec _ _ | .error _
  | .moreResults | .cancel => true
  | _ => false

namespace RetsSTMT

/-- The statement with other records and another position in the column that is read. -/
def withMarks (stmt : RetsSTMT) (mErrors : List Error) (mDataStreamInfo : DataStreamInfo) :
    RetsSTMT :=
  { stmt with mErrors := mErrors, mDataStreamInfo := mDataStreamInfo }

/-- The two statements differ at most in what reads leave behind. -/
def Alike (stmt stmt' : RetsSTMT) : Prop :=
  ∃ mErrors mDataStreamInfo, stmt' = stmt.withMarks mErrors mDataStreamInfo

variable {ctx : CallContext} {stmt stmt' stmt'' : RetsSTMT} {c : StmtCall}

theorem Alike.refl (stmt : RetsSTMT) : Alike stmt stmt := ⟨_, _, rfl⟩

theorem Alike.symm (h : Alike stmt stmt') : Alike stmt' stmt := by
  obtain ⟨mErrors, info, rfl⟩ := h
  exact ⟨stmt.mErrors, stmt.mDataStreamInfo, rfl⟩

theorem Alike.trans (h : Alike stmt stmt') (h' : Alike stmt' stmt'') : Alike stmt stmt'' := by
  obtain ⟨mErrors, info, rfl⟩ := h
  obtain ⟨mErrors', info', rfl⟩ := h'
  exact ⟨mErrors', info', rfl⟩

/-! ## Reads leave marks only -/

/-- A call that leaves nothing but marks. -/
def Marks (stmt : RetsSTMT) (x : Except Fault StmtOut) : Prop :=
  Yields (fun out => Alike stmt out.stmt) x

theorem marks_setString (a : ColAttributeArgs) (value : Str) :
    Alike stmt (stmt.setString a value).stmt := by
  unfold setString
  dsimp only
  split <;> exact ⟨_, _, rfl⟩

theorem marks_sqlColAttribute (columnNumber fieldIdentifier : Nat) (a : ColAttributeArgs) :
    Marks stmt (stmt.sqlColAttribute ctx columnNumber fieldIdentifier a) := by
  have hset : ∀ value, Alike stmt (stmt.clearErrors.setString a value).stmt := fun value =>
    (show Alike stmt stmt.clearErrors from ⟨_, _, rfl⟩).trans (marks_setString a value)
  unfold sqlColAttribute
  dsimp only
  split
  · exact yields_ok ⟨_, _, rfl⟩
  · split
    · exact yields_ok ⟨_, _, rfl⟩
    · split
      · exact yields_ok ⟨_, _, rfl⟩
      · split
        · exact yields_ok ⟨_, _, rfl⟩
        · refine yields_ok ?_
          split <;> exact hset _
        · split
          · exact yields_error _ _
          · exact yields_ok ⟨_, _, rfl⟩

theorem marks_sqlGetData (columnNumber : Nat) (b : Binding) :
    Marks stmt (stmt.sqlGetData ctx columnNumber b) := by
  unfold sqlGetData
  refine yields_bind fun bad _ => ?_
  split
  · exact yields_ok ⟨_, _, rfl⟩
  · dsimp only
    split
    · exact yields_ok ⟨_, _, rfl⟩
    · refine yields_bind fun rs _ => yields_bind fun translated _ => ?_
      split
      · split <;> exact yields_ok ⟨_, _, rfl⟩
      · split <;> exact yields_ok ⟨_, _, rfl⟩

/-- **A read leaves nothing but marks.** -/
theorem marks_uncaught (hc : c.isRead = true) : Marks stmt (stmt.uncaught ctx c) := by
  cases c with
  | describeCol columnNumber a =>
    show Marks stmt (stmt.sqlDescribeCol columnNumber a)
    unfold sqlDescribeCol
    refine yields_bind fun bad _ => ?_
    split
    · exact yields_ok ⟨_, _, rfl⟩
    · refine yields_bind fun rs _ => ?_
      split
      · exact yields_ok ⟨_, _, rfl⟩
      · dsimp only
        split
        · exact yields_error _ _
        · exact yields_ok ⟨_, _, rfl⟩
  | numResultCols columnCount =>
    show Marks stmt (stmt.sqlNumResultCols columnCount)
    unfold sqlNumResultCols
    refine yields_bind fun rs _ => ?_
    split
    · split
      · exact yields_error _ _
      · exact yields_ok ⟨_, _, rfl⟩
    · exact yields_ok ⟨_, _, rfl⟩
  | colAttribute columnNumber fieldIdentifier a =>
    exact marks_sqlColAttribute columnNumber fieldIdentifier a
  | rowCount rowCount =>
    show Marks stmt (stmt.sqlRowCount rowCount)
    unfold sqlRowCount
    refine yields_bind fun rs _ => ?_
    split
    · exact yields_error _ _
    · exact yields_ok ⟨_, _, rfl⟩
  | getData columnNumber b => exact marks_sqlGetData columnNumber b
  | getStmtAttr attr value stringLength =>
    show Marks stmt (stmt.sqlGetStmtAttr ctx attr value stringLength)
    have hstored : ∀ v kind, Marks stmt (if value = 0 then .error .nullOutput
        else .ok ⟨stmt.clearErrors, .ok .success,
          ⟨value, v⟩ :: storeIf stringLength (.integer kind)⟩) := by
      intro v kind
      split
      · exact yields_error _ _
      · exact yields_ok ⟨_, _, rfl⟩
    unfold sqlGetStmtAttr
    dsimp only
    split
    all_goals first | exact hstored _ _ | exact yields_ok ⟨_, _, rfl⟩
  | numParams pcpar =>
    show Marks stmt (stmt.sqlNumParams pcpar)
    unfold sqlNumParams
    split
    · exact yields_error _ _
    · exact yields_ok ⟨_, _, rfl⟩
  | getDiagField recNumber diagIdentifier a => exact yields_map fun _ _ => .refl stmt
  | getDiagRec recNumber a => exact yields_map fun _ _ => .refl stmt
  | error a => exact yields_map fun _ _ => ⟨_, _, rfl⟩
  | moreResults | cancel => exact yields_ok (.refl stmt)
  | bindCol _ _ | fetch | fetchScroll _ | extendedFetch _ _ | freeStmt _ | prepare _
  | execDirect _ | execute | tables _ _ _ _ | columns _ _ _ | getTypeInfo _
  | specialColumns _ _ _ _ _ | statistics _ _ | primaryKeys _ _ _ | setStmtAttr _ _
  | paramOptions _ _ | setDescField _ _ _ _ => cases hc

theorem alike_of_read (hc : c.isRead = true) {returned : Returned}
    (h : stmt.call ctx c = .ok returned) : Alike stmt returned.stmt := by
  obtain ⟨out, hout, rfl⟩ := map_eq_ok.mp h
  have hmarks := marks_uncaught hc out hout
  dsimp only
  split
  · exact hmarks.trans ⟨_, _, rfl⟩
  · exact hmarks

/-! ## No other call depends on the marks -/

/-- The same outcome, up to the marks. -/
structure AlikeOut (out out' : StmtOut) : Prop where
  stmt : Alike out.stmt out'.stmt
  result : out.result = out'.result
  writes : out.writes = out'.writes

theorem alikeOut_returns (h : Alike stmt stmt') (result : SqlReturn) :
    AlikeOut (stmt.returns result) (stmt'.returns result) := ⟨h, rfl, rfl⟩

theorem alikeOut_raises (h : Alike stmt stmt') (e : Error) (result : SqlReturn) :
    AlikeOut (stmt.raises e result) (stmt'.raises e result) := by
  obtain ⟨mErrors, info, rfl⟩ := h
  exact ⟨⟨_, _, rfl⟩, rfl, rfl⟩

theorem alikeOut_throws (h : Alike stmt stmt') (e : Exn) :
    AlikeOut (stmt.throws e) (stmt'.throws e) := ⟨h, rfl, rfl⟩

theorem Alike.clearErrors (h : Alike stmt stmt') : Alike stmt.clearErrors stmt'.clearErrors := by
  obtain ⟨mErrors, info, rfl⟩ := h
  exact ⟨_, _, rfl⟩

theorem Alike.setQuery (h : Alike stmt stmt') (q : Query) :
    Alike (stmt.setQuery q) (stmt'.setQuery q) := by
  obtain ⟨mErrors, info, rfl⟩ := h
  exact ⟨_, _, rfl⟩

theorem Alike.resultSet_eq (h : Alike stmt stmt') : stmt'.resultSet = stmt.resultSet := by
  obtain ⟨mErrors, info, rfl⟩ := h
  rfl

theorem Alike.setResultSet (h : Alike stmt stmt') (rs : ResultSet) :
    Alike (stmt.setResultSet rs) (stmt'.setResultSet rs) := by
  obtain ⟨mErrors, info, rfl⟩ := h
  exact ⟨_, _, rfl⟩

theorem alikeOut_executed (h : Alike stmt stmt') (done : Query.Executed)
    (caught : Exn → Option Error) :
    AlikeOut (stmt.executed done caught) (stmt'.executed done caught) := by
  obtain ⟨mErrors, info, rfl⟩ := h
  have hdone : Alike { stmt.setQuery done.query with mErrors := stmt.mErrors ++ done.errors }
      { (stmt.withMarks mErrors info).setQuery done.query with
        mErrors := mErrors ++ done.errors } := ⟨_, _, rfl⟩
  unfold executed
  dsimp only
  split
  · exact alikeOut_returns hdone _
  · split
    · exact alikeOut_raises hdone _ _
    · exact alikeOut_throws hdone _

theorem agree_runCatalog (h : Alike stmt stmt') (kind : QueryKind) (caught : Exn → Option Error) :
    Agree AlikeOut (stmt.runCatalog ctx kind caught) (stmt'.runCatalog ctx kind caught) := by
  unfold runCatalog
  refine agree_bind _ fun prepared _ => ?_
  rcases prepared with e | rs
  · exact .ok (alikeOut_executed h _ _)
  · exact agree_bind _ fun done _ => .ok (alikeOut_executed h _ _)

theorem agree_fails (h : Alike stmt stmt') (failure : ArgumentFailure) :
    Agree AlikeOut (stmt.fails failure) (stmt'.fails failure) := by
  cases failure with
  | nullText => exact .error _
  | thrown e => exact .ok (alikeOut_throws h e)
  | refused e => exact .ok (alikeOut_raises h e _)

theorem agree_sqlPrepare (h : Alike stmt stmt') (text : SqlText) :
    Agree AlikeOut (stmt.sqlPrepare ctx text) (stmt'.sqlPrepare ctx text) := by
  have hclear := h.clearErrors
  unfold sqlPrepare
  split
  · exact agree_fails hclear _
  · refine agree_map _ fun prepared => ?_
    split
    · exact alikeOut_returns (hclear.setQuery _) _
    · exact alikeOut_raises hclear _ _
    · exact alikeOut_raises hclear _ _
    · exact alikeOut_throws hclear _

theorem agree_catalog (h : Alike stmt stmt') {arguments : Except ArgumentFailure QueryKind}
    (hc : c.catalogArguments = some arguments) :
    Agree AlikeOut (stmt.uncaught ctx c) (stmt'.uncaught ctx c) := by
  obtain ⟨caught, hcall⟩ := uncaught_catalog hc
  rw [hcall, hcall]
  cases arguments with
  | error failure => exact agree_fails h.clearErrors failure
  | ok kind => exact agree_runCatalog h.clearErrors kind caught

theorem agree_sqlExecute (h : Alike stmt stmt') :
    Agree AlikeOut (stmt.sqlExecute ctx) (stmt'.sqlExecute ctx) := by
  have hclear := h.clearErrors
  obtain ⟨mErrors, info, rfl⟩ := h
  exact agree_map _ fun done => alikeOut_executed hclear _ _

theorem agree_sqlExecDirect (h : Alike stmt stmt') (text : SqlText) :
    Agree AlikeOut (stmt.sqlExecDirect ctx text) (stmt'.sqlExecDirect ctx text) := by
  unfold sqlExecDirect
  refine (agree_sqlPrepare h.clearErrors text).bind fun out out' hout => ?_
  rw [← hout.result]
  split
  · exact agree_sqlExecute hout.stmt
  · exact .ok hout

theorem agree_fetchRow (h : Alike stmt stmt') (rs : ResultSet) :
    Agree AlikeOut (stmt.fetchRow ctx rs) (stmt'.fetchRow ctx rs) := by
  obtain ⟨mErrors, info, rfl⟩ := h
  unfold fetchRow
  refine agree_bind _ fun out _ => ?_
  dsimp only
  split
  · exact .ok ⟨⟨_, _, rfl⟩, rfl, rfl⟩
  · split
    · exact .ok ⟨⟨_, _, rfl⟩, rfl, rfl⟩
    · exact .ok ⟨⟨_, _, rfl⟩, rfl, rfl⟩

theorem agree_sqlFetch (h : Alike stmt stmt') :
    Agree AlikeOut (stmt.sqlFetch ctx) (stmt'.sqlFetch ctx) := by
  have hclear := h.clearErrors
  unfold sqlFetch
  dsimp only
  rw [hclear.resultSet_eq]
  refine agree_bind _ fun rs _ => ?_
  split
  · exact .ok (alikeOut_returns hclear _)
  · split
    · exact .ok (alikeOut_throws (hclear.setResultSet _) _)
    · exact .ok (alikeOut_returns (hclear.setResultSet _) _)
    · exact agree_fetchRow hclear _

theorem agree_sqlBindCol (h : Alike stmt stmt') (n : Nat) (b : Binding) :
    Agree AlikeOut (stmt.sqlBindCol n b) (stmt'.sqlBindCol n b) := by
  have hclear := h.clearErrors
  unfold sqlBindCol isBadColumn
  dsimp only
  rw [hclear.resultSet_eq]
  refine agree_bind _ fun bad _ => ?_
  split
  · exact .ok (alikeOut_raises hclear _ _)
  · split
    · exact .ok (alikeOut_returns hclear _)
    · refine agree_bind _ fun rs _ => ?_
      split
      · exact .ok (alikeOut_throws hclear _)
      · exact .ok (alikeOut_returns (hclear.setResultSet _) _)

theorem alikeOut_sqlSetStmtAttr (h : Alike stmt stmt') (attr : Int) (value : Nat) :
    AlikeOut (stmt.sqlSetStmtAttr attr value) (stmt'.sqlSetStmtAttr attr value) := by
  have hclear := h.clearErrors
  have hoption : ∀ unchanged, AlikeOut (stmt.clearErrors.keepsOption unchanged)
      (stmt'.clearErrors.keepsOption unchanged) := by
    intro unchanged
    unfold keepsOption
    split
    · exact alikeOut_returns hclear _
    · exact alikeOut_raises hclear _ _
  obtain ⟨mErrors, info, rfl⟩ := h
  unfold sqlSetStmtAttr
  dsimp only
  split
  all_goals
    first
    | exact hoption _
    | exact alikeOut_raises hclear _ _
    | exact ⟨⟨_, _, rfl⟩, rfl, rfl⟩

theorem alikeOut_sqlParamOptions (h : Alike stmt stmt') (crow : Nat) (pirow : Ptr) :
    AlikeOut (stmt.sqlParamOptions crow pirow) (stmt'.sqlParamOptions crow pirow) := by
  have hsize := alikeOut_sqlSetStmtAttr h 22 crow
  unfold sqlParamOptions
  dsimp only
  rw [← hsize.result]
  split
  · exact hsize
  · exact alikeOut_sqlSetStmtAttr hsize.stmt 21 pirow

theorem alikeOut_sqlSetDescField (h : Alike stmt stmt') (desc : DescriptorType)
    (recNumber fieldIdentifier : Int) (value : Ptr) :
    AlikeOut (stmt.sqlSetDescField desc recNumber fieldIdentifier value)
      (stmt'.sqlSetDescField desc recNumber fieldIdentifier value) := by
  obtain ⟨mErrors, info, rfl⟩ := h
  cases desc <;> exact ⟨⟨_, _, rfl⟩, rfl, rfl⟩

/-- **A call that is no read does not depend on the marks.** -/
theorem agree_uncaught (hc : c.isRead = false) (h : Alike stmt stmt') :
    Agree AlikeOut (stmt.uncaught ctx c) (stmt'.uncaught ctx c) := by
  have hclear := h.clearErrors
  cases c with
  | bindCol columnNumber b => exact agree_sqlBindCol h columnNumber b
  | fetch => exact agree_sqlFetch h
  | fetchScroll fetchOrientation =>
    show Agree AlikeOut (stmt.sqlFetchScroll ctx fetchOrientation)
      (stmt'.sqlFetchScroll ctx fetchOrientation)
    unfold sqlFetchScroll
    dsimp only
    split
    · exact .ok (alikeOut_raises hclear _ _)
    · exact agree_sqlFetch hclear
  | extendedFetch pcrow rgfRowStatus =>
    show Agree AlikeOut (stmt.sqlExtendedFetch ctx pcrow rgfRowStatus)
      (stmt'.sqlExtendedFetch ctx pcrow rgfRowStatus)
    unfold sqlExtendedFetch
    refine (agree_sqlFetch hclear).bind fun out out' hout => ?_
    rw [← hout.result, ← hout.writes]
    split
    · exact .ok hout
    · split
      · exact .error _
      · exact .ok ⟨hout.stmt, rfl, rfl⟩
  | freeStmt option =>
    show Agree AlikeOut (stmt.sqlFreeStmt option) (stmt'.sqlFreeStmt option)
    unfold sqlFreeStmt
    split
    · rw [h.resultSet_eq]
      exact agree_map _ fun rs => alikeOut_returns (h.setResultSet _) _
    · exact .ok (alikeOut_returns h _)
  | prepare text => exact agree_sqlPrepare h text
  | execDirect text => exact agree_sqlExecDirect h text
  | execute => exact agree_sqlExecute h
  | tables catalog schema table type => exact agree_catalog h rfl
  | columns catalog table column => exact agree_catalog h rfl
  | getTypeInfo dataType => exact agree_catalog h rfl
  | specialColumns identifierType catalog table scope nullable => exact agree_catalog h rfl
  | statistics catalog schema => exact agree_catalog h rfl
  | primaryKeys catalog schema table => exact agree_catalog h rfl
  | setStmtAttr attr value => exact .ok (alikeOut_sqlSetStmtAttr h attr value)
  | paramOptions crow pirow => exact .ok (alikeOut_sqlParamOptions h crow pirow)
  | setDescField desc recNumber fieldIdentifier value =>
    exact .ok (alikeOut_sqlSetDescField h desc recNumber fieldIdentifier value)
  | describeCol _ _ | numResultCols _ | colAttribute _ _ _ | rowCount _ | getData _ _
  | getStmtAttr _ _ _ | numParams _ | getDiagField _ _ _ | getDiagRec _ _ | error _
  | moreResults | cancel => cases hc

/-- The same answer from statements that differ by their marks. -/
structure AlikeReturned (returned returned' : Returned) : Prop where
  stmt : Alike returned.stmt returned'.stmt
  result : returned.result = returned'.result
  writes : returned.writes = returned'.writes

theorem agree_call (hc : c.isRead = false) (h : Alike stmt stmt') :
    Agree AlikeReturned (stmt.call ctx c) (stmt'.call ctx c) := by
  refine (agree_uncaught hc h).map fun out out' hout => ⟨?_, ?_, hout.writes⟩
  · dsimp only
    split
    · exact (Alike.trans ⟨_, _, rfl⟩ hout.stmt).trans ⟨_, _, rfl⟩
    · exact hout.stmt
  · dsimp only
    rw [hout.result]
    exact odbcEntry_fst _ _ _

/-- **A call that is no read is answered alike** in statements that differ by their marks. -/
theorem agree_answer {p : CallContext × StmtCall} (hp : p.2.isRead = false)
    (h : Alike stmt stmt') : Agree (LikeAnswers Alike) (answer p stmt) (answer p stmt') :=
  (agree_call hp h).map fun _ _ hreturned =>
    ⟨hreturned.stmt, Prod.ext hreturned.result hreturned.writes⟩

/-- The reads leave a statement as it is, up to the marks. -/
theorem embeds_withoutReads : Component.Embeds answer answer
    (Option.guard fun p : CallContext × StmtCall => !p.2.isRead) (fun _ _ => True) Alike := by
  refine embeds_visible ?_ ?_
  · intro p hp stmt stmt' h
    exact agree_answer (by simpa using hp) h
  · intro p hp stmt stmt₁ r s hanswer h
    obtain ⟨returned, hcall, heq⟩ := map_eq_ok.mp hanswer
    obtain ⟨rfl, -⟩ := Prod.ext_iff.mp heq
    exact (alike_of_read (by simpa using hp) hcall).symm.trans h

/-- **Reads are invisible.**  Without the reads of a run its other calls are answered as with them,
and the statement is the same in the end, up to the marks. -/
theorem withoutReads_of_trace {calls : List (CallContext × StmtCall)}
    {answers : List (SqlReturn × List Write)}
    (h : Component.trace answer calls stmt = .ok (stmt', answers)) :
    ∃ stmt'', Component.trace answer (calls.filter fun p => !p.2.isRead) stmt =
        .ok (stmt'', Component.ownAnswers (Option.guard fun p => !p.2.isRead) calls answers) ∧
      Alike stmt' stmt'' := by
  have hmeets : Meets (Component.next answer) (fun _ _ => True) calls stmt :=
    .of_forall (fun _ _ _ => trivial) stmt
  obtain ⟨stmt'', htrace, halike⟩ := embeds_withoutReads.trace hmeets (.refl stmt) h
  rw [List.filterMap_eq_filter] at htrace
  exact ⟨stmt'', htrace, halike⟩

end RetsSTMT

/-! ## Descriptions last as long as the query -/

/-- The calls that describe the columns of the result set. -/
def StmtCall.describes : StmtCall → Bool
  | .describeCol _ _ | .numResultCols _ | .colAttribute _ _ _ => true
  | _ => false

theorem Column.eq_of_unbind {col col' : Column} (h : col'.unbind = col.unbind) :
    ∃ binding, col' = { col with binding := binding } := by
  obtain ⟨name, kind, binding⟩ := col
  obtain ⟨name', kind', binding'⟩ := col'
  injection h with hname hkind
  subst hname hkind
  exact ⟨binding', rfl⟩

/-- The two result sets have the same columns, bound or not. -/
structure ResultSet.SameColumns (rs rs' : ResultSet) : Prop where
  mTranslator : rs'.mTranslator = rs.mTranslator
  mColumns : rs'.mColumns.map Column.unbind = rs.mColumns.map Column.unbind

namespace ResultSet

variable {rs rs' rs'' : ResultSet}

theorem SameColumns.refl (rs : ResultSet) : SameColumns rs rs := ⟨rfl, rfl⟩

theorem SameColumns.trans (h : SameColumns rs rs') (h' : SameColumns rs' rs'') :
    SameColumns rs rs'' :=
  ⟨h'.mTranslator.trans h.mTranslator, h'.mColumns.trans h.mColumns⟩

/-- Binding a column does not change what it is. -/
theorem sameColumns_bindColumn {n : Nat} {b : Binding} (h : rs.bindColumn n b = some rs') :
    SameColumns rs rs' := by
  obtain ⟨column, hcolumn, rfl⟩ := Option.map_eq_some_iff.mp h
  refine ⟨rfl, ?_⟩
  have hget : rs.mColumns[n - 1]? = some column := by
    unfold getColumn at hcolumn
    split at hcolumn
    · cases hcolumn
    · exact hcolumn
  have hunbind : (column.bind b).unbind = column.unbind := rfl
  obtain ⟨hlt, rfl⟩ := List.getElem?_eq_some_iff.mp hget
  show (rs.mColumns.set (n - 1) _).map Column.unbind = _
  have hlt' : n - 1 < (rs.mColumns.map Column.unbind).length := by simpa using hlt
  have hmap : rs.mColumns[n - 1].unbind = (rs.mColumns.map Column.unbind)[n - 1] := by simp
  rw [List.map_set, hunbind, hmap, List.set_getElem_self]

theorem sameColumns_unbindColumns (rs : ResultSet) : SameColumns rs rs.unbindColumns := by
  refine ⟨rfl, ?_⟩
  show (rs.mColumns.map Column.unbind).map Column.unbind = _
  rw [List.map_map]
  rfl

theorem SameColumns.columnCount (h : SameColumns rs rs') : rs'.columnCount = rs.columnCount := by
  have hlength := congrArg List.length h.mColumns
  rwa [List.length_map, List.length_map] at hlength

/-- Column by column the two are the same up to the binding. -/
theorem SameColumns.getColumn (h : SameColumns rs rs') (n : Nat) :
    (rs.getColumn n = none ∧ rs'.getColumn n = none) ∨ ∃ column binding,
      rs.getColumn n = some column ∧
        rs'.getColumn n = some { column with binding := binding } := by
  have hcolumn : (rs'.getColumn n).map Column.unbind = (rs.getColumn n).map Column.unbind := by
    unfold ResultSet.getColumn
    split
    · rfl
    · rw [← List.getElem?_map, ← List.getElem?_map, h.mColumns]
  rcases hget : rs.getColumn n with _ | column
  · rw [hget] at hcolumn
    exact .inl ⟨rfl, Option.map_eq_none_iff.mp hcolumn⟩
  · rw [hget] at hcolumn
    obtain ⟨column', hget', hunbind⟩ := Option.map_eq_some_iff.mp hcolumn
    obtain ⟨binding, rfl⟩ := Column.eq_of_unbind hunbind
    exact .inr ⟨column, binding, rfl, hget'⟩

end ResultSet

namespace RetsSTMT

variable {ctx : CallContext} {stmt stmt' : RetsSTMT} {c : StmtCall}

/-- The two statements have result sets with the same columns, or none. -/
inductive Described : Option ResultSet → Option ResultSet → Prop
  | none : Described none none
  | some {rs rs' : ResultSet} : rs.SameColumns rs' → Described (some rs) (some rs')

theorem Described.refl (q : Option ResultSet) : Described q q := by
  cases q with
  | none => exact .none
  | some rs => exact .some (.refl rs)

theorem Described.trans {q q' q'' : Option ResultSet} (h : Described q q')
    (h' : Described q' q'') : Described q q'' := by
  cases h with
  | none => exact h'
  | some hrs =>
    cases h' with
    | some hrs' => exact .some (hrs.trans hrs')

/-- **A step keeps the columns** unless it installs a new query. -/
theorem StmtStep.described (h : StmtStep ctx c stmt stmt') (hc : c.installs ctx = false) :
    Described stmt.mQuery.mResultSet stmt'.mQuery.mResultSet := by
  cases h with
  | keep hq => rw [hq]; exact .refl _
  | stream hq => rw [hq]; exact .refl _
  | rows hrs _ hq =>
    rw [hq, hrs]
    exact .some ⟨rfl, rfl⟩
  | bind _ hrs hbind hq =>
    rw [hq, hrs]
    exact .some (ResultSet.sameColumns_bindColumn hbind)
  | unbind _ hrs hq =>
    rw [hq, hrs]
    exact .some (ResultSet.sameColumns_unbindColumns _)
  | install hinstalls => exact absurd (hc.symm.trans hinstalls) (by decide)

/-- What the application sees of two outcomes is the same. -/
structure SameAnswer (out out' : StmtOut) : Prop where
  result : out.result = out'.result
  writes : out.writes = out'.writes

theorem sameAnswer_setString (stmt stmt' : RetsSTMT) (a : ColAttributeArgs) (value : Str) :
    SameAnswer (stmt.setString a value) (stmt'.setString a value) := by
  unfold setString
  dsimp only
  split <;> exact ⟨rfl, rfl⟩

/-- What an attribute is does not depend on the binding. -/
theorem colAttribute_congr (conn : Connection) {rs rs' : ResultSet} (h : rs.SameColumns rs')
    (column : Column) (binding : Option Binding) (fieldIdentifier : Nat) :
    colAttribute conn rs' { column with binding := binding } fieldIdentifier =
      colAttribute conn rs column fieldIdentifier := by
  unfold colAttribute
  rw [h.columnCount, h.mTranslator]
  rfl

theorem agree_resultSet (h : Described stmt.mQuery.mResultSet stmt'.mQuery.mResultSet) :
    Agree ResultSet.SameColumns stmt.resultSet stmt'.resultSet := by
  unfold resultSet
  generalize stmt.mQuery.mResultSet = q at h
  generalize stmt'.mQuery.mResultSet = q' at h
  cases h with
  | none => exact .error _
  | some hrs => exact .ok hrs

/-- **What describes the columns** depends on them alone. -/
theorem agree_describes (hc : c.describes = true)
    (h : Described stmt.mQuery.mResultSet stmt'.mQuery.mResultSet) :
    Agree SameAnswer (stmt.uncaught ctx c) (stmt'.uncaught ctx c) := by
  have hresultSet : Agree ResultSet.SameColumns stmt.clearErrors.resultSet
      stmt'.clearErrors.resultSet := agree_resultSet h
  cases c with
  | describeCol columnNumber a =>
    show Agree SameAnswer (stmt.sqlDescribeCol columnNumber a) (stmt'.sqlDescribeCol columnNumber a)
    have hbad : Agree Eq (stmt.clearErrors.isBadColumn columnNumber)
        (stmt'.clearErrors.isBadColumn columnNumber) := by
      unfold isBadColumn
      split
      · refine hresultSet.map fun rs rs' hrs => ?_
        rw [hrs.columnCount]
      · exact .ok rfl
    unfold sqlDescribeCol
    refine hbad.bind fun bad _ hbad => ?_
    subst hbad
    split
    · exact .ok ⟨rfl, rfl⟩
    · refine hresultSet.bind fun rs rs' hrs => ?_
      obtain ⟨hget, hget'⟩ | ⟨column, binding, hget, hget'⟩ := hrs.getColumn columnNumber
      · rw [hget, hget']
        exact .ok ⟨rfl, rfl⟩
      · rw [hget, hget', hrs.mTranslator]
        dsimp only
        split
        · exact .error _
        · exact .ok ⟨rfl, rfl⟩
  | numResultCols columnCount =>
    show Agree SameAnswer (stmt.sqlNumResultCols columnCount) (stmt'.sqlNumResultCols columnCount)
    unfold sqlNumResultCols
    refine hresultSet.bind fun rs rs' hrs => ?_
    rw [hrs.columnCount]
    split
    · split
      · exact .error _
      · exact .ok ⟨rfl, rfl⟩
    · exact .ok ⟨rfl, rfl⟩
  | colAttribute columnNumber fieldIdentifier a =>
    show Agree SameAnswer (stmt.sqlColAttribute ctx columnNumber fieldIdentifier a)
      (stmt'.sqlColAttribute ctx columnNumber fieldIdentifier a)
    unfold sqlColAttribute
    dsimp only [clearErrors]
    generalize stmt.mQuery.mResultSet = q at h
    generalize stmt'.mQuery.mResultSet = q' at h
    cases h with
    | none => exact .ok ⟨rfl, rfl⟩
    | @some rs rs' hrs =>
      dsimp only
      rw [hrs.columnCount]
      split
      · exact .ok ⟨rfl, rfl⟩
      · obtain ⟨hget, hget'⟩ | ⟨column, binding, hget, hget'⟩ := hrs.getColumn columnNumber
        · rw [hget, hget']
          exact .ok ⟨rfl, rfl⟩
        · rw [hget, hget']
          dsimp only
          rw [colAttribute_congr ctx.conn hrs]
          split
          · exact .ok ⟨rfl, rfl⟩
          · have hset := sameAnswer_setString stmt.clearErrors stmt'.clearErrors a
            refine .ok ?_
            split
            · exact ⟨rfl, (hset _).writes⟩
            · exact hset _
          · split
            · exact .error _
            · exact .ok ⟨rfl, rfl⟩
  | bindCol _ _ | fetch | fetchScroll _ | extendedFetch _ _ | getData _ _ | rowCount _ | freeStmt _
  | getDiagField _ _ _ | getDiagRec _ _ | error _ | prepare _ | execDirect _ | execute
  | tables _ _ _ _ | columns _ _ _ | getTypeInfo _ | specialColumns _ _ _ _ _ | statistics _ _
  | primaryKeys _ _ _ | setStmtAttr _ _ | getStmtAttr _ _ _ | paramOptions _ _
  | setDescField _ _ _ _ | numParams _ | moreResults | cancel => cases hc

theorem described_of_run {calls : List (CallContext × StmtCall)} (hq : stmt.mQuery.WellFormed)
    (hcalls : ∀ p ∈ calls, p.2.installs p.1 = false) (h : run calls stmt = .ok stmt') :
    Described stmt.mQuery.mResultSet stmt'.mQuery.mResultSet := by
  induction calls generalizing stmt with
  | nil =>
    cases h
    exact .refl _
  | cons p calls ih =>
    obtain ⟨stmt₁, hstep, hrest⟩ := bind_eq_ok.mp h
    obtain ⟨returned, hcall, rfl⟩ := map_eq_ok.mp hstep
    have hfirst := call_step hq hcall
    exact (StmtStep.described hfirst (hcalls p List.mem_cons_self)).trans
      (ih (hfirst.wellFormed hq) (fun p hp => hcalls p (List.mem_cons_of_mem _ hp)) hrest)

/-- **Descriptions last.**  In a run that installs no query the columns are described in the end as
they were in the beginning. -/
theorem describes_alike_of_run {before calls : List (CallContext × StmtCall)}
    (hbefore : run before new = .ok stmt) (hrun : run calls stmt = .ok stmt')
    (hcalls : ∀ p ∈ calls, p.2.installs p.1 = false) (hc : c.describes = true) :
    Agree (fun returned returned' => returned.result = returned'.result ∧
      returned.writes = returned'.writes) (stmt.call ctx c) (stmt'.call ctx c) := by
  have hdescribed := described_of_run (run_wellFormed Query.wellFormed_new hbefore) hcalls hrun
  refine (agree_describes hc hdescribed).map fun out out' hout => ⟨?_, hout.writes⟩
  dsimp only
  rw [hout.result]
  exact odbcEntry_fst _ _ _

/-! ## A list of types, looked at -/

/-- The first column is described to the addresses from 100 on. -/
def describeFirst : StmtCall := .describeCol 1 ⟨100, 50, 200, 300, 400, 500, 600⟩

/-- The types are listed, counted and described, one is fetched and read. -/
def lookedAt : List (CallContext × StmtCall) :=
  [(idleContext, .getTypeInfo 0), (idleContext, .rowCount 100), (idleContext, describeFirst),
    (idleContext, .bindCol 1 nameBinding), (idleContext, .fetch),
    (idleContext, .getData 1 nameBinding)]

/-- The list, the binding and the fetch alone. -/
theorem withoutReads_lookedAt : ∃ stmt answers stmt',
    Component.trace answer lookedAt new = .ok (stmt, answers) ∧
    Component.trace answer [(idleContext, .getTypeInfo 0), (idleContext, .bindCol 1 nameBinding),
      (idleContext, .fetch)] new = .ok (stmt',
        Component.ownAnswers (Option.guard fun p => !p.2.isRead) lookedAt answers) ∧
    Alike stmt stmt' := by
  have htrace : Component.trace answer lookedAt new = .ok _ := rfl
  obtain ⟨stmt', hwithout, halike⟩ := withoutReads_of_trace htrace
  exact ⟨_, _, stmt', htrace, hwithout, halike⟩

/-- The name column is described after the fetch as before it. -/
theorem describes_alike_typeInfo : ∃ stmt stmt',
    run [(idleContext, .getTypeInfo 0)] new = .ok stmt ∧
    run [(idleContext, .bindCol 1 nameBinding), (idleContext, .fetch)] stmt = .ok stmt' ∧
    Agree (fun returned returned' => returned.result = returned'.result ∧
      returned.writes = returned'.writes) (stmt.call idleContext describeFirst)
      (stmt'.call idleContext describeFirst) := by
  have hbefore : run [(idleContext, .getTypeInfo 0)] new = .ok _ := rfl
  have hcalls : ∀ p ∈ [(idleContext, StmtCall.bindCol 1 nameBinding), (idleContext, .fetch)],
      p.2.installs p.1 = false := by
    intro p hp
    simp only [List.mem_cons, List.not_mem_nil, or_false] at hp
    rcases hp with rfl | rfl <;> rfl
  exact ⟨_, _, hbefore, rfl, describes_alike_of_run hbefore rfl hcalls rfl⟩

end RetsSTMT

end EzRets
