import EzRets.GetData
import EzRets.Lib.ForwardCursor
import EzRets.ReExecution

/-!
# EzRets.BulkCursor — the rows of a bulk result set are visited once

The iterator of a `BulkResultSet` and its flag are a forward cursor over the stored rows.  The three
fetch calls move it, whether the row converts or not; `SQLBindCol` and `SQLGetData` leave it where
it stands.
-/

namespace EzRets

open FaultRun

/-! ## The iterator as a cursor -/

namespace BulkRows

/-- The rows with the number of those that have been visited. -/
def cursor (rs : BulkRows) : ForwardCursor (List Str) where
  rows := rs.mResults
  visited := if rs.mGotFirst then rs.mResultIterator + 1 else 0
  bound := by
    split_ifs with hfirst
    · exact rs.fetched hfirst
    · exact Nat.zero_le _

theorem cursor_visited (rs : BulkRows) :
    rs.cursor.visited = if rs.mGotFirst then rs.mResultIterator + 1 else rs.mResultIterator := by
  rcases hfirst : rs.mGotFirst with _ | _
  · simp [cursor, hfirst, rs.unfetched hfirst]
  · simp [cursor, hfirst]

theorem cursor_new (rows : List (List Str)) :
    (BulkRows.new.addRows rows).cursor = .start rows := by
  have hrows : (BulkRows.new.addRows rows).mResults = rows := by
    rw [addRows_mResults]
    rfl
  have hfirst : (BulkRows.new.addRows rows).mGotFirst = false := addRows_mGotFirst _ _
  ext1
  · exact hrows
  · simp [cursor, hfirst, ForwardCursor.start]

theorem hasNext_eq (rs : BulkRows) : rs.hasNext = rs.cursor.upcoming.isSome := by
  have hpending : rs.pendingRows = rs.mResults.drop rs.cursor.visited := by
    rw [cursor_visited]
    rfl
  have hsome : rs.cursor.upcoming.isSome ↔ rs.pendingRows ≠ [] := by
    rw [hpending, ne_eq, List.drop_eq_nil_iff, Option.isSome_iff_ne_none, ne_eq,
      ForwardCursor.upcoming, List.getElem?_eq_none_iff]
    rfl
  rw [Bool.eq_iff_iff, hasNext_iff, hsome]

/-- **`processNextRow` moves the cursor** to the row that it announced. -/
theorem next_cursor {rs : BulkRows} {row : List Str} (h : rs.cursor.upcoming = some row) :
    ∃ rs', rs.next = .ok (row, rs') ∧ rs'.cursor = rs.cursor.move := by
  obtain ⟨hlt, hrow⟩ := List.getElem?_eq_some_iff.mp h
  have hvisited := rs.cursor_visited
  unfold next
  extract_lets iterator
  have hiterator : iterator = rs.cursor.visited := hvisited.symm
  have hlt' : iterator < rs.mResults.length := by
    rw [hiterator]
    exact hlt
  rw [dif_pos hlt']
  refine ⟨⟨true, rs.mResults, iterator, fun _ => hlt', by simp⟩, ?_, ?_⟩
  · have hget : rs.mResults.get ⟨iterator, hlt'⟩ = row := by
      simp only [List.get_eq_getElem, hiterator]
      exact hrow
    rw [hget]
  · ext1
    · rfl
    · show iterator + 1 = min (rs.cursor.visited + 1) rs.mResults.length
      omega

/-- `getData` reads the row that the cursor stands on. -/
theorem current_cursor {rs : BulkRows} {row : List Str} (h : rs.cursor.current = some row) :
    rs.mResults[rs.mResultIterator]? = some row := by
  unfold ForwardCursor.current at h
  rcases hfirst : rs.mGotFirst with _ | _
  · simp [cursor, hfirst] at h
  · have hvisited : rs.cursor.visited = rs.mResultIterator + 1 := by
      rw [cursor_visited, hfirst]
      rfl
    rw [hvisited, if_neg (Nat.succ_ne_zero _)] at h
    exact h

end BulkRows

/-! ## What one execution stores -/

namespace Query

/-- A bulk query is prepared with an empty result set. -/
theorem prepareResultSet_bulk {conn : Connection} {kind : QueryKind} {rs : ResultSet}
    (hkind : kind.resultSetType = some .bulk)
    (h : prepareResultSet conn kind = .ok (.ok rs)) : rs.rows = .bulk BulkRows.new := by
  have checked : ∀ {columns : List Column} {check : Except Fault (Option Exn)},
      check.map (prepareChecked columns) = .ok (.ok rs) → rs.rows = .bulk BulkRows.new := by
    intro columns check h
    obtain ⟨e, -, he⟩ := map_eq_ok.mp h
    rcases e with _ | e
    · rw [← Except.ok.inj he]
      rfl
    · cases he
  have direct : ∀ {rs' : ResultSet}, rs'.rows = .bulk BulkRows.new →
      (.ok (.ok rs') : Except Fault (Except Exn ResultSet)) = .ok (.ok rs) →
        rs.rows = .bulk BulkRows.new := by
    intro rs' hrows h
    rw [← Except.ok.inj (Except.ok.inj h)]
    exact hrows
  rcases kind with _ | q | ⟨_, q⟩ | q | q | q | _ | _ | _ | _ | _ | _
  · cases hkind
  · exact checked h
  · cases hkind
  · cases hkind
  · exact checked h
  · exact checked h
  all_goals exact direct rfl h

/-- **The first execution of a bulk query** stores its rows in front of which the iterator stands. -/
theorem execute_stores {conn : Connection} {kind : QueryKind} {rs : ResultSet} {out : Executed}
    (hkind : kind.resultSetType = some .bulk) (hprepared : prepareResultSet conn kind = .ok (.ok rs))
    (h : execute conn ⟨kind, some rs⟩ = .ok out) :
    ∃ rs' rows, out.query.mResultSet = some rs' ∧ rs'.rows = .bulk (BulkRows.new.addRows rows) := by
  obtain ⟨dt, columns, rows⟩ := rs
  have hrows : rows = .bulk BulkRows.new := prepareResultSet_bulk hkind hprepared
  subst hrows
  have hexecution : ∀ execution, bulkExecution conn 0 kind = some execution →
      execute conn ⟨kind, some ⟨dt, columns, .bulk BulkRows.new⟩⟩ = execution.map fun done =>
        ⟨⟨kind, some ⟨dt, columns, .bulk (BulkRows.new.addRows done.rows)⟩⟩, done.errors,
          done.result⟩ := by
    intro execution hsome
    rcases kind with _ | q | ⟨_, q⟩ | q | q | q | _ | _ | _ | _ | _ | _
    · cases hkind
    · rw [← Option.some.inj hsome]; rfl
    · cases hkind
    · cases hkind
    all_goals rw [← Option.some.inj hsome]; rfl
  obtain ⟨execution, hsome⟩ : ∃ execution, bulkExecution conn 0 kind = some execution := by
    rcases kind with _ | q | ⟨_, q⟩ | q | q | q | _ | _ | _ | _ | _ | _
    · cases hkind
    · exact ⟨_, rfl⟩
    · cases hkind
    · cases hkind
    all_goals exact ⟨_, rfl⟩
  rw [hexecution execution hsome] at h
  obtain ⟨done, -, rfl⟩ := map_eq_ok.mp h
  exact ⟨_, done.rows, rfl, rfl⟩

end Query

namespace RetsSTMT

/-! ## Calls on a bulk result set -/

/-- The three calls that fetch the next row.  `SQLExtendedFetch` stores through both its pointers. -/
inductive FetchCall : StmtCall → Prop
  | fetch : FetchCall .fetch
  | fetchScroll : FetchCall (.fetchScroll 1)
  | extendedFetch {pcrow rgfRowStatus : Ptr} (hpcrow : pcrow ≠ 0) (hstatus : rgfRowStatus ≠ 0) :
      FetchCall (.extendedFetch pcrow rgfRowStatus)

/-- The result set has `n` columns and its iterator stands where the cursor does. -/
def OnCursor (n : Nat) (cursor : ForwardCursor (List Str)) (stmt : RetsSTMT) : Prop :=
  ∃ rs it, stmt.mQuery.mResultSet = some rs ∧ rs.columnCount = n ∧ rs.rows = .bulk it ∧
    it.cursor = cursor

/-- The call has stored the values of the row for the columns bound at the time, up to the first
that fails, and has succeeded iff none does. -/
def Delivers (ctx : CallContext) (stmt : RetsSTMT) (row : List Str) (r : Returned) : Prop :=
  ∃ rs, stmt.mQuery.mResultSet = some rs ∧
    (∃ status, (∀ w ∈ status, w.IsStatus) ∧ r.writes =
      boundStores ctx.deref stmt.ard rs.mTranslator rs.mColumns row ++ status) ∧
    ((∃ cell ∈ boundCells rs.mColumns row,
      (cell.translated ctx.deref stmt.ard rs.mTranslator).thrown ≠ none) → r.result = .error) ∧
    (row.length ≤ rs.columnCount → (∀ cell ∈ boundCells rs.mColumns row,
      (cell.translated ctx.deref stmt.ard rs.mTranslator).thrown = none) → r.result = .success)

/-- The call has read the value of the row in the column, or found its stream at the end. -/
def Reads (ctx : CallContext) (stmt : RetsSTMT) (columnNumber : Nat) (b : Binding)
    (row : List Str) (r : Returned) : Prop :=
  ∃ rs column, stmt.mQuery.mResultSet = some rs ∧ rs.getColumn columnNumber = some column ∧
    ((stmt.streamFor columnNumber).status = .noMoreData → r.result = .noData ∧ r.writes = []) ∧
    ∀ value, row[columnNumber - 1]? = some value →
      (stmt.streamFor columnNumber).status ≠ .noMoreData →
        r.writes = (column.setData ctx.deref stmt.ard rs.mTranslator (columnNumber - 1) value b
          (some (stmt.streamFor columnNumber))).writes

variable {ctx : CallContext} {stmt : RetsSTMT}

/-- The entry wrapper around the three fetch calls. -/
theorem call_fetchCall {c : StmtCall} (hc : FetchCall c) {out : StmtOut}
    (h : stmt.sqlFetch ctx = .ok out) : ∃ status, (∀ w ∈ status, w.IsStatus) ∧
    stmt.call ctx c = .ok ⟨{ out.stmt with mErrors := (odbcEntry out.stmt.mErrors out.result).2 },
      (odbcEntry out.stmt.mErrors out.result).1, out.writes ++ status⟩ := by
  have hclear : stmt.clearErrors.sqlFetch ctx = stmt.sqlFetch ctx := rfl
  rcases hc with _ | _ | ⟨hpcrow, hstatus⟩
  · refine ⟨[], by simp, ?_⟩
    rw [call_fetch h, List.append_nil]
  · refine ⟨[], by simp, ?_⟩
    rw [List.append_nil]
    simp only [call, uncaught, sqlFetchScroll, ne_eq, not_true_eq_false, if_false, hclear, h]
    rfl
  · rename_i pcrow rgfRowStatus
    have hnull : ¬ (pcrow = 0 ∨ rgfRowStatus = 0) := not_or.mpr ⟨hpcrow, hstatus⟩
    simp only [call, uncaught, sqlExtendedFetch, hclear, h, bind, Except.bind]
    rcases hresult : out.result with e | result
    · refine ⟨[], by simp, ?_⟩
      rw [List.append_nil]
      simp only [Except.map, pure, Except.pure]
      rw [hresult]
      rfl
    · simp only [if_neg hnull]
      refine ⟨[⟨pcrow, .ulen (if result ≠ .error then 1 else 0)⟩,
        ⟨rgfRowStatus, .usmallint (result.code % 2 ^ 16).toNat⟩], ?_, ?_⟩
      · intro w hw
        have hcases : w.value = .ulen (if result ≠ .error then 1 else 0) ∨
            w.value = .usmallint (result.code % 2 ^ 16).toNat := by
          rcases List.mem_cons.mp hw with rfl | hw
          · exact .inl rfl
          · rw [List.mem_singleton.mp hw]
            exact .inr rfl
        rcases hcases with hvalue | hvalue <;>
          exact ⟨fun p => by simp [Write.charAt, hvalue], fun p => by simp [Write.lenAt, hvalue]⟩
      · simp only [Except.map, pure, Except.pure]
        rfl

/-! ## One call -/

/-- **A fetch that has moved to a row delivers the values** that the row has for the columns. -/
theorem RowVisited.delivers {rs : ResultSet} {row : RowData} {rows : RowSource} {out : StmtOut}
    {values : List Str} {status : List Write} (hrs : stmt.mQuery.mResultSet = some rs)
    (hvisited : RowVisited ctx stmt { rs with rows := rows } row out)
    (hcells : (row.cells rs.mColumns).cells = rs.mColumns.zip values)
    (hread : values.length ≤ rs.columnCount → (row.cells rs.mColumns).thrown = none)
    (hends : match (setCells ctx.deref stmt.ard rs.mTranslator 0 (row.cells rs.mColumns).cells).2.or
        (row.cells rs.mColumns).thrown with
      | none => out.result = .ok .success ∧ out.stmt.mErrors = []
      | some _ => out.result = .ok .error ∨ out.result = .error .unknown)
    (hstatus : ∀ w ∈ status, w.IsStatus) :
    Delivers ctx stmt values ⟨{ out.stmt with mErrors := (odbcEntry out.stmt.mErrors out.result).2 },
      (odbcEntry out.stmt.mErrors out.result).1, out.writes ++ status⟩ := by
  obtain ⟨status', hstatus', hwrites⟩ := hvisited.writes
  obtain ⟨hstores, hthrown⟩ := setCells_bulk ctx.deref stmt.ard rs.mTranslator rs.mColumns values
  rw [← hcells] at hstores hthrown
  refine ⟨rs, hrs, ⟨status' ++ status, ?_, ?_⟩, ?_, ?_⟩
  · intro w hw
    rcases List.mem_append.mp hw with hw | hw
    · exact hstatus' w hw
    · exact hstatus w hw
  · show out.writes ++ status = _
    rw [hwrites, ← hstores, List.append_assoc]
  · rintro ⟨cell, hcell, hfail⟩
    have hsome : ((boundCells rs.mColumns values).findSome? fun cell =>
        (cell.translated ctx.deref stmt.ard rs.mTranslator).thrown).isSome :=
      List.findSome?_isSome_iff.mpr ⟨cell, hcell, Option.isSome_iff_ne_none.mpr hfail⟩
    obtain ⟨e, he⟩ := Option.isSome_iff_exists.mp (hthrown ▸ hsome)
    rw [he] at hends
    show (odbcEntry out.stmt.mErrors out.result).1 = .error
    rcases hends with hends | hends <;> rw [hends] <;> rfl
  · intro hlength hall
    have hnone := hthrown.trans (List.findSome?_eq_none_iff.mpr hall)
    rw [hnone, hread hlength] at hends
    show (odbcEntry out.stmt.mErrors out.result).1 = .success
    rw [show out.result = .ok .success from hends.1]
    rfl

section OneCall

variable {n : Nat} {cursor : ForwardCursor (List Str)} {c : StmtCall}

/-- **A fetch with a row to come** moves to it, whether its values convert or not. -/
theorem fetch_visits (ctx : CallContext) (hc : FetchCall c) (hon : OnCursor n cursor stmt)
    {row : List Str} (hrow : cursor.upcoming = some row) :
    ∃ r, stmt.call ctx c = .ok r ∧ Delivers ctx stmt row r ∧ OnCursor n cursor.move r.stmt := by
  obtain ⟨rs, it, hrs, hn, hrows, rfl⟩ := hon
  obtain ⟨it', hnext, hit'⟩ := BulkRows.next_cursor hrow
  have hhas : rs.rows.hasNext = (.ok true, .bulk it) := by
    rw [hrows]
    show (Except.ok it.hasNext, RowSource.bulk it) = _
    rw [it.hasNext_eq, hrow]
    rfl
  have hempty : rs.rows.isEmpty = false := by
    rw [hrows]
    show it.mResults.isEmpty = false
    obtain ⟨hlt, -⟩ := List.getElem?_eq_some_iff.mp hrow
    have hpos : 0 < it.mResults.length := by
      have hlt' : it.cursor.visited < it.mResults.length := hlt
      omega
    exact List.isEmpty_eq_false_iff.mpr (List.ne_nil_of_length_pos hpos)
  have hadvance : (RowSource.bulk it).advance = .ok (.bulk row, .bulk it') := by
    simp only [RowSource.advance, hnext, Except.map]
  obtain ⟨out, hfetch, hvisited, hends⟩ :=
    sqlFetch_ends ctx hrs ⟨hempty, _, _, hhas, hadvance, rfl⟩
  obtain ⟨status', hstatus', hcall⟩ := call_fetchCall hc hfetch
  exact ⟨_, hcall, hvisited.delivers hrs rfl (fun hlength => if_pos hlength) hends hstatus',
    _, it', hvisited.resultSet, hn, rfl, hit'⟩

/-- **A fetch at the end** says so and stays on the last row. -/
theorem fetch_exhausted (ctx : CallContext) (hc : FetchCall c) (hon : OnCursor n cursor stmt)
    (hend : cursor.upcoming = none) :
    ∃ r, stmt.call ctx c = .ok r ∧ r.result = .noData ∧ OnCursor n cursor r.stmt := by
  obtain ⟨rs, it, hrs, hn, hrows, rfl⟩ := hon
  have hfetch : ∃ rs', rs'.columnCount = n ∧ rs'.rows = .bulk it ∧
      stmt.sqlFetch ctx = .ok ((stmt.clearErrors.setResultSet rs').returns .noData) := by
    rcases hempty : rs.rows.isEmpty with _ | _
    · have hhas : rs.rows.hasNext = (.ok false, .bulk it) := by
        rw [hrows]
        show (Except.ok it.hasNext, RowSource.bulk it) = _
        rw [it.hasNext_eq, hend]
        rfl
      refine ⟨{ rs with rows := .bulk it }, hn, rfl, ?_⟩
      rw [sqlFetch_of_hasNext ctx hrs hempty, hhas]
    · refine ⟨rs, hn, hrows, ?_⟩
      have hrs' : stmt.clearErrors.resultSet = .ok rs := (resultSet_eq_ok _).mpr hrs
      have hsame : stmt.clearErrors.setResultSet rs = stmt.clearErrors := by
        unfold setResultSet setQuery
        rw [← hrs]
        rfl
      simp only [sqlFetch, hrs', bind, Except.bind, hempty, if_true, hsame]
      rfl
  obtain ⟨rs', hn', hrows', hout⟩ := hfetch
  obtain ⟨status, -, hcall⟩ := call_fetchCall hc hout
  exact ⟨_, hcall, rfl, rs', it, rfl, hn', hrows', rfl⟩

/-- `SQLBindCol` on a column of the result set leaves the cursor where it stands. -/
theorem bindCol_keeps (ctx : CallContext) (hon : OnCursor n cursor stmt) {columnNumber : Nat}
    (hpos : 1 ≤ columnNumber) (hle : columnNumber ≤ n) (b : Binding) :
    ∃ r, stmt.call ctx (.bindCol columnNumber b) = .ok r ∧ OnCursor n cursor r.stmt := by
  obtain ⟨rs, it, hrs, hn, hrows, rfl⟩ := hon
  have hbad : stmt.clearErrors.isBadColumn columnNumber = .ok false :=
    isBadColumn_of_some hrs columnNumber
  have hrs' : stmt.clearErrors.resultSet = .ok rs := (resultSet_eq_ok _).mpr hrs
  by_cases hnull : b.targetValue = 0
  · have hout : stmt.sqlBindCol columnNumber b = .ok (stmt.clearErrors.returns .error) := by
      simp only [sqlBindCol, hbad, bind, Except.bind, Bool.false_eq_true, if_false, if_pos hnull]
      rfl
    exact ⟨entered _, call_of_uncaught rfl hout, rs, it, hrs, hn, hrows, rfl⟩
  · obtain ⟨column, hcolumn⟩ := rs.exists_getColumn hpos (hn ▸ hle)
    have hbind : rs.bindColumn columnNumber b =
        some { rs with mColumns := rs.mColumns.set (columnNumber - 1) (column.bind b) } := by
      unfold ResultSet.bindColumn
      rw [hcolumn]
      rfl
    have hout : stmt.sqlBindCol columnNumber b = .ok ((stmt.clearErrors.setResultSet
        { rs with mColumns := rs.mColumns.set (columnNumber - 1) (column.bind b) }).returns
          .success) := by
      simp only [sqlBindCol, hbad, bind, Except.bind, Bool.false_eq_true, if_false, if_neg hnull,
        hrs', hbind]
      rfl
    refine ⟨entered _, call_of_uncaught rfl hout, _, it, rfl, ?_, hrows, rfl⟩
    show (rs.mColumns.set (columnNumber - 1) (column.bind b)).length = n
    rw [List.length_set]
    exact hn

/-- **`SQLGetData` reads the row that the cursor stands on**, and leaves it there. -/
theorem getData_reads (ctx : CallContext) (hon : OnCursor n cursor stmt) {columnNumber : Nat}
    (hpos : 1 ≤ columnNumber) (hle : columnNumber ≤ n) (b : Binding) {row : List Str}
    (hrow : cursor.current = some row) :
    ∃ r, stmt.call ctx (.getData columnNumber b) = .ok r ∧ Reads ctx stmt columnNumber b row r ∧
      OnCursor n cursor r.stmt := by
  obtain ⟨rs, it, hrs, hn, hrows, rfl⟩ := hon
  obtain ⟨column, hcolumn⟩ := rs.exists_getColumn hpos (hn ▸ hle)
  have hcurrent : rs.rows.current = .ok (.bulk row) := by
    rw [hrows]
    simp only [RowSource.current, BulkRows.current_cursor hrow]
  by_cases hstatus : (stmt.streamFor columnNumber).status = .noMoreData
  · have hout := sqlGetData_noData ctx b hrs hstatus
    exact ⟨entered _, call_of_uncaught rfl hout, ⟨rs, column, hrs, hcolumn, fun _ => ⟨rfl, rfl⟩,
      fun _ _ hne => absurd hstatus hne⟩, rs, it, hrs, hn, hrows, rfl⟩
  · obtain ⟨translated, htranslated⟩ : ∃ translated, rs.getData ctx.deref stmt.ard columnNumber b
        (stmt.streamFor columnNumber) = .ok translated := by
      unfold ResultSet.getData
      rw [hcolumn]
      dsimp only
      rw [hcurrent]
      exact ⟨_, rfl⟩
    obtain ⟨out, hout, hquery, -, hwrites, -, -⟩ := sqlGetData_of_getData hrs hstatus htranslated
    refine ⟨entered out, call_of_uncaught rfl hout, ⟨rs, column, hrs, hcolumn,
      fun h => absurd h hstatus, fun value hvalue _ => ?_⟩, rs, it, ?_, hn, hrows, rfl⟩
    · show out.writes = _
      rw [hwrites]
      have hget : rs.getData ctx.deref stmt.ard columnNumber b (stmt.streamFor columnNumber) =
          .ok (column.setData ctx.deref stmt.ard rs.mTranslator (columnNumber - 1) value b
            (some (stmt.streamFor columnNumber))) := by
        unfold ResultSet.getData
        rw [hcolumn]
        dsimp only
        rw [hcurrent]
        simp only [Except.map, RowData.text, hvalue]
      rw [Except.ok.inj (htranslated.symm.trans hget)]
    · show out.stmt.mQuery.mResultSet = some rs
      rw [hquery]
      exact hrs

end OneCall

/-! ## Sequences of calls -/

/-- Where the cursor stands after a call. -/
def cursorAfter (cursor : ForwardCursor (List Str)) (c : StmtCall) : ForwardCursor (List Str) :=
  if c.fetches then cursor.move else cursor

/-- The calls of an application that reads a result set of `n` columns: it fetches, binds columns
that exist, and reads columns that exist once the cursor stands on a row. -/
inductive ReadingCall (n : Nat) (cursor : ForwardCursor (List Str)) : StmtCall → Prop
  | fetch {c : StmtCall} (hc : FetchCall c) : ReadingCall n cursor c
  | bindCol {columnNumber : Nat} (hpos : 1 ≤ columnNumber) (hle : columnNumber ≤ n) (b : Binding) :
      ReadingCall n cursor (.bindCol columnNumber b)
  | getData {columnNumber : Nat} (hpos : 1 ≤ columnNumber) (hle : columnNumber ≤ n) (b : Binding)
      (hrow : cursor.current.isSome) : ReadingCall n cursor (.getData columnNumber b)

/-- An interleaving of such calls, from where the cursor stands. -/
def Interleaving (n : Nat) : ForwardCursor (List Str) → List (CallContext × StmtCall) → Prop
  | _, [] => True
  | cursor, p :: calls => ReadingCall n cursor p.2 ∧ Interleaving n (cursorAfter cursor p.2) calls

/-- The number of fetch calls. -/
def visits (calls : List (CallContext × StmtCall)) : Nat := calls.countP fun p => p.2.fetches

theorem FetchCall.fetches {c : StmtCall} (hc : FetchCall c) : c.fetches = true := by
  rcases hc with _ | _ | _ <;> rfl

/-- **One call** of an interleaving moves the cursor as it should. -/
theorem readingCall_step {n : Nat} {cursor : ForwardCursor (List Str)} (p : CallContext × StmtCall)
    (hc : ReadingCall n cursor p.2) (hon : OnCursor n cursor stmt) :
    ∃ stmt', step p stmt = .ok stmt' ∧ OnCursor n (cursorAfter cursor p.2) stmt' := by
  have hstep : ∀ {r : Returned} {next : ForwardCursor (List Str)}, stmt.call p.1 p.2 = .ok r →
      OnCursor n next r.stmt → ∃ stmt', step p stmt = .ok stmt' ∧ OnCursor n next stmt' := by
    intro r next hr hnext
    refine ⟨r.stmt, ?_, hnext⟩
    unfold step
    rw [hr]
    rfl
  obtain ⟨ctx, c⟩ := p
  unfold cursorAfter
  rcases hc with hc | ⟨hpos, hle, b⟩ | ⟨hpos, hle, b, hrow⟩
  · rw [if_pos hc.fetches]
    rcases hrow : cursor.upcoming with _ | row
    · obtain ⟨r, hr, -, hnext⟩ := fetch_exhausted ctx hc hon hrow
      rw [ForwardCursor.move_of_end hrow]
      exact hstep hr hnext
    · obtain ⟨r, hr, -, hnext⟩ := fetch_visits ctx hc hon hrow
      exact hstep hr hnext
  · obtain ⟨r, hr, hnext⟩ := bindCol_keeps ctx hon hpos hle b
    exact hstep hr hnext
  · obtain ⟨row, hrow⟩ := Option.isSome_iff_exists.mp hrow
    obtain ⟨r, hr, -, hnext⟩ := getData_reads ctx hon hpos hle b hrow
    exact hstep hr hnext

/-- **An interleaving runs through** and moves the cursor once for each of its fetch calls. -/
theorem interleaving_run {n : Nat} {calls : List (CallContext × StmtCall)}
    {cursor : ForwardCursor (List Str)} (hcalls : Interleaving n cursor calls)
    (hon : OnCursor n cursor stmt) :
    ∃ stmt', run calls stmt = .ok stmt' ∧ OnCursor n (cursor.advance (visits calls)) stmt' := by
  induction calls generalizing cursor stmt with
  | nil =>
    refine ⟨stmt, rfl, ?_⟩
    rw [show visits [] = 0 from rfl, ForwardCursor.advance_zero]
    exact hon
  | cons p calls ih =>
    obtain ⟨hp, hrest⟩ := hcalls
    obtain ⟨s, hs, hon'⟩ := readingCall_step p hp hon
    obtain ⟨stmt', hrun, hadvanced⟩ := ih hrest hon'
    refine ⟨stmt', ?_, ?_⟩
    · show (step p stmt >>= run calls) = .ok stmt'
      rw [hs]
      exact hrun
    · have hcursor : (cursorAfter cursor p.2).advance (visits calls) =
          cursor.advance (visits (p :: calls)) := by
        unfold cursorAfter visits
        rw [List.countP_cons]
        split_ifs
        · exact cursor.move_advance _
        · rfl
      rw [← hcursor]
      exact hadvanced

/-- What the calls after `k` fetches do on a result set of `n` columns with the rows `rows`: the
next fetch delivers row `k + 1` and moves there, a fetch after the last row finds no data and stays,
and `SQLGetData` reads the row that the cursor stands on. -/
structure VisitsInOrder (n : Nat) (rows : List (List Str)) (k : Nat) (stmt : RetsSTMT) : Prop where
  position : OnCursor n ((ForwardCursor.start rows).advance k) stmt
  visit : ∀ ctx c row, FetchCall c → rows[k]? = some row →
    ∃ r, stmt.call ctx c = .ok r ∧ Delivers ctx stmt row r ∧
      OnCursor n ((ForwardCursor.start rows).advance (k + 1)) r.stmt
  exhausted : ∀ ctx c, FetchCall c → rows.length ≤ k →
    ∃ r, stmt.call ctx c = .ok r ∧ r.result = .noData ∧
      OnCursor n ((ForwardCursor.start rows).advance rows.length) r.stmt
  reads : ∀ ctx columnNumber b row, 1 ≤ columnNumber → columnNumber ≤ n → k ≠ 0 →
    rows[min k rows.length - 1]? = some row →
    ∃ r, stmt.call ctx (.getData columnNumber b) = .ok r ∧ Reads ctx stmt columnNumber b row r

/-- **A bulk cursor visits every row once**, in order, whichever fetch calls are used and whatever is
bound and read in between. -/
theorem visitsInOrder_of_interleaving {rs : ResultSet} {rows : List (List Str)}
    (hrs : stmt.mQuery.mResultSet = some rs)
    (hstored : rs.rows = .bulk (BulkRows.new.addRows rows))
    {calls : List (CallContext × StmtCall)}
    (hcalls : Interleaving rs.columnCount (.start rows) calls) :
    ∃ stmt', run calls stmt = .ok stmt' ∧
      VisitsInOrder rs.columnCount rows (visits calls) stmt' := by
  have hstart : OnCursor rs.columnCount (.start rows) stmt :=
    ⟨rs, _, hrs, rfl, hstored, BulkRows.cursor_new rows⟩
  obtain ⟨stmt', hrun, hon⟩ := interleaving_run hcalls hstart
  refine ⟨stmt', hrun, hon, ?_, ?_, ?_⟩
  · intro ctx c row hc hrow
    have hle : visits calls ≤ rows.length := by
      obtain ⟨hlt, -⟩ := List.getElem?_eq_some_iff.mp hrow
      omega
    have hup : ((ForwardCursor.start rows).advance (visits calls)).upcoming = some row := by
      rw [ForwardCursor.upcoming_start hle]
      exact hrow
    obtain ⟨r, hr, hdelivers, hnext⟩ := fetch_visits ctx hc hon hup
    rw [ForwardCursor.advance_move] at hnext
    exact ⟨r, hr, hdelivers, hnext⟩
  · intro ctx c hc hle
    rw [ForwardCursor.advance_start_of_le hle] at hon
    have hend : ((ForwardCursor.start rows).advance rows.length).upcoming = none := by
      rw [ForwardCursor.upcoming_start le_rfl]
      exact List.getElem?_eq_none le_rfl
    exact fetch_exhausted ctx hc hon hend
  · intro ctx columnNumber b row hpos hle hk hrow
    have hcurrent : ((ForwardCursor.start rows).advance (visits calls)).current = some row := by
      rw [ForwardCursor.current_start hk]
      exact hrow
    obtain ⟨r, hr, hreads, -⟩ := getData_reads ctx hon hpos hle b hcurrent
    exact ⟨r, hr, hreads⟩

/-- The row of a count is fetched, its column bound and read, and a second fetch is tried. -/
def countCalls : List (CallContext × StmtCall) :=
  [(idleContext, .fetch), (idleContext, .bindCol 1 nameBinding),
    (idleContext, .getData 1 nameBinding), (idleContext, .fetchScroll 1)]

theorem visitsInOrder_count :
    ∃ stmt', run countCalls (countStatement nameBinding "42".toList) = .ok stmt' ∧
      VisitsInOrder 1 [["42".toList]] 2 stmt' := by
  have hstored : (countResult nameBinding (countAdded "42".toList)).rows =
      .bulk (BulkRows.new.addRows [["42".toList]]) := rfl
  have hcalls : Interleaving 1 (.start [["42".toList]]) countCalls :=
    ⟨.fetch .fetch, .bindCol le_rfl le_rfl _, .getData le_rfl le_rfl _ rfl, .fetch .fetchScroll,
      trivial⟩
  exact visitsInOrder_of_interleaving rfl hstored hcalls

end RetsSTMT

end EzRets
