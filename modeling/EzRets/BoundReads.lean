import EzRets.CatalogRows
import EzRets.FetchLoop
import EzRets.ReadEnds
import EzRets.Reads

/-!
# EzRets.BoundReads — a column that is read is a column that is bound

A row has one value for every column, in every result set and at any time.  So an application has
two ways to the same values: it binds the columns and fetches, or it fetches and reads each column
with `SQLGetData`.
-/

namespace EzRets

open FaultRun Component

/-! ## As many values as columns -/

/-- The iterator moves to a row that is kept, and all rows stay. -/
theorem BulkRows.of_next {rs rs' : BulkRows} {values : List Str}
    (h : rs.next = .ok (values, rs')) : values ∈ rs.mResults ∧ rs'.mResults = rs.mResults := by
  unfold BulkRows.next at h
  extract_lets iterator at h
  by_cases hlt : iterator < rs.mResults.length
  · rw [dif_pos hlt] at h
    obtain ⟨rfl, rfl⟩ := Prod.ext_iff.mp (Except.ok.inj h)
    exact ⟨List.get_mem _ _, rfl⟩
  · rw [dif_neg hlt] at h
    cases h

namespace RowSource

variable {rows rows' : RowSource} {row : RowData}

/-- The rows that a result set keeps in memory. -/
def stored : RowSource → List (List Str)
  | bulk rs => rs.mResults
  | onDemand _ => []
  | onDemandObject _ _ => []

theorem hasNext_stored (rows : RowSource) : rows.hasNext.2.stored = rows.stored := by
  cases rows with
  | bulk rs => rfl
  | onDemand results =>
    cases results with
    | none => rfl
    | some results =>
      simp only [hasNext]
      split <;> rfl
  | onDemandObject pending map => cases pending <;> rfl

theorem advance_stored (h : rows.advance = .ok (row, rows')) : rows'.stored = rows.stored := by
  cases rows with
  | bulk rs =>
    obtain ⟨⟨values, rs'⟩, hnext, hrow⟩ := map_eq_ok.mp h
    obtain ⟨-, rfl⟩ := Prod.ext_iff.mp hrow
    exact (BulkRows.of_next hnext).2
  | onDemand results =>
    cases results with
    | none => cases h
    | some results =>
      cases h
      rfl
  | onDemandObject pending map =>
    cases h
    rfl

/-- The row that a bulk result set moves to is one that it keeps. -/
theorem mem_stored_of_advance {values : List Str} (h : rows.advance = .ok (.bulk values, rows')) :
    values ∈ rows.stored := by
  cases rows with
  | bulk rs =>
    obtain ⟨⟨values', rs'⟩, hnext, hrow⟩ := map_eq_ok.mp h
    obtain ⟨hvalues, -⟩ := Prod.ext_iff.mp hrow
    obtain rfl := RowData.bulk.inj hvalues
    exact (BulkRows.of_next hnext).1
  | onDemand results =>
    cases results with
    | none => cases h
    | some results => cases h
  | onDemandObject pending map => cases h

end RowSource

namespace QueryKind

/-- The columns of a bulk query. -/
def bulkColumns : QueryKind → List Column
  | .dataCount _ => DataCountQuery.columns
  | .lookup _ => EzLookupQuery.columns
  | .lookupColumns _ => EzLookupColumnsQuery.columns
  | .tableMetadata _ _ _ _ => TableMetadataQuery.columns
  | .columnMetadata _ _ => ColumnMetadataQuery.columns
  | .typeInfo _ => TypeInfoMetadataQuery.columns
  | .specialColumns _ _ _ _ => SpecialColumnsMetadataQuery.columns
  | .statistics => StatisticsMetadataQuery.columns
  | .primaryKeys _ => PrimaryKeysMetadataQuery.columns
  | .null | .onDemandData _ _ | .onDemandObject _ => []

end QueryKind

namespace Query

variable {conn : Connection} {q : Query} {rs : ResultSet} {kind : QueryKind}

/-- **A row of a bulk query** has a value for every column. -/
theorem length_of_bulkExecution {stored : Nat} {out : Execution}
    (h : bulkExecution conn stored kind = some (.ok out)) :
    ∀ row ∈ out.rows, row.length = kind.bulkColumns.length := by
  rcases kind
  case null => cases h
  case onDemandData => cases h
  case onDemandObject => cases h
  case dataCount q =>
    have hexecute : DataCountQuery.execute conn q = .ok out := Option.some.inj h
    intro row hrow
    unfold DataCountQuery.execute at hexecute
    split_ifs at hexecute
    · obtain ⟨session, -, hsearch⟩ := bind_eq_ok.mp hexecute
      split at hsearch
      · obtain rfl := Except.ok.inj hsearch
        cases hrow
      · obtain rfl := Except.ok.inj hsearch
        obtain rfl := List.mem_singleton.mp hrow
        rfl
    · obtain rfl := Except.ok.inj hexecute
      cases hrow
  case lookup q =>
    exact fun row hrow => (EzLookupQuery.execute_fits (Option.some.inj h) row hrow).length
  case lookupColumns q =>
    exact fun row hrow => (EzLookupColumnsQuery.execute_fits (Option.some.inj h) row hrow).length
  case tableMetadata =>
    exact fun row hrow => (TableMetadataQuery.execute_fits (Option.some.inj h) row hrow).length
  case columnMetadata mTable mColumn =>
    intro row hrow
    obtain ⟨v, rcp, table, -, -, rfl⟩ :=
      (ColumnMetadataQuery.mem_rows_iff (Option.some.inj h)).mp hrow
    simp only [ColumnMetadataQuery.row, QueryKind.bulkColumns, ColumnMetadataQuery.columns,
      List.length_cons, List.length_nil]
  case typeInfo mDataType =>
    obtain rfl := Except.ok.inj (Option.some.inj h)
    exact fun row hrow => (TypeInfoMetadataQuery.execute_fits mDataType stored row hrow).length
  case specialColumns =>
    have hexecute := Option.some.inj h
    intro row hrow
    unfold SpecialColumnsMetadataQuery.execute at hexecute
    split_ifs at hexecute
    · obtain rfl := Except.ok.inj hexecute
      cases hrow
    · obtain rfl := Except.ok.inj hexecute
      cases hrow
    · obtain rfl := Except.ok.inj hexecute
      cases hrow
    · obtain ⟨v, -, hrows⟩ := bind_eq_ok.mp hexecute
      obtain rfl := Except.ok.inj hrows
      obtain ⟨table, -, rfl⟩ := List.mem_map.mp hrow
      rfl
  case statistics =>
    obtain rfl := Except.ok.inj (Option.some.inj h)
    intro row hrow
    cases hrow
  case primaryKeys =>
    exact fun row hrow => (PrimaryKeysMetadataQuery.execute_fits (Option.some.inj h) row hrow).length

/-- A bulk result set has the columns of its query, and each of its rows a value for every one. -/
def Rectangular (q : Query) : Prop :=
  ∀ rs, q.mResultSet = some rs → rs.rows.type = .bulk →
    rs.columnCount = q.kind.bulkColumns.length ∧
      ∀ row ∈ rs.rows.stored, row.length = q.kind.bulkColumns.length

theorem rectangular_prepare (h : prepareResultSet conn kind = .ok (.ok rs)) :
    (⟨kind, some rs⟩ : Query).Rectangular := by
  have hbulk : ∀ {dt : DataTranslator} {columns : List Column}, kind.bulkColumns = columns →
      rs = bulkResultSet dt columns → (⟨kind, some rs⟩ : Query).Rectangular := by
    rintro dt columns hcolumns rfl rs' hrs' -
    obtain rfl := Option.some.inj hrs'
    exact ⟨congrArg List.length hcolumns.symm, fun row hrow => by cases hrow⟩
  have hother : rs.rows.type ≠ .bulk → (⟨kind, some rs⟩ : Query).Rectangular := by
    rintro htype rs' hrs' htype'
    obtain rfl := Option.some.inj hrs'
    exact absurd htype' htype
  rcases kind
  case dataCount q => exact hbulk rfl (prepareChecked_eq_ok h)
  case lookup q => exact hbulk rfl (prepareChecked_eq_ok h)
  case lookupColumns q => exact hbulk rfl (prepareChecked_eq_ok h)
  case onDemandData useCompactFormat q =>
    refine hother ?_
    rw [onDemandData_rows h]
    decide
  case onDemandObject q =>
    obtain rfl := Except.ok.inj (Except.ok.inj h)
    exact hother (by decide)
  all_goals exact hbulk rfl (Except.ok.inj (Except.ok.inj h)).symm

/-- The same rows below the same columns, bound or not. -/
theorem Rectangular.of_same {rs' : ResultSet} (hq : q.Rectangular) (hrs : q.mResultSet = some rs)
    (hcount : rs'.columnCount = rs.columnCount) (htype : rs'.rows.type = rs.rows.type)
    (hstored : rs'.rows.stored = rs.rows.stored) :
    ({ q with mResultSet := some rs' } : Query).Rectangular := by
  rintro rs'' hrs'' hbulk
  obtain rfl := Option.some.inj hrs''
  obtain ⟨hcolumns, hrows⟩ := hq rs hrs (htype ▸ hbulk)
  refine ⟨hcount.trans hcolumns, ?_⟩
  rw [hstored]
  exact hrows

theorem Rectangular.row_length {row : List Str} (hq : q.Rectangular) (hrs : q.mResultSet = some rs)
    (hrow : row ∈ rs.rows.stored) : row.length = rs.columnCount := by
  cases hrows : rs.rows with
  | bulk rows =>
    obtain ⟨hcolumns, hlength⟩ := hq rs hrs (by rw [hrows]; rfl)
    exact (hlength row hrow).trans hcolumns.symm
  | onDemand _ | onDemandObject _ _ =>
    rw [hrows] at hrow
    cases hrow

/-- **An execution adds rows as wide as the others.** -/
theorem Rectangular.execute {out : Executed} (hq : q.Rectangular)
    (h : q.execute conn = .ok out) : out.query.Rectangular := by
  have hother : ∀ {α : Type} {answer : Except Exn α} {store : α → RowSource} {done : Executed},
      (∀ a, (store a).type ≠ .bulk) → q.executeOnDemand answer store = .ok done →
        done.query.Rectangular := by
    intro α answer store done hstore hdone
    obtain hkeep | ⟨rs, results, -, hrows⟩ := executeOnDemand_query hdone
    · rwa [hkeep]
    · rw [hrows]
      rintro rs' hrs' htype
      obtain rfl := Option.some.inj hrs'
      exact absurd htype (hstore results)
  unfold Query.execute at h
  split at h
  · obtain rfl := Except.ok.inj h
    exact hq
  · split at h
    · obtain ⟨answer, -, h⟩ := bind_eq_ok.mp h
      exact hother (fun _ => by simp [RowSource.type]) h
    · obtain rfl := Except.ok.inj h
      exact hq
  · obtain ⟨answer, -, h⟩ := bind_eq_ok.mp h
    exact hother (fun _ => by simp [RowSource.type]) h
  · split at h
    · rename_i dt columns rows hrs
      split at h
      · rename_i execution hexecution
        obtain ⟨done, hdone, rfl⟩ := map_eq_ok.mp h
        obtain ⟨hcolumns, hrows⟩ := hq _ hrs rfl
        rintro rs' hrs' -
        obtain rfl := Option.some.inj hrs'
        refine ⟨hcolumns, fun row hrow => ?_⟩
        have hadded : row ∈ rows.mResults ++ done.rows := by
          rw [← BulkRows.addRows_mResults]
          exact hrow
        rcases List.mem_append.mp hadded with hrow | hrow
        · exact hrows row hrow
        · exact length_of_bulkExecution (hexecution.trans (congrArg some hdone)) row hrow
      · obtain rfl := Except.ok.inj h
        exact hq
    · cases h

end Query

namespace RetsSTMT

section Widths

variable {ctx : CallContext} {stmt : RetsSTMT} {out : StmtOut} {c : StmtCall}

theorem rectangular_fetch (hq : stmt.mQuery.Rectangular) (h : stmt.sqlFetch ctx = .ok out) :
    out.stmt.mQuery.Rectangular := by
  obtain ⟨rs, hrs, h⟩ := bind_eq_ok.mp h
  have hrs' := (resultSet_eq_ok _).mp hrs
  have hrows : ∀ {rows : RowSource}, rows.type = rs.rows.type → rows.stored = rs.rows.stored →
      (stmt.mQuery.setRows rs rows).Rectangular := fun htype hstored =>
    hq.of_same hrs' rfl htype hstored
  split at h
  · obtain rfl := Except.ok.inj h
    exact hq
  · dsimp only at h
    split at h
    · obtain rfl := Except.ok.inj h
      exact hrows rs.rows.hasNext_type rs.rows.hasNext_stored
    · obtain rfl := Except.ok.inj h
      exact hrows rs.rows.hasNext_type rs.rows.hasNext_stored
    · simp only [fetchRow, bind_eq_ok] at h
      obtain ⟨processed, hp, h⟩ := h
      obtain ⟨⟨row, rows'⟩, hadvance, rfl⟩ := map_eq_ok.mp hp
      have hmoved := hrows ((RowSource.advance_type hadvance).trans rs.rows.hasNext_type)
        ((RowSource.advance_stored hadvance).trans rs.rows.hasNext_stored)
      split at h
      · obtain rfl := Except.ok.inj h
        exact hmoved
      · split at h
        · obtain rfl := Except.ok.inj h
          exact hmoved
        · obtain rfl := Except.ok.inj h
          exact hmoved

theorem rectangular_runCatalog {kind : QueryKind} {caught : Exn → Option Error}
    (hkind : QueryKind.IsCatalog kind) (h : stmt.runCatalog ctx kind caught = .ok out) :
    out.stmt.mQuery.Rectangular := by
  obtain ⟨rs, hprepared⟩ := hkind.2 ctx.conn
  obtain ⟨prepared, hprep, h⟩ := bind_eq_ok.mp h
  obtain rfl := Except.ok.inj (hprep.symm.trans hprepared)
  obtain ⟨done, hdone, h⟩ := bind_eq_ok.mp h
  obtain rfl := Except.ok.inj h
  rw [executed_mQuery]
  exact (Query.rectangular_prepare hprepared).execute hdone

theorem rectangular_prepare (hq : stmt.mQuery.Rectangular) {text : SqlText}
    (h : stmt.sqlPrepare ctx text = .ok out) : out.stmt.mQuery.Rectangular := by
  obtain ⟨statement, q, -, hcreated, hquery, -⟩ | ⟨hquery, -, -⟩ := sqlPrepare_cases h
  · obtain ⟨kind, rs, -, hprepared, rfl⟩ := createSqlQuery_eq_ok hcreated
    rw [hquery]
    exact Query.rectangular_prepare hprepared
  · rwa [hquery]

theorem rectangular_catalog (hq : stmt.mQuery.Rectangular)
    {arguments : Except ArgumentFailure QueryKind} (hc : c.catalogArguments = some arguments)
    (h : stmt.uncaught ctx c = .ok out) : out.stmt.mQuery.Rectangular := by
  obtain ⟨caught, hcall⟩ := uncaught_catalog hc
  rw [hcall] at h
  cases arguments with
  | error failure =>
    rw [(fails_keeps h).1]
    exact hq
  | ok kind => exact rectangular_runCatalog (isCatalog_of_catalogArguments hc) h

theorem rectangular_execute (hq : stmt.mQuery.Rectangular) (h : stmt.sqlExecute ctx = .ok out) :
    out.stmt.mQuery.Rectangular := by
  obtain ⟨done, hdone, rfl⟩ := map_eq_ok.mp h
  rw [executed_mQuery]
  exact hq.execute hdone

/-- **Any call** leaves the rows as wide as the columns. -/
theorem rectangular_uncaught (hc : c.isRead = false) (hq : stmt.mQuery.Rectangular)
    (h : stmt.uncaught ctx c = .ok out) : out.stmt.mQuery.Rectangular := by
  cases c with
  | bindCol n b =>
    obtain ⟨bad, -, h⟩ := bind_eq_ok.mp h
    split at h
    · obtain rfl := Except.ok.inj h
      exact hq
    · split at h
      · obtain rfl := Except.ok.inj h
        exact hq
      · obtain ⟨rs, hrs, h⟩ := bind_eq_ok.mp h
        have hrs' := (resultSet_eq_ok _).mp hrs
        cases hbind : rs.bindColumn n b with
        | none =>
          rw [hbind] at h
          obtain rfl := Except.ok.inj h
          exact hq
        | some rs' =>
          rw [hbind] at h
          obtain rfl := Except.ok.inj h
          obtain ⟨column, -, rfl⟩ := Option.map_eq_some_iff.mp hbind
          exact hq.of_same hrs' List.length_set rfl rfl
  | fetch => exact rectangular_fetch hq h
  | fetchScroll orientation =>
    have hscroll : stmt.sqlFetchScroll ctx orientation = .ok out := h
    unfold sqlFetchScroll at hscroll
    dsimp only at hscroll
    split at hscroll
    · obtain rfl := Except.ok.inj hscroll
      exact hq
    · exact @rectangular_fetch _ stmt.clearErrors _ hq hscroll
  | extendedFetch p p' =>
    obtain ⟨fetched, hfetched, h⟩ := bind_eq_ok.mp h
    have hrows := @rectangular_fetch _ stmt.clearErrors _ hq hfetched
    split at h
    · obtain rfl := Except.ok.inj h
      exact hrows
    · split at h
      · cases h
      · obtain rfl := Except.ok.inj h
        exact hrows
  | freeStmt option =>
    have hfree : stmt.sqlFreeStmt option = .ok out := h
    unfold sqlFreeStmt at hfree
    split at hfree
    · obtain ⟨rs, hrs, rfl⟩ := map_eq_ok.mp hfree
      exact hq.of_same ((resultSet_eq_ok _).mp hrs) (List.length_map _) rfl rfl
    · obtain rfl := Except.ok.inj hfree
      exact hq
  | prepare text => exact rectangular_prepare hq h
  | execDirect text =>
    obtain ⟨prepared, hprepared, h⟩ := bind_eq_ok.mp h
    have hq' := @rectangular_prepare _ stmt.clearErrors _ hq _ hprepared
    split at h
    · exact rectangular_execute hq' h
    · obtain rfl := Except.ok.inj h
      exact hq'
  | execute => exact rectangular_execute hq h
  | tables catalog schema table type => exact rectangular_catalog hq rfl h
  | columns catalog table column => exact rectangular_catalog hq rfl h
  | getTypeInfo dataType => exact rectangular_catalog hq rfl h
  | specialColumns identifierType catalog table scope nullable => exact rectangular_catalog hq rfl h
  | statistics catalog schema => exact rectangular_catalog hq rfl h
  | primaryKeys catalog schema table => exact rectangular_catalog hq rfl h
  | setStmtAttr attr value =>
    obtain rfl := Except.ok.inj h
    rwa [(sqlSetStmtAttr_keeps _ _ _).1]
  | paramOptions crow pirow =>
    obtain rfl := Except.ok.inj h
    have h22 := (sqlSetStmtAttr_keeps stmt 22 crow).1
    have h21 := (sqlSetStmtAttr_keeps (stmt.sqlSetStmtAttr 22 crow).stmt 21 pirow).1
    have hkeep : (stmt.sqlParamOptions crow pirow).stmt.mQuery = stmt.mQuery := by
      unfold sqlParamOptions
      dsimp only
      split
      · exact h22
      · exact h21.trans h22
    rwa [hkeep]
  | setDescField desc r f value =>
    obtain rfl := Except.ok.inj h
    cases desc <;> exact hq
  | describeCol _ _ | numResultCols _ | getData _ _ | rowCount _ | colAttribute _ _ _
  | getDiagField _ _ _ | getDiagRec _ _ | error _ | getStmtAttr _ _ _ | numParams _
  | moreResults | cancel => cases hc

/-- **In every reachable state** the rows are as wide as the columns. -/
theorem run_rectangular {calls : List (CallContext × StmtCall)} {stmt' : RetsSTMT}
    (hq : stmt.mQuery.Rectangular) (h : run calls stmt = .ok stmt') :
    stmt'.mQuery.Rectangular := by
  have hcall : ∀ p s s', s.mQuery.Rectangular → step p s = .ok s' → s'.mQuery.Rectangular := by
    intro p s s' hs hstep
    obtain ⟨returned, hcall, rfl⟩ := map_eq_ok.mp hstep
    by_cases hc : p.2.isRead = true
    · obtain ⟨mErrors, info, halike⟩ := alike_of_read hc hcall
      rw [halike]
      exact hs
    · obtain ⟨out, hout, rfl⟩ := map_eq_ok.mp hcall
      have hrows := rectangular_uncaught (Bool.eq_false_iff.mpr hc) hs hout
      dsimp only
      split
      · exact hrows
      · exact hrows
  exact run_invariant hcall hq h

theorem rectangular_new : new.mQuery.Rectangular := by
  intro rs hrs
  cases hrs

/-- **As many values as columns.**  Whatever calls a statement has answered, each row that its result
set keeps has a value for every column. -/
theorem row_length_of_run {calls : List (CallContext × StmtCall)} {rs : ResultSet} {row : List Str}
    (h : run calls new = .ok stmt) (hrs : stmt.mQuery.mResultSet = some rs)
    (hrow : row ∈ rs.rows.stored) : row.length = rs.columnCount :=
  (run_rectangular rectangular_new h).row_length hrs hrow

/-- The types that are listed have values for all their columns. -/
theorem row_length_typeInfo : ∃ stmt rs, run [(idleContext, .getTypeInfo 0)] new = .ok stmt ∧
    stmt.mQuery.mResultSet = some rs ∧ rs.rows.stored ≠ [] ∧
    ∀ row ∈ rs.rows.stored, row.length = rs.columnCount := by
  have hrun : run [(idleContext, .getTypeInfo 0)] new = .ok _ := rfl
  refine ⟨_, _, hrun, rfl, ?_, fun row hrow => row_length_of_run hrun rfl hrow⟩
  exact List.cons_ne_nil _ _

end Widths

end RetsSTMT

/-! ## A value without and with a streaming state -/

namespace TranslationWorker

variable {data : Str} {t : Target} {s : Option DataStreamInfo}

theorem storeCast_stream {α : Type} {value : Option α} {toValue : α → CValue} {size : Int} :
    (if isBlank data then ({ t with streamInfo := s } : Target).null
      else ({ t with streamInfo := s } : Target).storeCast value toValue size) =
      { (if isBlank data then t.null else t.storeCast value toValue size) with
        streamInfo := s } := by
  split_ifs
  · rfl
  · rcases value with _ | v <;> rfl

/-- **The other workers** do not look at the streaming state. -/
theorem translate_stream {w : TranslationWorker} (h : w.streams = false) :
    w.translate data { t with streamInfo := s } =
      { w.translate data t with streamInfo := s } := by
  rcases w
  case character => cases h
  case binary => cases h
  case smallInt => exact storeCast_stream
  case int => exact storeCast_stream
  case bigInt => exact storeCast_stream
  case decimal => exact storeCast_stream
  case double => exact storeCast_stream
  case uLong => exact storeCast_stream
  case uShort => exact storeCast_stream
  case bit =>
    show translateBit data _ = { translateBit data t with streamInfo := s }
    unfold translateBit
    split_ifs <;> rfl
  case tiny =>
    show translateTiny data _ = { translateTiny data t with streamInfo := s }
    unfold translateTiny
    split_ifs
    · rfl
    · rcases lexicalCastSigned 32 data with _ | n
      · rfl
      · dsimp only
        split_ifs <;> rfl
  case date =>
    show translateDate data _ = { translateDate data t with streamInfo := s }
    unfold translateDate
    split_ifs
    · rfl
    · rcases search matchDate data with _ | ⟨⟨year, month, day⟩, rest⟩
      · rfl
      · dsimp only
        split_ifs <;> rfl
  case timestamp =>
    show translateTimestamp data _ = { translateTimestamp data t with streamInfo := s }
    unfold translateTimestamp
    split_ifs
    · rfl
    · rcases search matchTimestamp data with _ | found
      · rfl
      · rfl
  case time =>
    show translateTime data _ = { translateTime data t with streamInfo := s }
    unfold translateTime
    split_ifs
    · rfl
    · rcases search matchTime data with _ | ⟨⟨hour, minute, second⟩, rest⟩
      · rfl
      · rfl
  case numeric =>
    show translateNumeric data _ = { translateNumeric data t with streamInfo := s }
    unfold translateNumeric translateNumericOn
    dsimp only
    by_cases hempty : (trim data).isEmpty = true
    · rw [if_pos hempty, if_pos hempty]
      rfl
    · rw [if_neg hempty, if_neg hempty]
      generalize (if (trim data).head? = some '-' then (trim data).drop 1 else trim data) = trimd
      generalize (if trimd.findIdx (· = '.') = trimd.length then 0
        else trimd.length - trimd.findIdx (· = '.') - 1) = scale
      by_cases hscale : scale ≥ 128
      · rw [if_pos hscale, if_pos hscale]
        rfl
      · rw [if_neg hscale, if_neg hscale]
        rcases lexicalCastUnsigned 64 (trimd.filter (· ≠ '.')) with _ | intvalue
        · rfl
        · rfl

/-- **Binary data that has room** is stored alike by a fetch and by the first read, and the read
says that there is no more. -/
theorem translateBinary_stream {info : DataStreamInfo} (htarget : t.target ≠ 0)
    (hroom : (data.length : Int) ≤ t.targetLen) (h31 : t.targetLen < 2 ^ 31)
    (hoffset : info.offset = 0) (hstatus : info.status ≠ .hasMoreData) :
    ∃ info', translateBinary data { t with streamInfo := some info } =
        { translateBinary data { t with streamInfo := none } with streamInfo := some info' } ∧
      info'.column = info.column ∧ info'.status ≠ .hasMoreData := by
  have hlength : toSize t.targetLen = t.targetLen.toNat := toSize_of_lt (by omega) (by omega)
  have htake : data.take t.targetLen.toNat = data := List.take_of_length_le (by omega)
  have hzero : toSize (toSqlInteger 0) = 0 := by decide
  by_cases hempty : data.isEmpty = true
  · unfold translateBinary
    rw [if_pos hempty, if_pos hempty]
    exact ⟨info, rfl, rfl, hstatus⟩
  · refine ⟨info.advance data.length data.length, ?_, rfl, ?_⟩
    · simp [translateBinary, hempty, htarget, copyFrom, hlength, hoffset, hzero, htake]
    · simp [DataStreamInfo.advance]

end TranslationWorker

namespace Column

/-- A value of the type that goes the same way whether the column is bound or read: it is no text,
and binary data has room. -/
structure Transfers (dt : DataTranslator) (type : Int) (v : Str) (b : Binding) : Prop where
  typed : dt.worker type ≠ some .character
  target : dt.worker type = some .binary → b.targetValue ≠ 0
  room : dt.worker type = some .binary → (v.length : Int) ≤ b.bufferLength
  lt : dt.worker type = some .binary → b.bufferLength < 2 ^ 31

variable {dt : DataTranslator} {col : Column} {b : Binding} {data : Str} {i : Nat} {deref : Deref}
  {ard : AppRowDesc} {info : DataStreamInfo}

theorem convertBadCast_stream {type : Int} {out : Translated} {s : Option DataStreamInfo} :
    DataTranslator.convertBadCast data type { out with streamInfo := s } =
      { DataTranslator.convertBadCast data type out with streamInfo := s } := by
  unfold DataTranslator.convertBadCast
  dsimp only
  split_ifs <;> rfl

theorem translate_stream {type : Int} {t : Target} (h : Transfers dt type data b)
    (htarget : b.targetValue ≠ 0 → t.target ≠ 0) (hlen : t.targetLen = toSqlInteger b.bufferLength)
    (hinfo : info.offset = 0) (hstatus : info.status ≠ .hasMoreData) :
    ∃ info', dt.translate data type { t with streamInfo := some info } =
        { dt.translate data type { t with streamInfo := none } with streamInfo := some info' } ∧
      info'.column = info.column ∧ info'.status ≠ .hasMoreData := by
  have hworker : ∀ {w : TranslationWorker}, dt.worker type = some w → ∃ info',
      w.translate data { t with streamInfo := some info } =
        { w.translate data { t with streamInfo := none } with streamInfo := some info' } ∧
      info'.column = info.column ∧ info'.status ≠ .hasMoreData := by
    intro w hw
    by_cases hbinary : w = .binary
    · rw [hbinary] at hw
      have hlt := h.lt hw
      have hroom := h.room hw
      have hexact : t.targetLen = b.bufferLength := by
        rw [hlen]
        exact toSqlInteger_of_lt (by omega) hlt
      rw [hbinary]
      exact TranslationWorker.translateBinary_stream (htarget (h.target hw)) (hexact ▸ hroom)
        (hexact ▸ hlt) hinfo hstatus
    · have hcharacter : w ≠ .character := by
        rintro rfl
        exact h.typed hw
      have hstreams : w.streams = false := by
        cases w with
        | character => exact absurd rfl hcharacter
        | binary => exact absurd rfl hbinary
        | _ => rfl
      have hany := fun s => @TranslationWorker.translate_stream data t s w hstreams
      refine ⟨info, ?_, rfl, hstatus⟩
      rw [hany (some info), hany none]
  rcases dt with decimalAsString | _
  · unfold DataTranslator.translate
    dsimp only
    rcases hw : DataTranslator.odbc2Trans decimalAsString type with _ | w
    · exact ⟨info, rfl, rfl, hstatus⟩
    · obtain ⟨info', hout, hcolumn, hmore⟩ := hworker hw
      refine ⟨info', ?_, hcolumn, hmore⟩
      dsimp only
      rw [hout, convertBadCast_stream]
  · exact hworker rfl

/-- **A value is stored alike** by a fetch into its binding and by a read with the same
arguments. -/
theorem setData_stream (hoffset : ard.mBindOffsetPtr = 0)
    (h : Transfers dt (col.getBestSqlType dt b.targetType) (col.modifyData data) b)
    (hinfo : info.offset = 0) (hstatus : info.status ≠ .hasMoreData) :
    ∃ info', col.setData deref ard dt i data b (some info) =
        { col.setData deref ard dt i data b none with streamInfo := some info' } ∧
      info'.column = info.column ∧ info'.status ≠ .hasMoreData := by
  have hsame : ∀ s, adjustTarget deref ard i b s =
      { adjustTarget deref ard i b none with streamInfo := s } := by
    intro s
    unfold adjustTarget
    rw [hoffset]
    split_ifs <;> rfl
  unfold setData
  rw [hsame (some info)]
  refine translate_stream h (fun hne => ?_) rfl hinfo hstatus
  exact adjustDescPointer_ne_zero (adjustDescPointer_ne_zero hne)

end Column

/-! ## A row, bound or read -/

theorem columnCells_unbind {text : Str → Except Exn Str} (cols : List Column) :
    columnCells text (cols.map Column.unbind) =
      ⟨(columnCells text cols).cells.map (Prod.map Column.unbind id),
        (columnCells text cols).thrown⟩ := by
  induction cols with
  | nil => rfl
  | cons col cols ih =>
    have hname : col.unbind.mName = col.mName := rfl
    rw [List.map_cons, columnCells, columnCells, hname, ih]
    rcases text col.mName with e | data
    · rfl
    · rfl

/-- A row hands unbound columns the same texts. -/
theorem RowData.cells_unbind (row : RowData) (cols : List Column) :
    row.cells (cols.map Column.unbind) =
      ⟨(row.cells cols).cells.map (Prod.map Column.unbind id), (row.cells cols).thrown⟩ := by
  cases row with
  | bulk values =>
    show bulkCells _ values = _
    unfold bulkCells
    rw [List.length_map, List.zip_map_left]
    rfl
  | search getString => exact columnCells_unbind cols
  | object map => exact columnCells_unbind cols

/-- Unbound columns are sent nothing. -/
theorem setCells_unbind {deref : Deref} {ard : AppRowDesc} {dt : DataTranslator} {count : Nat}
    (cells : List (Column × Str)) :
    setCells deref ard dt count (cells.map (Prod.map Column.unbind id)) = ([], none) := by
  induction cells generalizing count with
  | nil => rfl
  | cons cell cells ih =>
    rw [List.map_cons, setCells, ih]
    rfl

namespace RetsSTMT

/-- The reads that take the place of the bindings, from index `count` on. -/
def columnReads : Nat → List Column → List StmtCall
  | _, [] => []
  | count, col :: cols =>
    match col.binding with
    | some b => .getData (count + 1) b :: columnReads (count + 1) cols
    | none => columnReads (count + 1) cols

/-- The columns are unbound, and the next row is fetched and read with the arguments that they were
bound with. -/
def readCalls (ctx : CallContext) (rs : ResultSet) : List (CallContext × StmtCall) :=
  (.freeStmt sqlUnbind :: .fetch :: columnReads 0 rs.mColumns).map (ctx, ·)

section Reading

variable {ctx : CallContext} {stmt : RetsSTMT} {rs rs' : ResultSet} {row : RowData} {b : Binding}
  {col : Column} {data : Str} {i count : Nat}

theorem answer_of_sqlGetData {n : Nat} {out : StmtOut} (h : stmt.sqlGetData ctx n b = .ok out) :
    answer (ctx, .getData n b) stmt =
      .ok ((entered out).stmt, (entered out).result, (entered out).writes) :=
  congrArg (Except.map _) (call_of_uncaught (c := .getData n b) rfl h)

/-- **One read** of a column that has not been read before stores what the fetch stores. -/
theorem answer_getData (hrs : stmt.mQuery.mResultSet = some rs)
    (hcolumn : rs.getColumn (i + 1) = some col) (hcurrent : rs.rows.current = .ok row)
    (htext : row.text col.mName i = .ok data) (hoffset : stmt.ard.mBindOffsetPtr = 0)
    (htransfers : Column.Transfers rs.mTranslator (col.getBestSqlType rs.mTranslator b.targetType)
      (col.modifyData data) b) (hfresh : stmt.mDataStreamInfo.column ≠ i + 1) :
    ∃ stmt' result, answer (ctx, .getData (i + 1) b) stmt = .ok (stmt', result,
        (col.setData ctx.deref stmt.ard rs.mTranslator i data b none).writes) ∧
      stmt'.mQuery = stmt.mQuery ∧ stmt'.ard = stmt.ard ∧ stmt'.mDataStreamInfo.column = i + 1 ∧
      (result = .success ↔
        (col.setData ctx.deref stmt.ard rs.mTranslator i data b none).thrown = none) := by
  have hstream := streamFor_of_ne hfresh
  have hstart : (stmt.streamFor (i + 1)).offset = 0 := by rw [hstream]; rfl
  have hnew : (stmt.streamFor (i + 1)).status = .noDataRetrieved := by rw [hstream]; rfl
  have hstatus : (stmt.streamFor (i + 1)).status ≠ .noMoreData := by simp [hnew]
  obtain ⟨info, hset, hinfo, hmore⟩ := @Column.setData_stream rs.mTranslator col b data i ctx.deref
    stmt.ard (stmt.streamFor (i + 1)) hoffset htransfers hstart (by simp [hnew])
  have hget : rs.getData ctx.deref stmt.ard (i + 1) b (stmt.streamFor (i + 1)) =
      .ok { col.setData ctx.deref stmt.ard rs.mTranslator i data b none with
        streamInfo := some info } := by
    unfold ResultSet.getData
    rw [hcolumn, hcurrent]
    dsimp only
    rw [Except.map, Nat.add_sub_cancel, htext]
    exact congrArg Except.ok hset
  obtain ⟨out, hout, hq, hard, hwrites, hstreamed, hresult⟩ :=
    sqlGetData_of_getData hrs hstatus hget
  refine ⟨(entered out).stmt, (entered out).result, ?_, hq, hard, ?_, ?_⟩
  · rw [← hwrites]
    exact answer_of_sqlGetData hout
  · rw [show (entered out).stmt.mDataStreamInfo = out.stmt.mDataStreamInfo from rfl, hstreamed]
    exact hinfo.trans (streamFor_column stmt _)
  · have hcode : (entered out).result = (odbcEntry [] out.result).1 := odbcEntry_fst _ _ _
    rw [hcode, hresult, readCode_success_iff]
    exact and_iff_left hmore

/-- The cells from index `count` on are those that the row has for the columns, and what a bound
one is sent goes the same way when it is read. -/
def CellsTransfer (rs : ResultSet) (row : RowData) (count : Nat) (cells : List (Column × Str)) :
    Prop :=
  ∀ i cell b, cells[i]? = some cell → cell.1.binding = some b →
    rs.getColumn (count + i + 1) = some cell.1.unbind ∧
    row.text cell.1.mName (count + i) = .ok cell.2 ∧
    Column.Transfers rs.mTranslator (cell.1.getBestSqlType rs.mTranslator b.targetType)
      (cell.1.modifyData cell.2) b

theorem CellsTransfer.tail {cell : Column × Str} {cells : List (Column × Str)}
    (h : CellsTransfer rs row count (cell :: cells)) : CellsTransfer rs row (count + 1) cells := by
  intro i cell' b hcell hb
  have hnext := h (i + 1) cell' b hcell hb
  rwa [show count + (i + 1) = count + 1 + i by omega] at hnext

/-- **The reads of a row**, one column after the other: they all succeed where no bound column
throws, and then they store what the bound columns are sent. -/
theorem trace_columnReads {cells : List (Column × Str)} (hrs : stmt.mQuery.mResultSet = some rs)
    (hcurrent : rs.rows.current = .ok row) (hoffset : stmt.ard.mBindOffsetPtr = 0)
    (hfresh : stmt.mDataStreamInfo.column ≤ count) (hcells : CellsTransfer rs row count cells) :
    ∃ stmt' answers, trace answer ((columnReads count (cells.map Prod.fst)).map (ctx, ·)) stmt =
        .ok (stmt', answers) ∧
      ((∀ a ∈ answers, a.1 = .success) ↔
        (setCells ctx.deref stmt.ard rs.mTranslator count cells).2 = none) ∧
      ((setCells ctx.deref stmt.ard rs.mTranslator count cells).2 = none →
        answers.flatMap Prod.snd = (setCells ctx.deref stmt.ard rs.mTranslator count cells).1) := by
  induction cells generalizing stmt count with
  | nil => exact ⟨stmt, [], rfl, by simp [setCells], fun _ => rfl⟩
  | cons cell cells ih =>
    rw [List.map_cons, columnReads]
    rcases hb : cell.1.binding with _ | b
    · -- an unbound column is not read, and it is sent nothing
      have hnothing : cellData ctx.deref stmt.ard rs.mTranslator count cell = ⟨[], none, none⟩ := by
        unfold cellData
        rw [hb]
      obtain ⟨stmt', answers, htrace, hsuccess, hwrites⟩ :=
        ih hrs hoffset (hfresh.trans (Nat.le_succ count)) hcells.tail
      refine ⟨stmt', answers, htrace, ?_, ?_⟩
      · rw [setCells, hnothing]
        exact hsuccess
      · rw [setCells, hnothing]
        exact hwrites
    · obtain ⟨hcolumn, htext, htransfers⟩ := hcells 0 cell b rfl hb
      have hsent : cellData ctx.deref stmt.ard rs.mTranslator count cell =
          cell.1.unbind.setData ctx.deref stmt.ard rs.mTranslator count cell.2 b none := by
        unfold cellData
        rw [hb]
        rfl
      obtain ⟨stmt₁, result, hfirst, hq, hard, hcolumn₁, hresult⟩ :=
        @answer_getData ctx stmt rs row b _ _ _ hrs hcolumn hcurrent htext hoffset htransfers
          (by omega)
      obtain ⟨stmt', answers, htrace, hsuccess, hwrites⟩ :=
        @ih stmt₁ _ (hq ▸ hrs) (hard ▸ hoffset) hcolumn₁.le hcells.tail
      rw [hard] at hsuccess hwrites
      refine ⟨stmt', _, trace_cons.mpr ⟨stmt₁, _, answers, hfirst, htrace, rfl⟩, ?_, ?_⟩
      · rw [List.forall_mem_cons, hsuccess, hresult, setCells, hsent]
        dsimp only
        split
        · simp [*]
        · simp [*]
      · rw [setCells, hsent]
        dsimp only
        split
        · intro hnone
          cases hnone
        · intro hnone
          rw [List.flatMap_cons, hwrites hnone]

/-- **A fetch with a next row** sends it to the bound columns, and succeeds where none of them
throws and the row can be read. -/
theorem answer_fetch (ctx : CallContext) (hrs : stmt.mQuery.mResultSet = some rs)
    (hmove : rs.MovesTo row rs') :
    ∃ stmt' result status, answer (ctx, .fetch) stmt = .ok (stmt', result,
        (setCells ctx.deref stmt.ard rs.mTranslator 0 (row.cells rs.mColumns).cells).1 ++ status) ∧
      (∀ w ∈ status, w.IsStatus) ∧ stmt'.mQuery.mResultSet = some rs' ∧ stmt'.ard = stmt.ard ∧
      stmt'.mDataStreamInfo = .reset ∧ (result = .success ↔
        (setCells ctx.deref stmt.ard rs.mTranslator 0 (row.cells rs.mColumns).cells).2 = none ∧
          (row.cells rs.mColumns).thrown = none) := by
  obtain ⟨out, hfetch, hvisited, hends⟩ := sqlFetch_ends ctx hrs hmove
  obtain ⟨-, rows, rows', -, -, rfl⟩ := hmove
  obtain ⟨status, hstatus, hwrites⟩ := hvisited.writes
  refine ⟨(entered out).stmt, (entered out).result, status, ?_, hstatus, hvisited.resultSet,
    hvisited.ard, hvisited.mDataStreamInfo, ?_⟩
  · rw [answer, call_fetch hfetch, hwrites]
    rfl
  · have hcode : (entered out).result = (odbcEntry [] out.result).1 := odbcEntry_fst _ _ _
    rw [hcode, ← Option.or_eq_none_iff]
    split at hends
    · rename_i hnone
      rw [hends.1]
      exact iff_of_true rfl hnone
    · rename_i e hthrown
      refine iff_of_false ?_ (by rw [hthrown]; exact Option.some_ne_none e)
      rcases hends with herror | herror
      · rw [herror]
        decide
      · rw [herror]
        decide

/-- **The reads of a row end**, whatever becomes of them. -/
theorem trace_columnReads_ok (hrs : stmt.mQuery.mResultSet = some rs)
    (hcurrent : rs.rows.current = .ok row) (cols : List Column) :
    ∃ stmt' answers, trace answer ((columnReads count cols).map (ctx, ·)) stmt =
      .ok (stmt', answers) := by
  have hread : ∀ {stmt : RetsSTMT} {c : Nat} {b : Binding}, stmt.mQuery.mResultSet = some rs →
      ∃ stmt' a, answer (ctx, .getData c b) stmt = .ok (stmt', a) ∧
        stmt'.mQuery.mResultSet = some rs := by
    intro stmt c b hrs
    by_cases hstatus : (stmt.streamFor c).status = .noMoreData
    · exact ⟨_, _, answer_of_sqlGetData (sqlGetData_noData ctx b hrs hstatus), hrs⟩
    · have hget : ∃ translated, rs.getData ctx.deref stmt.ard c b (stmt.streamFor c) =
          .ok translated := by
        unfold ResultSet.getData
        rw [hcurrent]
        split
        · exact ⟨_, rfl⟩
        · exact ⟨_, rfl⟩
      obtain ⟨translated, hget⟩ := hget
      obtain ⟨out, hout, hq, -⟩ := sqlGetData_of_getData hrs hstatus hget
      exact ⟨_, _, answer_of_sqlGetData hout, (congrArg Query.mResultSet hq).trans hrs⟩
  induction cols generalizing stmt count with
  | nil => exact ⟨stmt, [], rfl⟩
  | cons col cols ih =>
    rw [columnReads]
    split
    · obtain ⟨stmt₁, a, hfirst, hrs₁⟩ := hread hrs
      obtain ⟨stmt', answers, htrace⟩ := ih hrs₁
      exact ⟨stmt', a :: answers, trace_cons.mpr ⟨stmt₁, a, answers, hfirst, htrace, rfl⟩⟩
    · exact ih hrs

/-- Where the bound columns transfer their values, the cells of a row do. -/
theorem cellsTransfer_of_rowValue
    (htransfers : ∀ {c b type v}, rs.RowValue row c b type v →
      Column.Transfers rs.mTranslator type v b) :
    CellsTransfer { rs with mColumns := rs.mColumns.map Column.unbind } row 0
      (row.cells rs.mColumns).cells := by
  intro i cell b hcell hb
  obtain ⟨hcolumn, htext⟩ := RowData.cells_getElem hcell
  rw [Nat.zero_add]
  refine ⟨?_, htext, ?_⟩
  · unfold ResultSet.getColumn
    rw [if_neg (Nat.succ_ne_zero i), Nat.add_sub_cancel, List.getElem?_map, hcolumn]
    rfl
  · have hget : rs.getColumn (i + 1) = some cell.1 := by
      unfold ResultSet.getColumn
      rw [if_neg (Nat.succ_ne_zero i)]
      exact hcolumn
    exact @htransfers (i + 1) b _ _ ⟨⟨cell.1, hget, hb, rfl⟩, cell.1, cell.2, hget, htext, rfl⟩

/-- A row that can be read reaches every column. -/
theorem cells_columns (hwide : ∀ values ∈ rs.rows.stored, values.length = rs.columnCount)
    (hmove : rs.MovesTo row rs') (hreadable : (row.cells rs.mColumns).thrown = none) :
    (row.cells rs.mColumns).cells.map Prod.fst = rs.mColumns := by
  obtain ⟨-, rows, rows', hnext, hadvance, -⟩ := hmove
  cases row with
  | bulk values =>
    have hstored : rows.stored = rs.rows.stored := by
      rw [← rs.rows.hasNext_stored, hnext]
    have hlength := hwide values (hstored ▸ RowSource.mem_stored_of_advance hadvance)
    exact List.map_fst_zip hlength.ge
  | search getString => exact columnCells_columns hreadable
  | object map => exact columnCells_columns hreadable

/-- **A column that is read is a column that is bound.**  Where no bound column is a text and binary
data has room, unbinding the columns, fetching and reading each with the arguments it was bound with
succeeds exactly when the fetch into the bound columns does, and then it stores the same values, with
the debug log off. -/
theorem fetch_as_reads {calls : List (CallContext × StmtCall)} (ctx : CallContext)
    (h : run calls new = .ok stmt) (hrs : stmt.mQuery.mResultSet = some rs)
    (hmove : rs.MovesTo row rs') (hoffset : stmt.ard.mBindOffsetPtr = 0)
    (htransfers : ∀ {c b type v}, rs.RowValue row c b type v →
      Column.Transfers rs.mTranslator type v b) :
    ∃ stmt' result writes stmt'' answers,
      answer (ctx, .fetch) stmt = .ok (stmt', result, writes) ∧
      trace answer (readCalls ctx rs) stmt = .ok (stmt'', answers) ∧
      (result = .success ↔ ∀ a ∈ answers, a.1 = .success) ∧
      (result = .success → ∃ values status status', (∀ w ∈ status ++ status', w.IsStatus) ∧
        writes = values ++ status ∧ answers.flatMap Prod.snd = status' ++ values) := by
  have hwide : ∀ values ∈ rs.rows.stored, values.length = rs.columnCount := fun values hvalues =>
    (run_rectangular rectangular_new h).row_length hrs hvalues
  obtain ⟨stmt', result, status, hfetch, hstatus, -, -, -, hresult⟩ := answer_fetch ctx hrs hmove
  -- the columns are unbound
  have hunbind : answer (ctx, .freeStmt sqlUnbind) stmt =
      .ok (stmt.setResultSet rs.unbindColumns, .success, []) := by
    have hfree : stmt.sqlFreeStmt sqlUnbind =
        .ok ((stmt.setResultSet rs.unbindColumns).returns .success) := by
      unfold sqlFreeStmt
      rw [if_pos rfl, (resultSet_eq_ok stmt).mpr hrs]
      rfl
    rw [answer, call, uncaught, hfree]
    rfl
  have hmove' : rs.unbindColumns.MovesTo row rs'.unbindColumns := by
    obtain ⟨hempty, rows, rows', hnext, hadvance, rfl⟩ := hmove
    exact ⟨hempty, rows, rows', hnext, hadvance, rfl⟩
  -- the row is fetched and goes nowhere
  obtain ⟨stmt₁, result₁, status', hfetch', hstatus', hrs₁, hard₁, hstream₁, hresult₁⟩ :=
    @answer_fetch (stmt.setResultSet rs.unbindColumns) _ _ row ctx rfl hmove'
  have hcells : row.cells rs.unbindColumns.mColumns = _ := RowData.cells_unbind row rs.mColumns
  rw [hcells, setCells_unbind] at hfetch' hresult₁
  have hcurrent : rs'.unbindColumns.rows.current = .ok row := hmove'.current
  -- and then it is read
  obtain ⟨stmt₂, answers, htrace⟩ :=
    @trace_columnReads_ok ctx stmt₁ _ row 0 hrs₁ hcurrent rs.mColumns
  have hcalls : trace answer (readCalls ctx rs) stmt = .ok (stmt₂, _) :=
    trace_cons.mpr ⟨_, _, _, hunbind, trace_cons.mpr ⟨_, _, _, hfetch', htrace, rfl⟩, rfl⟩
  refine ⟨stmt', result, _, stmt₂, _, hfetch, hcalls, ?_⟩
  rw [List.forall_mem_cons, List.forall_mem_cons, hresult, hresult₁]
  by_cases hreadable : (row.cells rs.mColumns).thrown = none
  · have hoffset₁ : stmt₁.ard.mBindOffsetPtr = 0 := by
      rw [hard₁]
      exact hoffset
    have hstart : stmt₁.mDataStreamInfo.column ≤ 0 := by
      rw [hstream₁]
      exact le_rfl
    have hserved : CellsTransfer rs'.unbindColumns row 0 (row.cells rs.mColumns).cells := by
      obtain ⟨-, rows, rows', -, -, rfl⟩ := hmove
      exact cellsTransfer_of_rowValue htransfers
    obtain ⟨stmt₃, answers', htrace', hsuccess, hwrites⟩ :=
      @trace_columnReads ctx stmt₁ _ row 0 _ hrs₁ hcurrent hoffset₁ hstart hserved
    rw [cells_columns hwide hmove hreadable, htrace] at htrace'
    obtain ⟨rfl, rfl⟩ := Prod.ext_iff.mp (Except.ok.inj htrace')
    have htranslator : rs'.unbindColumns.mTranslator = rs.mTranslator := by
      obtain ⟨-, rows, rows', -, -, rfl⟩ := hmove
      rfl
    have hard : (stmt.setResultSet rs.unbindColumns).ard = stmt.ard := rfl
    rw [hard₁, htranslator, hard] at hsuccess hwrites
    refine ⟨?_, fun hall => ⟨_, status, status', ?_, rfl, ?_⟩⟩
    · rw [hsuccess]
      simp [hreadable]
    · intro w hw
      exact (List.mem_append.mp hw).elim (hstatus w) (hstatus' w)
    · simp [hwrites hall.1]
  · refine ⟨iff_of_false (fun hall => hreadable hall.2) (fun hall => hreadable hall.2.1.2), ?_⟩
    exact fun hall => absurd hall.2 hreadable

/-- An integer buffer at 100 with its indicator at 200. -/
def integerBinding : Binding := ⟨sqlCSlong, 100, 4, 200⟩

/-- A count is executed and bound. -/
def boundCount : List (CallContext × StmtCall) :=
  [(countContext 123456, .prepare countText), (countContext 123456, .execute),
    (countContext 123456, .bindCol 1 integerBinding)]

/-- The count goes to the integer alike when it is bound and when it is read. -/
theorem fetch_as_reads_count : ∃ stmt rs stmt' result writes stmt'' answers,
    run boundCount new = .ok stmt ∧ stmt.mQuery.mResultSet = some rs ∧
    answer (idleContext, .fetch) stmt = .ok (stmt', result, writes) ∧
    trace answer (readCalls idleContext rs) stmt = .ok (stmt'', answers) ∧
    (result = .success ↔ ∀ a ∈ answers, a.1 = .success) ∧
    (result = .success → ∃ values status status', (∀ w ∈ status ++ status', w.IsStatus) ∧
      writes = values ++ status ∧ answers.flatMap Prod.snd = status' ++ values) := by
  have hrun : run boundCount new = .ok _ := rfl
  have hmove := countResult_movesTo integerBinding "123456".toList
  have htransfers : ∀ {c b type v}, (countResult integerBinding
      (countAdded "123456".toList)).RowValue (.bulk ["123456".toList]) c b type v →
      Column.Transfers .default type v b := by
    rintro c b type v ⟨hbound, -⟩
    obtain ⟨rfl, rfl, rfl⟩ := isBound_countResult hbound
    have hworker : DataTranslator.default.worker sqlCSlong = some .int := rfl
    constructor
    · exact fun h => by cases hworker.symm.trans h
    · exact fun _ => by decide
    · exact fun h => by cases hworker.symm.trans h
    · exact fun _ => by decide
  obtain ⟨stmt', result, writes, stmt'', answers, hfetched⟩ :=
    fetch_as_reads idleContext hrun rfl hmove rfl htransfers
  exact ⟨_, _, stmt', result, writes, stmt'', answers, hrun, rfl, hfetched⟩

end Reading

end RetsSTMT

end EzRets
