import EzRets.StatementSteps

/-!
# EzRets.NullResultSet — which calls read a result set that does not exist

A fresh statement holds a `NullQuery`, whose result set is never prepared.  Every query that is
installed later has a result set, so the null pointer is read exactly by the calls that use the
result set of a statement which has not been prepared yet.
-/

namespace EzRets

open AbstractHandle FaultRun

/-! ## Queries never read a null result set -/

section Queries

variable (conn : Connection)

theorem avoids_metadata : Avoids .nullResultSet conn.metadata := by
  unfold Connection.metadata
  split
  · exact avoids_ok _ _
  · exact avoids_error (by simp)

theorem avoids_session : Avoids .nullResultSet conn.session := by
  unfold Connection.session
  split
  · exact avoids_ok _ _
  · exact avoids_error (by simp)

variable (v : MetadataView)

theorem avoids_getLookupTypes (resName lookup : Str) :
    Avoids .nullResultSet (v.getLookupTypes resName lookup) := by
  unfold MetadataView.getLookupTypes
  split
  · exact avoids_ok _ _
  · exact avoids_error (by simp)

theorem avoids_getLookup (resName lookup : Str) :
    Avoids .nullResultSet (v.getLookup resName lookup) := by
  unfold MetadataView.getLookup
  split
  · exact avoids_ok _ _
  · exact avoids_error (by simp)

theorem avoids_dataCount_check (q : DmqlQuery) :
    Avoids .nullResultSet (DataCountQuery.check conn q) := by
  refine (avoids_metadata conn).bind fun v _ => ?_
  split <;> exact avoids_pure _ _

theorem avoids_lookup_check (q : LookupQuery) :
    Avoids .nullResultSet (EzLookupQuery.check conn q) := by
  refine (avoids_metadata conn).bind fun v _ => ?_
  refine (avoids_getLookup v _ _).bind fun found _ => ?_
  split <;> exact avoids_pure _ _

theorem avoids_lookupColumns_check (q : LookupColumnsQuery) :
    Avoids .nullResultSet (EzLookupColumnsQuery.check conn q) := by
  refine (avoids_metadata conn).bind fun v _ => ?_
  split <;> exact avoids_pure _ _

theorem avoids_loadLookups (q : DmqlQuery) (tables : List MetadataTable) :
    Avoids .nullResultSet (OnDemandDataQuery.loadLookups conn v q tables) := by
  refine Avoids.forM fun table _ => ?_
  split
  · exact (avoids_getLookupTypes v _ _).map _
  · exact avoids_ok _ _

theorem avoids_onDemandData_prepare (useCompactFormat : Bool) (q : DmqlQuery) :
    Avoids .nullResultSet (OnDemandDataQuery.prepareResultSet conn useCompactFormat q) := by
  refine (avoids_metadata conn).bind fun v _ => ?_
  split
  · exact avoids_pure _ _
  · dsimp only
    split
    · exact avoids_pure _ _
    · exact (avoids_loadLookups conn v q _).bind fun _ _ => avoids_pure _ _

theorem avoids_prepareResultSet (kind : QueryKind) :
    Avoids .nullResultSet (Query.prepareResultSet conn kind) := by
  cases kind with
  | dataCount q => exact (avoids_dataCount_check conn q).map _
  | lookup q => exact (avoids_lookup_check conn q).map _
  | lookupColumns q => exact (avoids_lookupColumns_check conn q).map _
  | onDemandData useCompactFormat q => exact avoids_onDemandData_prepare conn useCompactFormat q
  | null => exact avoids_ok _ _
  | onDemandObject _ => exact avoids_ok _ _
  | tableMetadata _ _ _ _ => exact avoids_ok _ _
  | columnMetadata _ _ => exact avoids_ok _ _
  | typeInfo _ => exact avoids_ok _ _
  | specialColumns _ _ _ _ => exact avoids_ok _ _
  | statistics => exact avoids_ok _ _
  | primaryKeys _ => exact avoids_ok _ _

theorem avoids_createSqlQuery (statement : Str) :
    Avoids .nullResultSet (Query.createSqlQuery conn statement) := by
  unfold Query.createSqlQuery
  split
  · exact avoids_ok _ _
  · exact (avoids_prepareResultSet conn _).map _

theorem avoids_dataCount_execute (q : DmqlQuery) :
    Avoids .nullResultSet (DataCountQuery.execute conn q) := by
  unfold DataCountQuery.execute
  split
  · refine (avoids_session conn).bind fun session _ => ?_
    split <;> exact avoids_pure _ _
  · exact avoids_ok _ _

theorem avoids_lookupColumns_execute (q : LookupColumnsQuery) :
    Avoids .nullResultSet (EzLookupColumnsQuery.execute conn q) := by
  refine (avoids_metadata conn).bind fun v _ => ?_
  split
  · exact avoids_error (by simp)
  · exact avoids_pure _ _

theorem avoids_tables (mTable : Str) :
    Avoids .nullResultSet (TableMetadataQuery.tables conn v mTable) := by
  unfold TableMetadataQuery.tables
  split
  · split <;> exact avoids_ok _ _
  · split
    · exact avoids_ok _ _
    · unfold MetadataView.getSQLObjectTableMetadataOf
      dsimp only
      split
      · split
        · exact avoids_ok _ _
        · exact avoids_error (by simp)
      · exact avoids_ok _ _

theorem avoids_tableMetadata_execute (catalog schema table tableType : Str) :
    Avoids .nullResultSet (TableMetadataQuery.execute conn catalog schema table tableType) := by
  unfold TableMetadataQuery.execute
  split
  · exact avoids_ok _ _
  split
  · exact avoids_ok _ _
  split
  · exact avoids_ok _ _
  refine (avoids_session conn).bind fun session _ => ?_
  split
  · exact avoids_pure _ _
  split
  · exact avoids_pure _ _
  split
  · exact avoids_pure _ _
  refine (avoids_metadata conn).bind fun v _ => ?_
  exact (avoids_tables conn v _).bind fun _ _ => avoids_pure _ _

theorem avoids_processColumn (res : MetadataResource) (clazz : MetadataClass)
    (rTable : Option MetadataTable) :
    Avoids .nullResultSet (ColumnMetadataQuery.processColumn conn v res clazz rTable) := by
  unfold ColumnMetadataQuery.processColumn
  dsimp only
  split
  · exact avoids_ok _ _
  · split
    · exact avoids_error (by simp)
    · split <;> exact avoids_ok _ _

theorem avoids_processClass (mColumn : Str) (rcp : MetadataResource × MetadataClass) :
    Avoids .nullResultSet (ColumnMetadataQuery.processClass conn v mColumn rcp) := by
  unfold ColumnMetadataQuery.processClass
  split
  · refine Avoids.bind (Avoids.mapM fun table _ => ?_) fun _ _ => avoids_pure _ _
    exact avoids_processColumn conn v _ _ _
  · exact avoids_processColumn conn v _ _ _

theorem avoids_columnMetadata_execute (table column : Str) :
    Avoids .nullResultSet (ColumnMetadataQuery.execute conn table column) := by
  unfold ColumnMetadataQuery.execute
  split
  · exact avoids_ok _ _
  split
  · exact avoids_ok _ _
  refine (avoids_metadata conn).bind fun v _ => ?_
  refine Avoids.bind (Avoids.mapM fun rcp _ => ?_) fun _ _ => avoids_pure _ _
  exact avoids_processClass conn v column rcp

theorem avoids_bulkExecution {stored : Nat} {kind : QueryKind} {execution : Except Fault Execution}
    (h : Query.bulkExecution conn stored kind = some execution) :
    Avoids .nullResultSet execution := by
  cases kind with
  | null => cases h
  | onDemandData _ _ => cases h
  | onDemandObject _ => cases h
  | dataCount q =>
    cases h
    exact avoids_dataCount_execute conn q
  | lookup q =>
    cases h
    refine (avoids_metadata conn).bind fun v _ => ?_
    exact (avoids_getLookupTypes v _ _).bind fun _ _ => avoids_pure _ _
  | lookupColumns q =>
    cases h
    exact avoids_lookupColumns_execute conn q
  | tableMetadata _ _ _ _ =>
    cases h
    exact avoids_tableMetadata_execute conn _ _ _ _
  | columnMetadata _ _ =>
    cases h
    exact avoids_columnMetadata_execute conn _ _
  | typeInfo _ =>
    cases h
    exact avoids_ok _ _
  | specialColumns _ _ _ _ =>
    cases h
    unfold SpecialColumnsMetadataQuery.execute
    split_ifs
    · exact avoids_ok _ _
    · exact avoids_ok _ _
    · exact avoids_ok _ _
    · exact (avoids_metadata conn).bind fun v _ => avoids_pure _ _
  | statistics =>
    cases h
    exact avoids_ok _ _
  | primaryKeys _ =>
    cases h
    exact (avoids_metadata conn).bind fun v _ => avoids_pure _ _

end Queries

theorem avoids_executeOnDemand {α : Type} {q : Query} {rs : ResultSet} {answer : Except Exn α}
    {store : α → RowSource} (hrs : q.mResultSet = some rs) :
    Avoids .nullResultSet (q.executeOnDemand answer store) := by
  unfold Query.executeOnDemand
  split
  · exact avoids_ok _ _
  · rw [hrs]
    exact avoids_ok _ _

/-- The bulk queries are those with a bulk result set. -/
theorem exists_bulk {q : Query} (hq : q.WellFormed) (hkind : q.kind.resultSetType = some .bulk) :
    ∃ dt columns rows, q.mResultSet = some ⟨dt, columns, .bulk rows⟩ := by
  rw [Query.WellFormed, hkind] at hq
  obtain ⟨⟨dt, columns, rows⟩, hrs, ht⟩ := Option.map_eq_some_iff.mp hq
  cases rows with
  | bulk rows => exact ⟨dt, columns, rows, hrs⟩
  | onDemand _ => cases ht
  | onDemandObject _ _ => cases ht

theorem avoids_execute (conn : Connection) {q : Query} (hq : q.WellFormed) :
    Avoids .nullResultSet (q.execute conn) := by
  unfold Query.execute
  split
  · exact avoids_ok _ _
  · rename_i hkind
    obtain ⟨rs, hrs⟩ := hq.exists_resultSet (by simp [hkind])
    split
    · refine Avoids.bind ?_ fun _ _ => avoids_executeOnDemand hrs
      unfold OnDemandDataQuery.doRetsQuery
      split
      · exact avoids_error (by simp)
      · exact (avoids_session conn).bind fun _ _ => avoids_pure _ _
    · exact avoids_ok _ _
  · rename_i hkind
    obtain ⟨rs, hrs⟩ := hq.exists_resultSet (by simp [hkind])
    refine Avoids.bind ?_ fun _ _ => avoids_executeOnDemand hrs
    unfold OnDemandObjectQuery.response
    split
    · exact avoids_ok _ _
    · exact (avoids_session conn).bind fun _ _ => avoids_pure _ _
  · rename_i hnull hdata hobject
    have hbulk : q.kind.resultSetType = some .bulk := by
      cases hkind : q.kind with
      | null => exact (hnull hkind).elim
      | onDemandData b d => exact (hdata b d hkind).elim
      | onDemandObject o => exact (hobject o hkind).elim
      | _ => rfl
    obtain ⟨dt, columns, rows, hrs⟩ := exists_bulk hq hbulk
    simp only [hrs]
    split
    · rename_i hexecution
      exact (avoids_bulkExecution conn hexecution).map _
    · exact avoids_ok _ _

/-! ## Calls on a statement -/

/-- The calls that read the result set before they can return: `SQLBindCol` returns early for a
null buffer, `SQLFetchScroll` for another direction than `SQL_FETCH_NEXT`, and of the diagnostic
fields only the row count of the cursor needs it. -/
def StmtCall.readsResultSet (mErrors : List Error) : StmtCall → Prop
  | .bindCol columnNumber b => columnNumber = 0 ∨ b.targetValue ≠ 0
  | .describeCol _ _ | .numResultCols _ | .fetch | .extendedFetch _ _ | .getData _ _
  | .rowCount _ => True
  | .fetchScroll fetchOrientation => fetchOrientation = 1
  | .freeStmt option => option = RetsSTMT.sqlUnbind
  | .getDiagField recNumber diagIdentifier _ =>
    diagIdentifier = -1249 ∧ 0 ≤ recNumber ∧ recNumber ≤ mErrors.length
  | _ => False

namespace RetsSTMT

section Exists

variable {ctx : CallContext} {stmt : RetsSTMT} {rs : ResultSet}

theorem avoids_resultSet (hrs : stmt.mQuery.mResultSet = some rs) :
    Avoids .nullResultSet stmt.resultSet := by
  rw [(resultSet_eq_ok stmt).mpr hrs]
  exact avoids_ok _ _

/-- Clearing the records leaves the result set in place. -/
theorem clearErrors_mResultSet (hrs : stmt.mQuery.mResultSet = some rs) :
    stmt.clearErrors.mQuery.mResultSet = some rs := hrs

theorem clearErrors_resultSet_error (h : stmt.resultSet = .error .nullResultSet) :
    stmt.clearErrors.resultSet = .error .nullResultSet := h

theorem avoids_isBadColumn (hrs : stmt.mQuery.mResultSet = some rs) (n : Nat) :
    Avoids .nullResultSet (stmt.isBadColumn n) := by
  unfold isBadColumn
  split
  · exact (avoids_resultSet hrs).map _
  · exact avoids_ok _ _

theorem avoids_advance (rows : RowSource) : Avoids .nullResultSet rows.advance := by
  cases rows with
  | bulk rs =>
    refine Avoids.map _ ?_
    unfold BulkRows.next
    extract_lets iterator
    by_cases h : iterator < rs.mResults.length
    · rw [dif_pos h]
      exact avoids_ok _ _
    · rw [dif_neg h]
      exact avoids_error (by simp)
  | onDemand results =>
    cases results with
    | none => exact avoids_error (by simp)
    | some results => exact avoids_ok _ _
  | onDemandObject pending map => exact avoids_ok _ _

theorem avoids_current (rows : RowSource) : Avoids .nullResultSet rows.current := by
  cases rows with
  | bulk rs =>
    dsimp only [RowSource.current]
    split
    · exact avoids_ok _ _
    · exact avoids_error (by simp)
  | onDemand results =>
    cases results with
    | none => exact avoids_error (by simp)
    | some results => exact avoids_ok _ _
  | onDemandObject pending map => exact avoids_ok _ _

theorem avoids_sqlFetch (hrs : stmt.mQuery.mResultSet = some rs) :
    Avoids .nullResultSet (stmt.sqlFetch ctx) := by
  refine Avoids.bind (avoids_resultSet (clearErrors_mResultSet hrs)) fun rs' _ => ?_
  split
  · exact avoids_pure _ _
  · dsimp only
    split
    · exact avoids_pure _ _
    · exact avoids_pure _ _
    · refine Avoids.bind ((avoids_advance _).map _) fun processed _ => ?_
      split
      · exact avoids_pure _ _
      · split <;> exact avoids_pure _ _

theorem avoids_sqlGetData (hrs : stmt.mQuery.mResultSet = some rs) (n : Nat) (b : Binding) :
    Avoids .nullResultSet (stmt.sqlGetData ctx n b) := by
  refine Avoids.bind (avoids_isBadColumn (clearErrors_mResultSet hrs) n) fun bad _ => ?_
  split
  · exact avoids_pure _ _
  · dsimp only
    split
    · exact avoids_pure _ _
    · refine Avoids.bind (avoids_resultSet hrs) fun rs' _ => ?_
      refine Avoids.bind ?_ fun translated _ => ?_
      · unfold ResultSet.getData
        split
        · exact avoids_ok _ _
        · exact (avoids_current _).map _
      · split
        · split <;> exact avoids_pure _ _
        · split <;> exact avoids_pure _ _

end Exists

variable {ctx : CallContext} {stmt : RetsSTMT}

/-- A diagnostic field reads the result set for the row count of the cursor only. -/
theorem sqlGetDiagField_null_iff {r f : Int} {a : DiagFieldArgs} :
    sqlGetDiagField (stmt.diagMethods ctx) stmt.mErrors r f a = .error .nullResultSet ↔
      stmt.mQuery.mResultSet = none ∧ f = -1249 ∧ 0 ≤ r ∧ r ≤ stmt.mErrors.length := by
  unfold sqlGetDiagField
  by_cases h0 : r < 0
  · rw [if_pos h0]
    exact ⟨fun h => (by cases h), fun h => absurd h.2.2.1 (by omega)⟩
  rw [if_neg h0]
  by_cases h1 : r > stmt.mErrors.length
  · rw [if_pos h1]
    exact ⟨fun h => (by cases h), fun h => absurd h.2.2.2 (by omega)⟩
  rw [if_neg h1]
  by_cases h2 : r = 0 ∧ f > 0
  · rw [if_pos h2]
    exact ⟨fun h => (by cases h), fun h => absurd h.2.1 (by omega)⟩
  rw [if_neg h2]
  have hother : ∀ {x : Except Fault Answer}, f ≠ -1249 → Avoids .nullResultSet x →
      (x = .error .nullResultSet ↔ stmt.mQuery.mResultSet = none ∧ f = -1249 ∧ 0 ≤ r ∧
        r ≤ stmt.mErrors.length) :=
    fun hf hx => ⟨fun h => absurd h hx, fun h => absurd h.2.1 hf⟩
  split
  · have hcursor : (stmt.diagMethods ctx).cursorRowCount a = .error .nullResultSet ↔
        stmt.mQuery.mResultSet = none := by
      cases hrs : stmt.mQuery.mResultSet with
      | none =>
        have herror := (resultSet_eq_error stmt).mpr ⟨hrs, rfl⟩
        refine ⟨fun _ => rfl, fun _ => ?_⟩
        dsimp only [diagMethods]
        rw [herror]
        rfl
      | some rs =>
        have havoids : Avoids .nullResultSet ((stmt.diagMethods ctx).cursorRowCount a) :=
          (avoids_resultSet hrs).bind fun _ _ => avoids_diagInteger (by decide) _ _ _
        exact ⟨fun h => absurd h havoids, fun h => (by cases h)⟩
    rw [hcursor]
    exact ⟨fun h => ⟨h, rfl, by omega, by omega⟩, fun h => h.1⟩
  · exact hother (by decide) (avoids_diagTextOptional (by decide) _ _)
  · exact hother (by decide) (avoids_diagInteger (by decide) _ _ _)
  · exact hother (by decide) (avoids_diagInteger (by decide) _ _ _)
  · exact hother (by decide) (avoids_diagInteger (by decide) _ _ _)
  · exact hother (by decide) (avoids_diagText (by decide) _ _)
  · exact hother (by decide) (avoids_diagText (by decide) _ _)
  · exact hother (by decide) (avoids_diagInteger (by decide) _ _ _)
  · exact hother (by decide) (avoids_diagTextOptional (by decide) _ _)
  · refine hother (by decide) ?_
    cases errorAt stmt.mErrors r with
    | none => exact avoids_error (by simp)
    | some e => exact avoids_diagText (by decide) _ _
  · exact hother (by decide) (avoids_diagInteger (by decide) _ _ _)
  · exact hother (by decide) (avoids_diagInteger (by decide) _ _ _)
  · exact hother (by decide) (avoids_diagTextOptional (by decide) _ _)
  · refine hother (by decide) ?_
    cases errorAt stmt.mErrors r with
    | none => exact avoids_error (by simp)
    | some e =>
      dsimp only
      split_ifs
      · exact avoids_error (by simp)
      · exact avoids_ok _ _
  · exact hother ‹_› (avoids_ok _ _)

/-- The calls that prepare, execute or list the catalog never read a null result set. -/
theorem avoids_runCatalog {kind : QueryKind} {caught : Exn → Option Error} (hkind : kind ≠ .null) :
    Avoids .nullResultSet (stmt.runCatalog ctx kind caught) := by
  refine (avoids_prepareResultSet ctx.conn kind).bind fun prepared hprepared => ?_
  split
  · exact avoids_pure _ _
  · have hwf := Query.prepareResultSet_wellFormed hkind hprepared
    exact (avoids_execute ctx.conn hwf).bind fun _ _ => avoids_pure _ _

theorem avoids_fails (failure : ArgumentFailure) : Avoids .nullResultSet (stmt.fails failure) := by
  cases failure with
  | nullText => exact avoids_error (by simp)
  | thrown e => exact avoids_ok _ _
  | refused e => exact avoids_ok _ _

theorem avoids_sqlPrepare (statementText : SqlText) :
    Avoids .nullResultSet (stmt.sqlPrepare ctx statementText) := by
  unfold sqlPrepare
  split
  · exact avoids_fails _
  · exact (avoids_createSqlQuery _ _).map _

theorem avoids_catalog {c : StmtCall} {arguments : Except ArgumentFailure QueryKind}
    (hc : c.catalogArguments = some arguments) : Avoids .nullResultSet (stmt.uncaught ctx c) := by
  obtain ⟨caught, hcall⟩ := uncaught_catalog hc
  rw [hcall]
  cases arguments with
  | error failure => exact avoids_fails failure
  | ok kind => exact avoids_runCatalog (isCatalog_of_catalogArguments hc).1

theorem avoids_sqlExecute (hq : stmt.mQuery.WellFormed) :
    Avoids .nullResultSet (stmt.sqlExecute ctx) :=
  Avoids.map _ (avoids_execute ctx.conn hq)

theorem avoids_sqlExecDirect (statementText : SqlText) :
    Avoids .nullResultSet (stmt.sqlExecDirect ctx statementText) := by
  refine Avoids.bind (avoids_sqlPrepare statementText) fun prepared hprepared => ?_
  split
  · rename_i hsuccess
    obtain ⟨statement, q, -, hcreated, hq, -⟩ | ⟨-, -, hresult⟩ := sqlPrepare_cases hprepared
    · obtain ⟨kind, rs, hkind, hprep, rfl⟩ := createSqlQuery_eq_ok hcreated
      refine avoids_sqlExecute ?_
      rw [hq]
      exact Query.prepareResultSet_wellFormed hkind hprep
    · exact absurd hsuccess hresult
  · exact avoids_pure _ _

theorem null_iff_of_avoids {α : Type} {x : Except Fault α} (h : Avoids .nullResultSet x) :
    x = .error .nullResultSet ↔ stmt.mQuery.mResultSet = none ∧ False :=
  ⟨fun hx => absurd hx h, fun hx => hx.2.elim⟩

theorem null_iff_of_reads {α : Type} {x : Except Fault α} {P : Prop} (hP : P)
    (hnone : stmt.resultSet = .error .nullResultSet → x = .error .nullResultSet)
    (hsome : ∀ rs, stmt.mQuery.mResultSet = some rs → Avoids .nullResultSet x) :
    x = .error .nullResultSet ↔ stmt.mQuery.mResultSet = none ∧ P := by
  cases hrs : stmt.mQuery.mResultSet with
  | none => exact ⟨fun _ => ⟨rfl, hP⟩, fun _ => hnone ((resultSet_eq_error stmt).mpr ⟨hrs, rfl⟩)⟩
  | some rs => exact ⟨fun h => absurd h (hsome rs hrs), fun h => (by cases h.1)⟩

theorem isBadColumn_of_none (h : stmt.resultSet = .error .nullResultSet) (n : Nat) :
    stmt.isBadColumn n = if n < 1 then .error .nullResultSet else .ok false := by
  unfold isBadColumn
  rw [h]
  rfl

theorem sqlBindCol_null_iff {n : Nat} {b : Binding} :
    stmt.sqlBindCol n b = .error .nullResultSet ↔
      stmt.mQuery.mResultSet = none ∧ (n = 0 ∨ b.targetValue ≠ 0) := by
  by_cases hreads : n = 0 ∨ b.targetValue ≠ 0
  · refine null_iff_of_reads hreads (fun h => ?_) fun rs hrs => ?_
    · have hbad := isBadColumn_of_none (clearErrors_resultSet_error h) n
      simp only [sqlBindCol, hbad]
      by_cases hn : n < 1
      · rw [if_pos hn]
        rfl
      · have htarget : b.targetValue ≠ 0 := by
          rcases hreads with h0 | h0
          · omega
          · exact h0
        rw [if_neg hn, clearErrors_resultSet, h]
        simp [bind, Except.bind, htarget]
    · refine Avoids.bind (avoids_isBadColumn (clearErrors_mResultSet hrs) n) fun bad _ => ?_
      split
      · exact avoids_pure _ _
      · split
        · exact avoids_pure _ _
        · refine (avoids_resultSet hrs).bind fun rs' _ => ?_
          split <;> exact avoids_pure _ _
  · have hn : ¬ n < 1 := fun hn => hreads (.inl (by omega))
    have htarget : b.targetValue = 0 := by
      by_contra htarget
      exact hreads (.inr htarget)
    have hok : stmt.sqlBindCol n b = .ok (stmt.clearErrors.returns .error) := by
      simp [sqlBindCol, isBadColumn, hn, htarget, bind, Except.bind, pure, Except.pure]
    rw [hok]
    exact ⟨fun h => (by cases h), fun h => absurd h.2 hreads⟩

theorem sqlDescribeCol_null_iff {n : Nat} {a : DescribeColArgs} :
    stmt.sqlDescribeCol n a = .error .nullResultSet ↔ stmt.mQuery.mResultSet = none ∧ True := by
  refine null_iff_of_reads trivial (fun h => ?_) fun rs hrs => ?_
  · have hbad := isBadColumn_of_none (clearErrors_resultSet_error h) n
    simp only [sqlDescribeCol, hbad]
    by_cases hn : n < 1
    · rw [if_pos hn]
      rfl
    · rw [if_neg hn, clearErrors_resultSet, h]
      rfl
  · refine Avoids.bind (avoids_isBadColumn (clearErrors_mResultSet hrs) n) fun bad _ => ?_
    split
    · exact avoids_pure _ _
    · refine (avoids_resultSet hrs).bind fun rs' _ => ?_
      split
      · exact avoids_pure _ _
      · dsimp only
        split
        · exact avoids_error (by simp)
        · exact avoids_pure _ _

theorem sqlFetch_of_none (h : stmt.resultSet = .error .nullResultSet) :
    stmt.sqlFetch ctx = .error .nullResultSet := by
  simp only [sqlFetch, clearErrors_resultSet, h]
  rfl

/-- A fresh stream never is at its end, so `SQLGetData` goes on to the result set. -/
theorem sqlGetData_of_none (hi : stmt.mDataStreamInfo = .reset)
    (h : stmt.resultSet = .error .nullResultSet) (n : Nat) (b : Binding) :
    stmt.sqlGetData ctx n b = .error .nullResultSet := by
  have hbad := isBadColumn_of_none (clearErrors_resultSet_error h) n
  simp only [sqlGetData, hbad]
  by_cases hn : n < 1
  · rw [if_pos hn]
    rfl
  · have hstatus : (stmt.clearErrors.streamFor n).status ≠ .noMoreData := by
      unfold streamFor
      rw [clearErrors_mDataStreamInfo, hi]
      split <;> simp [DataStreamInfo.reset]
    rw [if_neg hn]
    simp only [bind, Except.bind, if_neg hstatus, Bool.false_eq_true, if_false]
    unfold resultSet at h ⊢
    dsimp only [clearErrors]
    rw [h]

theorem avoids_sqlGetDiagRec (mErrors : List Error) (r : Int) (a : DiagArgs) :
    Avoids .nullResultSet (sqlGetDiagRec mErrors r a) := by
  unfold sqlGetDiagRec
  split
  · exact avoids_ok _ _
  · split
    · exact avoids_ok _ _
    · split
      · exact avoids_error (by simp)
      · exact avoids_ok _ _

theorem avoids_sqlGetStmtAttr (attr : Int) (p p' : Ptr) :
    Avoids .nullResultSet (stmt.sqlGetStmtAttr ctx attr p p') := by
  unfold sqlGetStmtAttr
  dsimp only
  split
  case h_12 => exact avoids_ok _ _
  all_goals
    split
    · exact avoids_error (by simp)
    · exact avoids_ok _ _

/-- **Which calls read a null result set, for a statement whose query is well formed.** -/
theorem uncaught_null_iff {c : StmtCall} (hq : stmt.mQuery.WellFormed)
    (hi : stmt.mQuery.mResultSet = none → stmt.mDataStreamInfo = .reset) :
    stmt.uncaught ctx c = .error .nullResultSet ↔
      stmt.mQuery.mResultSet = none ∧ c.readsResultSet stmt.mErrors := by
  cases c with
  | bindCol n b => exact sqlBindCol_null_iff
  | describeCol n a => exact sqlDescribeCol_null_iff
  | numResultCols p =>
    refine null_iff_of_reads trivial (fun h => ?_) fun rs hrs => ?_
    · simp only [uncaught, sqlNumResultCols, clearErrors_resultSet, h]
      rfl
    · refine Avoids.bind (avoids_resultSet (clearErrors_mResultSet hrs)) fun rs' _ => ?_
      split
      · split
        · exact avoids_error (by simp)
        · exact avoids_pure _ _
      · exact avoids_pure _ _
  | fetch => exact null_iff_of_reads trivial sqlFetch_of_none fun rs hrs => avoids_sqlFetch hrs
  | fetchScroll orientation =>
    simp only [uncaught, sqlFetchScroll, StmtCall.readsResultSet]
    by_cases horientation : orientation = 1
    · rw [if_neg (not_not.mpr horientation)]
      refine null_iff_of_reads horientation
        (fun h => sqlFetch_of_none (clearErrors_resultSet_error h))
        fun rs hrs => avoids_sqlFetch (clearErrors_mResultSet hrs)
    · rw [if_pos horientation]
      exact ⟨fun h => (by cases h), fun h => absurd h.2 horientation⟩
  | extendedFetch p p' =>
    refine null_iff_of_reads trivial (fun h => ?_) fun rs hrs => ?_
    · have hfetch : stmt.clearErrors.sqlFetch ctx = .error .nullResultSet := sqlFetch_of_none h
      simp only [uncaught, sqlExtendedFetch, hfetch]
      rfl
    · refine Avoids.bind (avoids_sqlFetch (clearErrors_mResultSet hrs)) fun fetched _ => ?_
      split
      · exact avoids_pure _ _
      · split
        · exact avoids_error (by simp)
        · exact avoids_pure _ _
  | getData n b =>
    refine null_iff_of_reads trivial (fun h => ?_) fun rs hrs => avoids_sqlGetData hrs n b
    have hnone := ((resultSet_eq_error stmt).mp h).1
    exact sqlGetData_of_none (hi hnone) h n b
  | rowCount p =>
    refine null_iff_of_reads trivial (fun h => ?_) fun rs hrs => ?_
    · simp only [uncaught, sqlRowCount, clearErrors_resultSet, h]
      rfl
    · refine Avoids.bind (avoids_resultSet (clearErrors_mResultSet hrs)) fun rs' _ => ?_
      split
      · exact avoids_error (by simp)
      · exact avoids_pure _ _
  | colAttribute n f a =>
    refine null_iff_of_avoids ?_
    simp only [uncaught, sqlColAttribute]
    split
    · exact avoids_ok _ _
    split
    · exact avoids_ok _ _
    split
    · exact avoids_ok _ _
    split
    · exact avoids_ok _ _
    · exact avoids_ok _ _
    split
    · exact avoids_error (by simp)
    · exact avoids_ok _ _
  | freeStmt option =>
    simp only [uncaught, sqlFreeStmt, StmtCall.readsResultSet]
    by_cases hoption : option = sqlUnbind
    · rw [if_pos hoption]
      refine null_iff_of_reads hoption (fun h => ?_) fun rs hrs => (avoids_resultSet hrs).map _
      rw [h]
      rfl
    · rw [if_neg hoption]
      exact ⟨fun h => (by cases h), fun h => absurd h.2 hoption⟩
  | getDiagField r f a =>
    have hmap : stmt.uncaught ctx (.getDiagField r f a) = .error .nullResultSet ↔
        sqlGetDiagField (stmt.diagMethods ctx) stmt.mErrors r f a = .error .nullResultSet := by
      simp only [uncaught]
      cases sqlGetDiagField (stmt.diagMethods ctx) stmt.mErrors r f a with
      | error e => exact ⟨fun h => congrArg Except.error (Except.error.inj h),
          fun h => congrArg Except.error (Except.error.inj h)⟩
      | ok answer => exact ⟨fun h => (by cases h), fun h => (by cases h)⟩
    rw [hmap]
    exact sqlGetDiagField_null_iff
  | getDiagRec r a => exact null_iff_of_avoids ((avoids_sqlGetDiagRec _ _ _).map _)
  | error a => exact null_iff_of_avoids (((avoids_sqlGetDiagRec _ _ _).map _).map _)
  | prepare text => exact null_iff_of_avoids (avoids_sqlPrepare text)
  | execDirect text => exact null_iff_of_avoids (avoids_sqlExecDirect text)
  | execute => exact null_iff_of_avoids (avoids_sqlExecute hq)
  | tables catalog schema table type => exact null_iff_of_avoids (avoids_catalog rfl)
  | columns catalog table column => exact null_iff_of_avoids (avoids_catalog rfl)
  | getTypeInfo dataType => exact null_iff_of_avoids (avoids_catalog rfl)
  | specialColumns identifierType catalog table scope nullable =>
    exact null_iff_of_avoids (avoids_catalog rfl)
  | statistics catalog schema => exact null_iff_of_avoids (avoids_catalog rfl)
  | primaryKeys catalog schema table => exact null_iff_of_avoids (avoids_catalog rfl)
  | setStmtAttr attr value => exact null_iff_of_avoids (avoids_ok _ _)
  | getStmtAttr attr p p' => exact null_iff_of_avoids (avoids_sqlGetStmtAttr _ _ _)
  | paramOptions crow pirow => exact null_iff_of_avoids (avoids_ok _ _)
  | setDescField desc r f value => exact null_iff_of_avoids (avoids_ok _ _)
  | numParams p =>
    refine null_iff_of_avoids ?_
    simp only [uncaught, sqlNumParams]
    split
    · exact avoids_error (by simp)
    · exact avoids_ok _ _
  | moreResults => exact null_iff_of_avoids (avoids_ok _ _)
  | cancel => exact null_iff_of_avoids (avoids_ok _ _)

/-! ## Runs -/

/-- What holds of a statement that has been prepared or not been touched: the query has the result
set of its kind, and the stream of a statement without one is fresh. -/
structure Sound (stmt : RetsSTMT) : Prop where
  wellFormed : stmt.mQuery.WellFormed
  fresh : stmt.mQuery.mResultSet = none → stmt.mDataStreamInfo = .reset

theorem sound_new : Sound new := ⟨rfl, fun _ => rfl⟩

theorem StmtStep.sound {c : StmtCall} {stmt' : RetsSTMT} (hs : Sound stmt)
    (h : StmtStep ctx c stmt stmt') : Sound stmt' := by
  refine ⟨h.wellFormed hs.wellFormed, fun hnone => ?_⟩
  cases h with
  | keep hq hi =>
    rw [hi]
    exact hs.fresh (hq ▸ hnone)
  | stream hq hread =>
    rw [hq] at hnone
    rcases hread with hsome | hstatus
    · simp [hnone] at hsome
    · simp [hs.fresh hnone, DataStreamInfo.reset] at hstatus
  | rows _ _ hq =>
    rw [hq] at hnone
    cases hnone
  | bind _ _ _ hq =>
    rw [hq] at hnone
    cases hnone
  | unbind _ _ hq =>
    rw [hq] at hnone
    cases hnone
  | install _ _ _ _ hq =>
    rw [hq] at hnone
    cases hnone

theorem step_sound {p : CallContext × StmtCall} {stmt' : RetsSTMT} (hs : Sound stmt)
    (h : step p stmt = .ok stmt') : Sound stmt' := by
  obtain ⟨returned, hcall, rfl⟩ := map_eq_ok.mp h
  exact (call_step hs.wellFormed hcall).sound hs

theorem run_sound {calls : List (CallContext × StmtCall)} {stmt' : RetsSTMT} (hs : Sound stmt)
    (h : run calls stmt = .ok stmt') : Sound stmt' :=
  run_invariant (fun _ _ _ hs' => step_sound hs') hs h

/-- The step of a run reads a null result set exactly when its function does. -/
theorem step_null_iff {p : CallContext × StmtCall} (hs : Sound stmt) :
    step p stmt = .error .nullResultSet ↔
      stmt.mQuery.kind = .null ∧ p.2.readsResultSet stmt.mErrors := by
  have hkind : stmt.mQuery.mResultSet = none ↔ stmt.mQuery.kind = .null := by
    refine ⟨fun hnone => ?_, hs.wellFormed.resultSet_eq_none⟩
    by_contra hne
    obtain ⟨rs, hrs⟩ := hs.wellFormed.exists_resultSet hne
    rw [hnone] at hrs
    cases hrs
  rw [← hkind, ← uncaught_null_iff hs.wellFormed hs.fresh]
  unfold step call
  cases stmt.uncaught p.1 p.2 with
  | error e => exact ⟨fun h => congrArg Except.error (Except.error.inj h),
      fun h => congrArg Except.error (Except.error.inj h)⟩
  | ok out => exact ⟨fun h => (by cases h), fun h => (by cases h)⟩

/-! ### When a query is installed -/

/-- A step keeps the kind of the query, or installs a query that has a result set. -/
theorem StmtStep.kind_cases {c : StmtCall} {stmt' : RetsSTMT} (h : StmtStep ctx c stmt stmt') :
    stmt'.mQuery.kind = stmt.mQuery.kind ∨
      (c.installs ctx = true ∧ stmt'.mQuery.kind ≠ .null) := by
  cases h with
  | keep hq _ => exact .inl (congrArg Query.kind hq)
  | stream hq _ => exact .inl (congrArg Query.kind hq)
  | rows _ _ hq =>
    rw [hq]
    exact .inl rfl
  | bind _ _ _ hq =>
    rw [hq]
    exact .inl rfl
  | unbind _ _ hq =>
    rw [hq]
    exact .inl rfl
  | install hinstalls hkind _ _ hq =>
    refine .inr ⟨hinstalls, ?_⟩
    rw [hq]
    exact hkind

/-- Preparing a catalog query and executing it never ends in the `NullQuery`. -/
theorem runCatalog_kind {kind : QueryKind} {caught : Exn → Option Error} {out : StmtOut}
    (hkind : QueryKind.IsCatalog kind) (h : stmt.runCatalog ctx kind caught = .ok out) :
    out.stmt.mQuery.kind ≠ .null := by
  obtain ⟨rs, rows, -, -, hquery⟩ := runCatalog_query hkind h
  rw [hquery]
  exact hkind.1

theorem sqlPrepare_kind {statementText : SqlText} {statement : Str} {q : Query} {out : StmtOut}
    (hstatement : statementText.statement = .ok statement)
    (hcreated : Query.createSqlQuery ctx.conn statement = .ok (.ok q))
    (h : stmt.sqlPrepare ctx statementText = .ok out) :
    out.stmt.mQuery.kind ≠ .null ∧ out.stmt.mQuery.WellFormed ∧ out.result = .ok .success := by
  have hout : out = (stmt.clearErrors.setQuery q).returns .success := by
    simp only [sqlPrepare, hstatement, prepareStatement, hcreated] at h
    exact (Except.ok.inj h).symm
  obtain ⟨kind, rs, hkind, hprepared, rfl⟩ := createSqlQuery_eq_ok hcreated
  rw [hout]
  exact ⟨hkind, Query.prepareResultSet_wellFormed hkind hprepared, rfl⟩

theorem created_of_installs {statementText : SqlText}
    (h : (StmtCall.prepare statementText).installs ctx = true) :
    ∃ statement q, statementText.statement = .ok statement ∧
      Query.createSqlQuery ctx.conn statement = .ok (.ok q) := by
  simp only [StmtCall.installs] at h
  split at h
  · cases h
  · split at h
    · exact ⟨_, _, ‹_›, ‹_›⟩
    · cases h

/-- **A call that installs a query leaves a statement with a result set.** -/
theorem uncaught_installs {c : StmtCall} {out : StmtOut} (hinstalls : c.installs ctx = true)
    (h : stmt.uncaught ctx c = .ok out) : out.stmt.mQuery.kind ≠ .null := by
  have hcatalog : ∀ {arguments : Except ArgumentFailure QueryKind},
      c.catalogArguments = some arguments → out.stmt.mQuery.kind ≠ .null := by
    intro arguments hc
    obtain ⟨kind, rfl⟩ := (catalog_installs_iff hc).mp hinstalls
    obtain ⟨caught, hcall⟩ := uncaught_catalog hc
    rw [hcall] at h
    exact runCatalog_kind (isCatalog_of_catalogArguments hc) h
  cases c with
  | prepare statementText =>
    obtain ⟨statement, q, hstatement, hcreated⟩ := created_of_installs hinstalls
    exact (sqlPrepare_kind hstatement hcreated h).1
  | execDirect statementText =>
    obtain ⟨statement, q, hstatement, hcreated⟩ := created_of_installs hinstalls
    obtain ⟨prepared, hprep, h⟩ := bind_eq_ok.mp h
    obtain ⟨hkind, hwf, hresult⟩ := sqlPrepare_kind hstatement hcreated hprep
    rw [hresult] at h
    obtain hkeep | ⟨_, rows, -, -, hrows⟩ := sqlExecute_query hwf h
    · rw [hkeep]
      exact hkind
    · rw [hrows]
      exact hkind
  | tables catalog schema table type => exact hcatalog rfl
  | columns catalog table column => exact hcatalog rfl
  | getTypeInfo dataType => exact hcatalog rfl
  | specialColumns identifierType catalog table scope nullable => exact hcatalog rfl
  | statistics catalog schema => exact hcatalog rfl
  | primaryKeys catalog schema table => exact hcatalog rfl
  | _ => cases hinstalls

/-- One step: the query is the `NullQuery` afterwards exactly when it was and none is installed. -/
theorem step_kind_iff {p : CallContext × StmtCall} {stmt' : RetsSTMT} (hs : Sound stmt)
    (h : step p stmt = .ok stmt') :
    stmt'.mQuery.kind ≠ .null ↔ stmt.mQuery.kind ≠ .null ∨ p.2.installs p.1 = true := by
  obtain ⟨returned, hcall, rfl⟩ := map_eq_ok.mp h
  have hstep := call_step hs.wellFormed hcall
  constructor
  · intro hne
    rcases hstep.kind_cases with hkind | ⟨hinstalls, -⟩
    · exact .inl (hkind ▸ hne)
    · exact .inr hinstalls
  · rintro (hne | hinstalls)
    · rcases hstep.kind_cases with hkind | ⟨-, hne'⟩
      · exact hkind ▸ hne
      · exact hne'
    · obtain ⟨out, hout, rfl⟩ := map_eq_ok.mp hcall
      have hkind := uncaught_installs hinstalls hout
      dsimp only
      split <;> exact hkind

/-- Along a run: the query is no `NullQuery` any more exactly when a call has installed one. -/
theorem run_kind_iff {calls : List (CallContext × StmtCall)} {stmt' : RetsSTMT} (hs : Sound stmt)
    (h : run calls stmt = .ok stmt') :
    stmt'.mQuery.kind ≠ .null ↔
      stmt.mQuery.kind ≠ .null ∨ ∃ p ∈ calls, p.2.installs p.1 = true := by
  induction calls generalizing stmt with
  | nil =>
    cases h
    simp
  | cons p calls ih =>
    obtain ⟨t, ht, hrest⟩ := bind_eq_ok.mp h
    rw [ih (step_sound hs ht) hrest, step_kind_iff hs ht, or_assoc]
    simp only [List.mem_cons, exists_eq_or_imp]

/-- No call of the run reads a null result set. -/
def ReadsSafely (calls : List (CallContext × StmtCall)) : Prop :=
  run calls new ≠ .error .nullResultSet

/-- **A run on a fresh statement is safe exactly when every call that reads the result set comes
after one that installs a query.** -/
theorem readsSafely_iff {calls : List (CallContext × StmtCall)} :
    ReadsSafely calls ↔
      ∀ pre p post stmt, calls = pre ++ p :: post → run pre new = .ok stmt →
        p.2.readsResultSet stmt.mErrors → ∃ q ∈ pre, q.2.installs q.1 = true := by
  have hkind : ∀ {pre : List (CallContext × StmtCall)} {stmt : RetsSTMT}, run pre new = .ok stmt →
      (stmt.mQuery.kind ≠ .null ↔ ∃ q ∈ pre, q.2.installs q.1 = true) := by
    intro pre stmt hpre
    have hnew : ¬ (new.mQuery.kind ≠ .null) := fun h => h rfl
    rw [run_kind_iff sound_new hpre]
    exact ⟨fun h => h.resolve_left hnew, .inr⟩
  unfold ReadsSafely
  constructor
  · intro h pre p post stmt hcalls hpre hreads
    rw [← hkind hpre]
    intro hnull
    have hfault := (step_null_iff (run_sound sound_new hpre)).mpr ⟨hnull, hreads⟩
    exact h (run_eq_error_iff.mpr ⟨pre, p, post, stmt, hcalls, hpre, hfault⟩)
  · intro h hrun
    obtain ⟨pre, p, post, stmt, hcalls, hpre, hfault⟩ := run_eq_error_iff.mp hrun
    obtain ⟨hnull, hreads⟩ := (step_null_iff (run_sound sound_new hpre)).mp hfault
    exact (hkind hpre).mpr (h pre p post stmt hcalls hpre hreads) hnull

/-- A fetch as the first call of a statement reads the null result set. -/
theorem not_readsSafely_fetch :
    ¬ ReadsSafely [(⟨⟨DataSource.init, none, none, fun _ => .error (.retsSql [])⟩, fun _ => 0,
      fun _ => 0⟩, .fetch)] := by
  intro h
  exact h rfl

end RetsSTMT

end EzRets
