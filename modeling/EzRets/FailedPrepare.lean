import EzRets.Lib.Throwing
import EzRets.ReExecution

/-!
# EzRets.FailedPrepare — `SQLPrepare` on metadata and memory that may fail

`SQLPrepare` builds and prepares a query of its own before it lets go of the old one.  Here every
call into librets and every allocation on the way may throw, and what has been done to the
statement before an exception stays done.  A call that fails has then touched the diagnostic
records only, and fetching goes on from where it was.
-/

namespace EzRets

open FaultRun Throwing
open FailPoints (Progress)

/-- `SQLPrepare` and its parts work on the statement. -/
abbrev PrepareM (α : Type) := Program RetsSTMT Exn Fault α

namespace PrepareM

/-! ## The query -/

section Prepare

variable (outcome : Nat → Option Exn) (conn : Connection)

/-- `DataTranslator::factory` and `newResultSet`. -/
def newResultSet (dt : DataTranslator) (rows : RowSource) : PrepareM ResultSet := do
  mayThrow outcome
  mayThrow outcome
  return ⟨dt, [], rows⟩

def addColumn (rs : ResultSet) (column : Column) : PrepareM ResultSet := do
  mayThrow outcome
  return { rs with mColumns := rs.mColumns ++ [column] }

def addColumns : List Column → ResultSet → PrepareM ResultSet
  | [], rs => return rs
  | column :: columns, rs => do addColumns columns (← addColumn outcome rs column)

/-- The result set of a query that checks its names first. -/
def prepareChecked (check : Except Fault (Option Exn)) (columns : List Column) :
    PrepareM ResultSet := do
  mayThrow outcome
  match ← orFault check with
  | some e => throw e
  | none => addColumns outcome columns (← newResultSet outcome .default (.bulk BulkRows.new))

/-- The result set of a query that checks nothing. -/
def prepareColumns (dt : DataTranslator) (rows : RowSource) (columns : List Column) :
    PrepareM ResultSet := do
  addColumns outcome columns (← newResultSet outcome dt rows)

/-- The tables of the selected fields. -/
def selectTables (v : MetadataView) (clazz : MetadataClass) :
    List Str → PrepareM (List MetadataTable)
  | [] => return []
  | si :: fields => do
    mayThrow outcome
    match v.getTable clazz si with
    | none => throw (.sqlState "42S22".toList ("Column ".toList ++ si ++ " does not exist.".toList))
    | some table => return table :: (← selectTables v clazz fields)

/-- The loop over the tables: each with a name gives a column, and its lookup is loaded. -/
def addTables (v : MetadataView) (useCompactFormat : Bool) (q : DmqlQuery) :
    List MetadataTable → ResultSet → PrepareM ResultSet
  | [], rs => return rs
  | table :: tables, rs => do
    if (conn.tableName table).isEmpty then addTables v useCompactFormat q tables rs
    else
      let rs ← addColumn outcome rs ⟨conn.tableName table, .rets v table useCompactFormat, none⟩
      if !conn.mDataSource.bool .useCompactFormat && MetadataView.isLookupColumn table then
        mayThrow outcome
        let _ ← orFault (v.getLookupTypes q.getResource table.lookupName)
        addTables v useCompactFormat q tables rs
      else addTables v useCompactFormat q tables rs

/-- `OnDemandDataQuery::prepareResultSet`. -/
def prepareOnDemandData (useCompactFormat : Bool) (q : DmqlQuery) : PrepareM ResultSet := do
  let rs ← newResultSet outcome (.factory conn.mDataSource) (.onDemand none)
  let v ← orFault conn.metadata
  mayThrow outcome
  match v.getClass q.getResource q.getClass with
  | none => throw (invalidName "Invalid Resource or Class name")
  | some clazz =>
    let fields := q.getFields.getD []
    if fields.isEmpty then
      mayThrow outcome
      addTables outcome conn v useCompactFormat q (v.getTablesForClass clazz) rs
    else
      let tables ← selectTables outcome v clazz fields
      addTables outcome conn v useCompactFormat q tables rs

/-- `prepareResultSet`. -/
def prepareResultSet : QueryKind → PrepareM ResultSet
  | .null => newResultSet outcome .default (.bulk BulkRows.new)
  | .dataCount q => prepareChecked outcome (DataCountQuery.check conn q) DataCountQuery.columns
  | .onDemandData useCompactFormat q => prepareOnDemandData outcome conn useCompactFormat q
  | .onDemandObject _ =>
    prepareColumns outcome .default (.onDemandObject none fun _ => []) OnDemandObjectQuery.columns
  | .lookup q => prepareChecked outcome (EzLookupQuery.check conn q) EzLookupQuery.columns
  | .lookupColumns q =>
    prepareChecked outcome (EzLookupColumnsQuery.check conn q) EzLookupColumnsQuery.columns
  | .tableMetadata _ _ _ _ =>
    prepareColumns outcome .default (.bulk BulkRows.new) TableMetadataQuery.columns
  | .columnMetadata _ _ =>
    prepareColumns outcome (.factory conn.mDataSource) (.bulk BulkRows.new)
      ColumnMetadataQuery.columns
  | .typeInfo _ => prepareColumns outcome .default (.bulk BulkRows.new) TypeInfoMetadataQuery.columns
  | .specialColumns _ _ _ _ =>
    prepareColumns outcome .default (.bulk BulkRows.new) SpecialColumnsMetadataQuery.columns
  | .statistics =>
    prepareColumns outcome .default (.bulk BulkRows.new) StatisticsMetadataQuery.columns
  | .primaryKeys _ =>
    prepareColumns outcome .default (.bulk BulkRows.new) PrimaryKeysMetadataQuery.columns

/-- `createSqlQuery`: the compiler, the constructor of the query, its result set. -/
def createSqlQuery (statement : Str) : PrepareM Query := do
  mayThrow outcome
  match (conn.sqlToDmql statement).bind (Query.ofCompiled (conn.mDataSource.bool .useCompactFormat))
    with
  | .error e => throw e
  | .ok kind =>
    mayThrow outcome
    let rs ← prepareResultSet outcome conn kind
    return ⟨kind, some rs⟩

/-- `addError`, then `SQL_ERROR`. -/
def raise (e : Error) : PrepareM SqlReturn := do
  mayThrow outcome
  update fun stmt => stmt.addError e
  return .error

/-- The `catch` clauses of `SQLPrepare`. -/
def caught : Exn → PrepareM SqlReturn
  | .retsSql what => raise outcome ⟨"42000".toList, "SQL Syntax error: ".toList ++ what⟩
  | .sqlState sqlstate what => raise outcome ⟨sqlstate, what⟩
  | e => throw e

/-- The assignment inside the `try` block. -/
def assignQuery (statement : Str) : PrepareM SqlReturn := do
  let q ← createSqlQuery outcome conn statement
  update fun stmt => stmt.setQuery q
  return .success

/-- `SQLPrepare`. -/
def sqlPrepare (statementText : SqlText) : PrepareM SqlReturn := do
  update RetsSTMT.clearErrors
  match statementText.bytes with
  | none => raise outcome (.of "HY009" "Statement cannot be NULL")
  | some bytes =>
    mayThrow outcome
    match sqlCharToString bytes statementText.length with
    | .error e => throw e
    | .ok statement =>
      ExceptT.tryCatch (assignQuery outcome conn statement) (caught outcome)

/-! ## Building a query leaves the statement alone -/

variable {τ : Type} {view : RetsSTMT → τ}

theorem keeps_newResultSet (dt : DataTranslator) (rows : RowSource) :
    Keeps view (newResultSet outcome dt rows) :=
  (Keeps.after_mayThrow (keeps_pure _)).after_mayThrow

theorem keeps_addColumn (rs : ResultSet) (column : Column) : Keeps view (addColumn outcome rs column) :=
  (keeps_pure _).after_mayThrow

theorem keeps_addColumns (columns : List Column) (rs : ResultSet) :
    Keeps view (addColumns outcome columns rs) := by
  induction columns generalizing rs with
  | nil => exact keeps_pure rs
  | cons column columns ih => exact (keeps_addColumn outcome rs column).bind fun rs' => ih rs'

theorem keeps_prepareColumns (dt : DataTranslator) (rows : RowSource) (columns : List Column) :
    Keeps view (prepareColumns outcome dt rows columns) :=
  (keeps_newResultSet outcome dt rows).bind fun rs => keeps_addColumns outcome columns rs

theorem keeps_prepareChecked (check : Except Fault (Option Exn)) (columns : List Column) :
    Keeps view (prepareChecked outcome check columns) := by
  refine Keeps.after_mayThrow ((keeps_orFault check).bind fun thrown => ?_)
  cases thrown with
  | some e => exact keeps_throw e
  | none => exact keeps_prepareColumns outcome .default (.bulk BulkRows.new) columns

theorem keeps_selectTables (v : MetadataView) (clazz : MetadataClass) (fields : List Str) :
    Keeps view (selectTables outcome v clazz fields) := by
  induction fields with
  | nil => exact keeps_pure []
  | cons si fields ih =>
    rw [selectTables]
    refine Keeps.after_mayThrow ?_
    cases v.getTable clazz si with
    | none => exact keeps_throw _
    | some table => exact ih.bind fun tables => keeps_pure _

theorem keeps_addTables (v : MetadataView) (useCompactFormat : Bool) (q : DmqlQuery)
    (tables : List MetadataTable) (rs : ResultSet) :
    Keeps view (addTables outcome conn v useCompactFormat q tables rs) := by
  induction tables generalizing rs with
  | nil => exact keeps_pure rs
  | cons table tables ih =>
    rw [addTables]
    split_ifs
    · exact ih rs
    · refine (keeps_addColumn outcome rs _).bind fun rs' => ?_
      exact Keeps.after_mayThrow ((keeps_orFault _).bind fun _ => ih rs')
    · exact (keeps_addColumn outcome rs _).bind fun rs' => ih rs'

theorem keeps_prepareOnDemandData (useCompactFormat : Bool) (q : DmqlQuery) :
    Keeps view (prepareOnDemandData outcome conn useCompactFormat q) := by
  refine (keeps_newResultSet outcome _ _).bind fun rs => ?_
  refine (keeps_orFault conn.metadata).bind fun v => ?_
  refine Keeps.after_mayThrow ?_
  cases v.getClass q.getResource q.getClass with
  | none => exact keeps_throw _
  | some clazz =>
    dsimp only
    split_ifs
    · exact (keeps_addTables outcome conn v useCompactFormat q _ rs).after_mayThrow
    · exact (keeps_selectTables outcome v clazz _).bind fun tables =>
        keeps_addTables outcome conn v useCompactFormat q tables rs

theorem keeps_prepareResultSet (kind : QueryKind) :
    Keeps view (prepareResultSet outcome conn kind) := by
  cases kind with
  | null => exact keeps_newResultSet outcome _ _
  | dataCount q => exact keeps_prepareChecked outcome _ _
  | onDemandData useCompactFormat q => exact keeps_prepareOnDemandData outcome conn _ q
  | lookup q => exact keeps_prepareChecked outcome _ _
  | lookupColumns q => exact keeps_prepareChecked outcome _ _
  | _ => exact keeps_prepareColumns outcome _ _ _

/-- **`createSqlQuery` leaves the statement alone**, whichever kind of query it builds and
wherever it throws. -/
theorem keeps_createSqlQuery (statement : Str) :
    Keeps view (createSqlQuery outcome conn statement) := by
  refine Keeps.after_mayThrow ?_
  cases (conn.sqlToDmql statement).bind
      (Query.ofCompiled (conn.mDataSource.bool .useCompactFormat)) with
  | error e => exact keeps_throw e
  | ok kind =>
    exact ((keeps_prepareResultSet outcome conn kind).bind fun rs => keeps_pure _).after_mayThrow

end Prepare

/-! ## Without exceptions from outside -/

section Quiet

variable (conn : Connection)

/-- No call throws. -/
abbrev quiet : Nat → Option Exn := fun _ => none

theorem computes_newResultSet (dt : DataTranslator) (rows : RowSource) :
    Computes (newResultSet quiet dt rows) (.ok (.ok ⟨dt, [], rows⟩)) :=
  (Computes.after_mayThrow (computes_pure _)).after_mayThrow

theorem computes_addColumns (columns : List Column) (rs : ResultSet) :
    Computes (addColumns quiet columns rs)
      (.ok (.ok { rs with mColumns := rs.mColumns ++ columns })) := by
  induction columns generalizing rs with
  | nil =>
    rw [List.append_nil]
    exact computes_pure rs
  | cons column columns ih =>
    have hrest := ih { rs with mColumns := rs.mColumns ++ [column] }
    rw [List.append_assoc] at hrest
    exact (Computes.after_mayThrow (computes_pure _)).bind_ok hrest

theorem computes_prepareColumns (dt : DataTranslator) (rows : RowSource) (columns : List Column) :
    Computes (prepareColumns quiet dt rows columns) (.ok (.ok ⟨dt, columns, rows⟩)) :=
  (computes_newResultSet dt rows).bind_ok (computes_addColumns columns ⟨dt, [], rows⟩)

theorem computes_prepareChecked (check : Except Fault (Option Exn)) (columns : List Column) :
    Computes (prepareChecked quiet check columns) (check.map (Query.prepareChecked columns)) := by
  refine Computes.after_mayThrow (computes_orFault_bind fun thrown _ => ?_)
  cases thrown with
  | some e => exact computes_throw e
  | none => exact computes_prepareColumns .default (.bulk BulkRows.new) columns

theorem computes_selectTables (v : MetadataView) (clazz : MetadataClass) (fields : List Str) :
    Computes (selectTables quiet v clazz fields)
      (.ok (OnDemandDataQuery.selectTables v clazz fields)) := by
  induction fields with
  | nil => exact computes_pure []
  | cons si fields ih =>
    rw [selectTables, OnDemandDataQuery.selectTables]
    refine Computes.after_mayThrow ?_
    cases v.getTable clazz si with
    | none => exact computes_throw _
    | some table => exact ih.map (table :: ·)

/-- The first table of the loop that loads the lookups. -/
theorem loadLookups_cons (v : MetadataView) (q : DmqlQuery) (table : MetadataTable)
    (tables : List MetadataTable) : OnDemandDataQuery.loadLookups conn v q (table :: tables) =
      (if !(conn.tableName table).isEmpty && !conn.mDataSource.bool .useCompactFormat &&
          MetadataView.isLookupColumn table then
        v.getLookupTypes q.getResource table.lookupName >>= fun _ =>
          OnDemandDataQuery.loadLookups conn v q tables
      else OnDemandDataQuery.loadLookups conn v q tables) := by
  rw [OnDemandDataQuery.loadLookups, List.forM_eq_forM, List.forM_cons]
  split_ifs
  · cases v.getLookupTypes q.getResource table.lookupName <;> rfl
  · rfl

theorem computes_addTables (v : MetadataView) (useCompactFormat : Bool) (q : DmqlQuery)
    (tables : List MetadataTable) (rs : ResultSet) :
    Computes (addTables quiet conn v useCompactFormat q tables rs)
      ((OnDemandDataQuery.loadLookups conn v q tables).map fun _ => .ok { rs with
        mColumns := rs.mColumns ++ OnDemandDataQuery.columns conn v useCompactFormat tables }) := by
  induction tables generalizing rs with
  | nil =>
    have hnil : OnDemandDataQuery.columns conn v useCompactFormat [] = [] := rfl
    rw [hnil, List.append_nil]
    exact computes_pure rs
  | cons table tables ih =>
    rw [addTables, loadLookups_cons]
    by_cases hname : (conn.tableName table).isEmpty = true
    · have hcolumns : OnDemandDataQuery.columns conn v useCompactFormat (table :: tables) =
          OnDemandDataQuery.columns conn v useCompactFormat tables := by
        simp [OnDemandDataQuery.columns, hname]
      rw [if_pos hname, hcolumns, hname, Bool.not_true, Bool.false_and, Bool.false_and,
        if_neg Bool.false_ne_true]
      exact ih rs
    · have hcolumns : OnDemandDataQuery.columns conn v useCompactFormat (table :: tables) =
          ⟨conn.tableName table, .rets v table useCompactFormat, none⟩ ::
            OnDemandDataQuery.columns conn v useCompactFormat tables := by
        simp [OnDemandDataQuery.columns, hname]
      have hrest := ih { rs with mColumns := rs.mColumns ++
        [⟨conn.tableName table, .rets v table useCompactFormat, none⟩] }
      rw [List.append_assoc, List.singleton_append] at hrest
      rw [if_neg hname, hcolumns, Bool.eq_false_iff.mpr hname, Bool.not_false, Bool.true_and]
      refine (Computes.after_mayThrow (computes_pure _)).bind_ok ?_
      split_ifs
      · rw [map_bind_eq]
        exact Computes.after_mayThrow (computes_orFault_bind fun _ _ => hrest)
      · exact hrest

theorem computes_prepareOnDemandData (useCompactFormat : Bool) (q : DmqlQuery) :
    Computes (prepareOnDemandData quiet conn useCompactFormat q)
      (OnDemandDataQuery.prepareResultSet conn useCompactFormat q) := by
  refine (computes_newResultSet _ _).bind_ok (computes_orFault_bind fun v _ => ?_)
  refine Computes.after_mayThrow ?_
  cases v.getClass q.getResource q.getClass with
  | none => exact computes_throw _
  | some clazz =>
    have hadd : ∀ tables : List MetadataTable,
        Computes (addTables quiet conn v useCompactFormat q tables
          ⟨.factory conn.mDataSource, [], .onDemand none⟩)
          (OnDemandDataQuery.loadLookups conn v q tables >>= fun _ =>
            .ok (.ok ⟨.factory conn.mDataSource,
              OnDemandDataQuery.columns conn v useCompactFormat tables, .onDemand none⟩)) := by
      intro tables
      have htables := computes_addTables conn v useCompactFormat q tables
        ⟨.factory conn.mDataSource, [], .onDemand none⟩
      cases hload : OnDemandDataQuery.loadLookups conn v q tables <;> rw [hload] at htables <;>
        exact htables
    dsimp only
    split_ifs
    · exact (hadd _).after_mayThrow
    · have hselect := computes_selectTables v clazz (q.getFields.getD [])
      cases hfields : OnDemandDataQuery.selectTables v clazz (q.getFields.getD []) <;>
        rw [hfields] at hselect <;> exact hselect.bind_except hadd

theorem computes_prepareResultSet (kind : QueryKind) :
    Computes (prepareResultSet quiet conn kind) (Query.prepareResultSet conn kind) := by
  cases kind with
  | null => exact computes_newResultSet _ _
  | dataCount q => exact computes_prepareChecked _ _
  | onDemandData useCompactFormat q => exact computes_prepareOnDemandData conn _ q
  | lookup q => exact computes_prepareChecked _ _
  | lookupColumns q => exact computes_prepareChecked _ _
  | _ => exact computes_prepareColumns _ _ _

theorem computes_createSqlQuery (statement : Str) :
    Computes (createSqlQuery quiet conn statement) (Query.createSqlQuery conn statement) := by
  unfold Query.createSqlQuery
  refine Computes.after_mayThrow ?_
  cases (conn.sqlToDmql statement).bind
      (Query.ofCompiled (conn.mDataSource.bool .useCompactFormat)) with
  | error e => exact computes_throw e
  | ok kind =>
    exact Computes.after_mayThrow
      ((computes_prepareResultSet conn kind).map fun rs => (⟨kind, some rs⟩ : Query))

end Quiet

/-! ## `SQLPrepare` -/

section Statement

variable {outcome : Nat → Option Exn} {conn : Connection} {p p' : Progress RetsSTMT}
  {r : Except Exn SqlReturn}

theorem keeps_raise (e : Error) : Keeps RetsSTMT.clearErrors (raise outcome e) := by
  refine Keeps.after_mayThrow ((keeps_update fun stmt => ?_).bind fun _ => keeps_pure _)
  rfl

theorem returns_raise (e : Error) : Returns (raise outcome e) (· = .error) :=
  returns_bind fun _ => returns_bind fun _ => returns_pure rfl

theorem keeps_caught (e : Exn) : Keeps RetsSTMT.clearErrors (caught outcome e) := by
  cases e with
  | retsSql what => exact keeps_raise _
  | sqlState sqlstate what => exact keeps_raise _
  | _ => exact keeps_throw _

theorem returns_caught (e : Exn) : Returns (caught outcome e) (· = .error) := by
  cases e with
  | retsSql what => exact returns_raise _
  | sqlState sqlstate what => exact returns_raise _
  | _ => exact returns_throw _

theorem assignQuery_cases {statement : Str}
    (h : assignQuery outcome conn statement p = .ok (r, p')) :
    (r = .ok .success ∧ ∃ q, p'.store = p.store.setQuery q) ∨
      ∃ e, r = .error e ∧ p'.store = p.store := by
  have hkeeps : Keeps id (createSqlQuery outcome conn statement) :=
    keeps_createSqlQuery outcome conn statement
  unfold assignQuery at h
  rw [bind_run] at h
  rcases hcreated : createSqlQuery outcome conn statement p with fault | ⟨e | q, p₁⟩ <;>
    rw [hcreated] at h
  · cases h
  · cases h
    exact .inr ⟨e, rfl, hkeeps p _ _ hcreated⟩
  · have hstore : p₁.store = p.store := hkeeps p _ _ hcreated
    cases h
    exact .inl ⟨rfl, q, congrArg (RetsSTMT.setQuery · q) hstore⟩

/-- **`SQLPrepare` installs a new query, or leaves everything but the records.** -/
theorem sqlPrepare_cases {statementText : SqlText}
    (h : sqlPrepare outcome conn statementText p = .ok (r, p')) :
    (r = .ok .success ∧ ∃ q, p'.store = p.store.clearErrors.setQuery q) ∨
      r ≠ .ok .success ∧ p'.store.clearErrors = p.store.clearErrors := by
  have hcleared : ∀ {m : PrepareM SqlReturn} {q : Progress RetsSTMT}, m q = .ok (r, p') →
      q.store.clearErrors = p.store.clearErrors → Keeps RetsSTMT.clearErrors m →
      Returns m (· = .error) →
      r ≠ .ok .success ∧ p'.store.clearErrors = p.store.clearErrors := by
    intro m q hm hq hkeeps hreturns
    refine ⟨?_, (hkeeps q r p' hm).trans hq⟩
    rintro rfl
    cases hreturns q _ p' hm
  obtain ⟨bytes, length⟩ := statementText
  unfold sqlPrepare at h
  rw [bind_run] at h
  dsimp only [update] at h
  rcases bytes with _ | bytes
  · have hraised : raise outcome (.of "HY009" "Statement cannot be NULL")
        ⟨p.tried, p.store.clearErrors⟩ = .ok (r, p') := h
    exact .inr (hcleared hraised rfl (keeps_raise _) (returns_raise _))
  · rcases after_mayThrow_cases h with ⟨e, rfl, hstore⟩ | h
    · exact .inr ⟨by simp, by rw [hstore]; rfl⟩
    rcases htext : sqlCharToString bytes length with e | statement <;> rw [htext] at h
    · cases h
      exact .inr ⟨by simp, rfl⟩
    dsimp only at h
    rw [tryCatch_run] at h
    rcases hassign : assignQuery outcome conn statement _ with fault | ⟨e | code, p₁⟩ <;>
      rw [hassign] at h
    · cases h
    · rcases assignQuery_cases hassign with ⟨hsuccess, -⟩ | ⟨e', -, hstore⟩
      · cases hsuccess
      · exact .inr (hcleared h (by rw [hstore]; rfl) (keeps_caught e) (returns_caught e))
    · cases h
      rcases assignQuery_cases hassign with ⟨hsuccess, q, hstore⟩ | ⟨e', he', -⟩
      · exact .inl ⟨hsuccess, q, hstore⟩
      · cases he'

end Statement

end PrepareM

namespace RetsSTMT

open PrepareM (quiet)

variable {outcome : Nat → Option Exn} {ctx : CallContext} {stmt stmt' : RetsSTMT}
  {text : SqlText} {returned : Returned}

/-- `SQLPrepare` through its entry wrapper. -/
def callPrepare (outcome : Nat → Option Exn) (ctx : CallContext) (stmt : RetsSTMT)
    (statementText : SqlText) : Except Fault Returned :=
  (PrepareM.sqlPrepare outcome ctx.conn statementText ⟨0, stmt⟩).map fun out =>
    entered ⟨out.2.store, out.1, []⟩

/-- **Without exceptions from outside this is the call of the statement.** -/
theorem callPrepare_quiet (ctx : CallContext) (stmt : RetsSTMT) (statementText : SqlText) :
    stmt.callPrepare quiet ctx statementText = stmt.call ctx (.prepare statementText) := by
  have hcall : stmt.call ctx (.prepare statementText) =
      (stmt.sqlPrepare ctx statementText).map entered := rfl
  rw [hcall]
  obtain ⟨bytes, length⟩ := statementText
  rcases bytes with _ | bytes
  · rfl
  have hstatement : SqlText.statement ⟨some bytes, length⟩ =
      (sqlCharToString bytes length).mapError .thrown := rfl
  have hrun : PrepareM.sqlPrepare quiet ctx.conn ⟨some bytes, length⟩ ⟨0, stmt⟩ =
      (match sqlCharToString bytes length with
      | .error e => throw e
      | .ok statement =>
        ExceptT.tryCatch (PrepareM.assignQuery quiet ctx.conn statement) (PrepareM.caught quiet) :
        PrepareM SqlReturn) ⟨1, stmt.clearErrors⟩ := rfl
  unfold callPrepare sqlPrepare
  rw [hrun, hstatement]
  rcases sqlCharToString bytes length with e | statement
  · rfl
  · obtain ⟨n, hn⟩ := PrepareM.computes_createSqlQuery ctx.conn statement ⟨1, stmt.clearErrors⟩
    dsimp only [Except.mapError, prepareStatement]
    rw [tryCatch_run, PrepareM.assignQuery, bind_run, hn]
    dsimp only
    rcases Query.createSqlQuery ctx.conn statement with fault | e | q
    · rfl
    · cases e <;> rfl
    · rfl

/-! ## What a failed call leaves -/

/-- The calls that fetch a row or read from it. -/
inductive Fetches : StmtCall → Prop
  | fetch : Fetches .fetch
  | fetchScroll (fetchOrientation : Int) : Fetches (.fetchScroll fetchOrientation)
  | extendedFetch (pcrow rgfRowStatus : Ptr) : Fetches (.extendedFetch pcrow rgfRowStatus)
  | getData (columnNumber : Nat) (b : Binding) : Fetches (.getData columnNumber b)

/-- What the application gets from a sequence of calls. -/
def outcomes : List (CallContext × StmtCall) → RetsSTMT → Except Fault (List Returned)
  | [], _ => .ok []
  | p :: calls, stmt => do
    let returned ← stmt.call p.1 p.2
    let rest ← outcomes calls returned.stmt
    return returned :: rest

/-- `stmt'` is `stmt` up to the diagnostic records, and fetching goes on from it as from `stmt`. -/
structure LeftAlone (stmt stmt' : RetsSTMT) : Prop where
  query : stmt'.mQuery = stmt.mQuery
  streamInfo : stmt'.mDataStreamInfo = stmt.mDataStreamInfo
  apd : stmt'.apd = stmt.apd
  ipd : stmt'.ipd = stmt.ipd
  ard : stmt'.ard = stmt.ard
  ird : stmt'.ird = stmt.ird
  fetching : ∀ ctx c calls, Fetches c →
    outcomes ((ctx, c) :: calls) stmt' = outcomes ((ctx, c) :: calls) stmt

/-- A fetch does not look at the records of the calls before it. -/
theorem call_of_fetches (ctx : CallContext) (stmt : RetsSTMT) {c : StmtCall} (hc : Fetches c) :
    stmt.call ctx c = stmt.clearErrors.call ctx c := by
  cases hc <;> rfl

theorem leftAlone_of_clearErrors (h : stmt'.clearErrors = stmt.clearErrors) :
    LeftAlone stmt stmt' where
  query := (congrArg RetsSTMT.mQuery h :)
  streamInfo := (congrArg RetsSTMT.mDataStreamInfo h :)
  apd := (congrArg RetsSTMT.apd h :)
  ipd := (congrArg RetsSTMT.ipd h :)
  ard := (congrArg RetsSTMT.ard h :)
  ird := (congrArg RetsSTMT.ird h :)
  fetching ctx c calls hc := by
    rw [outcomes, outcomes, call_of_fetches ctx stmt' hc, h, ← call_of_fetches ctx stmt hc]

/-- **A failed `SQLPrepare` changes nothing but the diagnostic records**, whatever call on the way
threw. -/
theorem leftAlone_of_prepare_error (h : stmt.callPrepare outcome ctx text = .ok returned)
    (herror : returned.result = .error) : LeftAlone stmt returned.stmt := by
  obtain ⟨⟨r, p⟩, hrun, rfl⟩ := map_eq_ok.mp h
  rcases PrepareM.sqlPrepare_cases hrun with ⟨rfl, -⟩ | ⟨-, hcleared⟩
  · cases herror
  · exact leftAlone_of_clearErrors hcleared

/-- The call that allocates the new result set fails. -/
def noMemory : Nat → Option Exn
  | 5 => some (.std "std::bad_alloc".toList)
  | _ => none

/-- A failed count in the middle of a type list. -/
theorem leftAlone_noMemory :
    ∃ stmt returned, run [(countContext 5, .getTypeInfo sqlBit), (countContext 5, .fetch)] new =
        .ok stmt ∧ stmt.callPrepare noMemory (countContext 5) countText = .ok returned ∧
      LeftAlone stmt returned.stmt := by
  have hfails : ∀ stmt : RetsSTMT, ∃ returned, returned.result = .error ∧
      stmt.callPrepare noMemory (countContext 5) countText = .ok returned :=
    fun stmt => ⟨_, rfl, rfl⟩
  have hrun : run [(countContext 5, .getTypeInfo sqlBit), (countContext 5, .fetch)] new =
      .ok _ := rfl
  obtain ⟨returned, herror, hcall⟩ := hfails _
  exact ⟨_, returned, hrun, hcall, leftAlone_of_prepare_error hcall herror⟩

end RetsSTMT

end EzRets
