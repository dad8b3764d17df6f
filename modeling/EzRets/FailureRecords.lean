import EzRets.Bindings
import EzRets.HandleCalls

/-!
# EzRets.FailureRecords — failures and what the application can ask about them

A function that ends with `SQL_ERROR` or `SQL_SUCCESS_WITH_INFO` should have raised a record.  The
exceptions get theirs from the entry wrapper, the other failures from the functions themselves, and
a few functions forget it.
-/

namespace EzRets

open FaultRun AbstractHandle

/-- The return codes after which an application asks for a record. -/
def SqlReturn.needsRecord : SqlReturn → Bool
  | .error | .successWithInfo => true
  | _ => false

/-- A function that ends with such a code leaves a record; exceptions are left to the wrapper. -/
def Recorded (result : Except Exn SqlReturn) (mErrors : List Error) : Prop :=
  ∀ code, result = .ok code → code.needsRecord = true → mErrors ≠ []

section Recorded

variable {result : Except Exn SqlReturn} {mErrors : List Error}

theorem recorded_of_ne_nil (h : mErrors ≠ []) : Recorded result mErrors := fun _ _ _ => h

theorem recorded_append (es : List Error) (e : Error) : Recorded result (es ++ [e]) :=
  recorded_of_ne_nil (List.append_ne_nil_of_right_ne_nil _ (List.cons_ne_nil _ _))

theorem recorded_exn (e : Exn) : Recorded (.error e) mErrors := fun _ h => (by cases h)

theorem recorded_success : Recorded (.ok .success) mErrors := by
  intro code h hneeds
  rw [← Except.ok.inj h] at hneeds
  cases hneeds

theorem recorded_noData : Recorded (.ok .noData) mErrors := by
  intro code h hneeds
  rw [← Except.ok.inj h] at hneeds
  cases hneeds

/-- **The wrapper** turns every exception into a record. -/
theorem Recorded.odbcEntry (h : Recorded result mErrors)
    (hneeds : (EzRets.odbcEntry mErrors result).1.needsRecord = true) :
    (EzRets.odbcEntry mErrors result).2 ≠ [] := by
  rcases result with e | code
  · have happend : ∀ e', mErrors ++ [e'] ≠ [] := fun e' =>
      List.append_ne_nil_of_right_ne_nil _ (List.cons_ne_nil _ _)
    cases e <;> exact happend _
  · exact h code rfl hneeds

end Recorded

/-! ## Executions -/

/-- An execution of a bulk query that fails names its reason. -/
theorem Execution.recorded_success (rows : List (List Str)) :
    Recorded (Execution.success rows).result (Execution.success rows).errors :=
  EzRets.recorded_success

theorem DataCountQuery.execute_recorded {conn : Connection} {q : DmqlQuery} {out : Execution}
    (h : execute conn q = .ok out) : Recorded out.result out.errors := by
  unfold execute at h
  split_ifs at h
  · obtain ⟨session, -, h⟩ := bind_eq_ok.mp h
    split at h
    · obtain rfl := Except.ok.inj h
      exact recorded_exn _
    · obtain rfl := Except.ok.inj h
      exact Execution.recorded_success _
  · obtain rfl := Except.ok.inj h
    exact recorded_append [] _

theorem EzLookupQuery.execute_recorded {conn : Connection} {q : LookupQuery} {out : Execution}
    (h : execute conn q = .ok out) : Recorded out.result out.errors := by
  obtain ⟨v, -, h⟩ := bind_eq_ok.mp h
  obtain ⟨ltlist, -, h⟩ := bind_eq_ok.mp h
  obtain rfl := Except.ok.inj h
  exact Execution.recorded_success _

theorem EzLookupColumnsQuery.execute_recorded {conn : Connection} {q : LookupColumnsQuery}
    {out : Execution} (h : execute conn q = .ok out) : Recorded out.result out.errors := by
  obtain ⟨v, -, h⟩ := bind_eq_ok.mp h
  split at h
  · cases h
  · obtain rfl := Except.ok.inj h
    exact Execution.recorded_success _

theorem TableMetadataQuery.execute_recorded {conn : Connection}
    {catalog schema table tableType : Str} {out : Execution}
    (h : execute conn catalog schema table tableType = .ok out) :
    Recorded out.result out.errors := by
  obtain ⟨rows, rfl, -⟩ | ⟨e, rfl⟩ := execute_cases h
  · exact Execution.recorded_success _
  · exact recorded_append [] _

theorem ColumnMetadataQuery.execute_recorded {conn : Connection} {table column : Str}
    {out : Execution} (h : execute conn table column = .ok out) :
    Recorded out.result out.errors := by
  unfold execute at h
  split_ifs at h
  · obtain rfl := Except.ok.inj h
    exact recorded_append [] _
  · obtain rfl := Except.ok.inj h
    exact recorded_append [] _
  · obtain ⟨v, -, h⟩ := bind_eq_ok.mp h
    obtain ⟨rows, -, h⟩ := bind_eq_ok.mp h
    obtain rfl := Except.ok.inj h
    exact Execution.recorded_success _

theorem TypeInfoMetadataQuery.execute_recorded (dataType : Int) (stored : Nat) :
    Recorded (execute dataType stored).result (execute dataType stored).errors := by
  unfold execute
  dsimp only
  split_ifs
  · exact recorded_append [] _
  · exact Execution.recorded_success _

theorem SpecialColumnsMetadataQuery.execute_recorded {conn : Connection} {identifierType : Nat}
    {table : Str} {scope nullable : Nat} {out : Execution}
    (h : execute conn identifierType table scope nullable = .ok out) :
    Recorded out.result out.errors := by
  unfold execute at h
  split_ifs at h
  · obtain rfl := Except.ok.inj h
    exact Execution.recorded_success _
  · obtain rfl := Except.ok.inj h
    exact Execution.recorded_success _
  · obtain rfl := Except.ok.inj h
    exact Execution.recorded_success _
  · obtain ⟨v, -, h⟩ := bind_eq_ok.mp h
    obtain rfl := Except.ok.inj h
    exact Execution.recorded_success _

theorem PrimaryKeysMetadataQuery.execute_recorded {conn : Connection} {table : Str}
    {out : Execution} (h : execute conn table = .ok out) : Recorded out.result out.errors := by
  obtain ⟨v, -, h⟩ := bind_eq_ok.mp h
  obtain rfl := Except.ok.inj h
  exact Execution.recorded_success _

namespace Query

theorem bulkExecution_recorded {conn : Connection} {stored : Nat} {kind : QueryKind}
    {execution : Except Fault Execution} {out : Execution}
    (hsome : bulkExecution conn stored kind = some execution) (h : execution = .ok out) :
    Recorded out.result out.errors := by
  cases kind with
  | null => cases hsome
  | onDemandData _ _ => cases hsome
  | onDemandObject _ => cases hsome
  | dataCount q =>
    obtain rfl := Option.some.inj hsome
    exact DataCountQuery.execute_recorded h
  | lookup q =>
    obtain rfl := Option.some.inj hsome
    exact EzLookupQuery.execute_recorded h
  | lookupColumns q =>
    obtain rfl := Option.some.inj hsome
    exact EzLookupColumnsQuery.execute_recorded h
  | tableMetadata catalog schema table tableType =>
    obtain rfl := Option.some.inj hsome
    exact TableMetadataQuery.execute_recorded h
  | columnMetadata table column =>
    obtain rfl := Option.some.inj hsome
    exact ColumnMetadataQuery.execute_recorded h
  | typeInfo dataType =>
    obtain rfl := Option.some.inj hsome
    obtain rfl := Except.ok.inj h
    exact TypeInfoMetadataQuery.execute_recorded _ _
  | specialColumns identifierType table scope nullable =>
    obtain rfl := Option.some.inj hsome
    exact SpecialColumnsMetadataQuery.execute_recorded h
  | statistics =>
    obtain rfl := Option.some.inj hsome
    obtain rfl := Except.ok.inj h
    exact Execution.recorded_success _
  | primaryKeys table =>
    obtain rfl := Option.some.inj hsome
    exact PrimaryKeysMetadataQuery.execute_recorded h

theorem executeOnDemand_recorded {α : Type} {q : Query} {answer : Except Exn α}
    {store : α → RowSource} {out : Executed} (h : q.executeOnDemand answer store = .ok out) :
    Recorded out.result out.errors := by
  unfold executeOnDemand at h
  split at h
  · obtain rfl := Except.ok.inj h
    exact recorded_exn _
  · split at h
    · obtain rfl := Except.ok.inj h
      exact EzRets.recorded_success
    · cases h

/-- **An execution that fails names its reason**, or throws. -/
theorem execute_recorded {conn : Connection} {q : Query} {out : Executed}
    (h : q.execute conn = .ok out) : Recorded out.result out.errors := by
  unfold execute at h
  split at h
  · obtain rfl := Except.ok.inj h
    exact recorded_success
  · split_ifs at h
    · obtain ⟨answer, -, h⟩ := bind_eq_ok.mp h
      exact executeOnDemand_recorded h
    · obtain rfl := Except.ok.inj h
      exact recorded_append [] _
  · obtain ⟨answer, -, h⟩ := bind_eq_ok.mp h
    exact executeOnDemand_recorded h
  · split at h
    · split at h
      · rename_i hsome
        obtain ⟨done, hdone, rfl⟩ := map_eq_ok.mp h
        exact bulkExecution_recorded hsome hdone
      · obtain rfl := Except.ok.inj h
        exact recorded_success
    · cases h

end Query

/-! ## Statements -/

namespace RetsSTMT

variable {ctx : CallContext} {stmt : RetsSTMT} {out : StmtOut}

/-- What a function leaves when it fails. -/
abbrev StmtOut.Recorded (out : StmtOut) : Prop := EzRets.Recorded out.result out.stmt.mErrors

theorem recorded_raises (stmt : RetsSTMT) (e : Error) (code : SqlReturn) :
    StmtOut.Recorded (stmt.raises e code) := recorded_append _ _

/-- `SQLBindCol` with a target; without one it fails silently. -/
theorem sqlBindCol_recorded {n : Nat} {b : Binding} (hb : b.targetValue ≠ 0)
    (h : stmt.sqlBindCol n b = .ok out) : StmtOut.Recorded out := by
  simp only [sqlBindCol, bind_eq_ok] at h
  obtain ⟨bad, -, h⟩ := h
  split_ifs at h
  · obtain rfl := Except.ok.inj h
    exact recorded_raises _ _ _
  · obtain ⟨rs, -, h⟩ := bind_eq_ok.mp h
    split at h
    · obtain rfl := Except.ok.inj h
      exact recorded_exn _
    · obtain rfl := Except.ok.inj h
      exact recorded_success

theorem sqlBindCol_silent {n : Nat} {b : Binding} (hb : b.targetValue = 0)
    (h : stmt.sqlBindCol n b = .ok out) : out.result = .ok .error ∧ out.stmt.mErrors = [] := by
  simp only [sqlBindCol, bind_eq_ok] at h
  obtain ⟨bad, hbad, h⟩ := h
  have hfalse : bad = false := by
    unfold isBadColumn at hbad
    split_ifs at hbad with hn
    · obtain ⟨rs, -, rfl⟩ := map_eq_ok.mp hbad
      exact decide_eq_false (by omega)
    · exact (Except.ok.inj hbad).symm
  rw [hfalse, if_neg (by decide), if_pos hb] at h
  obtain rfl := Except.ok.inj h
  exact ⟨rfl, rfl⟩

theorem sqlDescribeCol_recorded {n : Nat} {a : DescribeColArgs}
    (h : stmt.sqlDescribeCol n a = .ok out) : StmtOut.Recorded out := by
  simp only [sqlDescribeCol, bind_eq_ok] at h
  obtain ⟨bad, -, h⟩ := h
  split at h
  · obtain rfl := Except.ok.inj h
    exact recorded_raises _ _ _
  · obtain ⟨rs, -, h⟩ := bind_eq_ok.mp h
    split at h
    · obtain rfl := Except.ok.inj h
      exact recorded_exn _
    · split_ifs at h
      obtain rfl := Except.ok.inj h
      exact recorded_success

theorem sqlNumResultCols_recorded {p : Ptr} (h : stmt.sqlNumResultCols p = .ok out) :
    StmtOut.Recorded out := by
  simp only [sqlNumResultCols, bind_eq_ok] at h
  obtain ⟨rs, -, h⟩ := h
  split_ifs at h
  · obtain rfl := Except.ok.inj h
    exact recorded_success
  · obtain rfl := Except.ok.inj h
    exact recorded_exn _

theorem sqlRowCount_recorded {p : Ptr} (h : stmt.sqlRowCount p = .ok out) :
    StmtOut.Recorded out := by
  simp only [sqlRowCount, bind_eq_ok] at h
  obtain ⟨rs, -, h⟩ := h
  split_ifs at h
  obtain rfl := Except.ok.inj h
  exact recorded_success

theorem setString_recorded (stmt : RetsSTMT) (a : ColAttributeArgs) (value : Str) :
    StmtOut.Recorded (stmt.setString a value) := by
  unfold setString
  dsimp only
  split_ifs
  · exact recorded_append _ _
  · exact recorded_success

theorem sqlColAttribute_recorded {n f : Nat} {a : ColAttributeArgs}
    (h : stmt.sqlColAttribute ctx n f a = .ok out) : StmtOut.Recorded out := by
  unfold sqlColAttribute at h
  dsimp only at h
  split at h
  · obtain rfl := Except.ok.inj h
    exact recorded_raises _ _ _
  split at h
  · obtain rfl := Except.ok.inj h
    exact recorded_raises _ _ _
  split at h
  · obtain rfl := Except.ok.inj h
    exact recorded_exn _
  split at h
  · obtain rfl := Except.ok.inj h
    exact recorded_raises _ _ _
  · obtain rfl := Except.ok.inj h
    split_ifs
    · exact recorded_success
    · exact setString_recorded _ _ _
  · split_ifs at h
    obtain rfl := Except.ok.inj h
    exact recorded_success

theorem fetchRow_recorded {rs : ResultSet} (h : stmt.fetchRow ctx rs = .ok out) :
    StmtOut.Recorded out := by
  simp only [fetchRow, bind_eq_ok] at h
  obtain ⟨processed, -, h⟩ := h
  split at h
  · obtain rfl := Except.ok.inj h
    exact recorded_success
  · split at h
    · obtain rfl := Except.ok.inj h
      exact recorded_append _ _
    · obtain rfl := Except.ok.inj h
      exact recorded_exn _

theorem sqlFetch_recorded (h : stmt.sqlFetch ctx = .ok out) : StmtOut.Recorded out := by
  simp only [sqlFetch, bind_eq_ok] at h
  obtain ⟨rs, -, h⟩ := h
  split at h
  · obtain rfl := Except.ok.inj h
    exact recorded_noData
  · split at h
    · obtain rfl := Except.ok.inj h
      exact recorded_exn _
    · obtain rfl := Except.ok.inj h
      exact recorded_noData
    · exact fetchRow_recorded h

theorem sqlExtendedFetch_recorded {p p' : Ptr} (h : stmt.sqlExtendedFetch ctx p p' = .ok out) :
    StmtOut.Recorded out := by
  simp only [sqlExtendedFetch, bind_eq_ok] at h
  obtain ⟨fetched, hfetched, h⟩ := h
  have hrecorded := sqlFetch_recorded hfetched
  split at h
  · obtain rfl := Except.ok.inj h
    exact hrecorded
  · split at h
    · cases h
    · obtain rfl := Except.ok.inj h
      exact hrecorded

theorem sqlFetchScroll_recorded {orientation : Int}
    (h : stmt.sqlFetchScroll ctx orientation = .ok out) : StmtOut.Recorded out := by
  unfold sqlFetchScroll at h
  dsimp only at h
  split_ifs at h
  · obtain rfl := Except.ok.inj h
    exact recorded_raises _ _ _
  · exact sqlFetch_recorded h

theorem sqlGetData_recorded {n : Nat} {b : Binding} (h : stmt.sqlGetData ctx n b = .ok out) :
    StmtOut.Recorded out := by
  simp only [sqlGetData, bind_eq_ok] at h
  obtain ⟨bad, -, h⟩ := h
  split at h
  · obtain rfl := Except.ok.inj h
    exact recorded_raises _ _ _
  split at h
  · obtain rfl := Except.ok.inj h
    exact recorded_noData
  obtain ⟨rs, -, h⟩ := bind_eq_ok.mp h
  obtain ⟨translated, -, h⟩ := bind_eq_ok.mp h
  split at h
  · split at h
    · obtain rfl := Except.ok.inj h
      exact recorded_append _ _
    · obtain rfl := Except.ok.inj h
      exact recorded_exn _
  · split at h
    · obtain rfl := Except.ok.inj h
      exact recorded_append _ _
    · obtain rfl := Except.ok.inj h
      exact recorded_success

/-! ### Preparing and executing -/

theorem executed_recorded {done : Query.Executed} {caught : Exn → Option Error}
    (hdone : EzRets.Recorded done.result done.errors) :
    StmtOut.Recorded (stmt.executed done caught) := by
  unfold executed
  rcases hresult : done.result with e | code
  · rcases hcaught : caught e with _ | record
    · simp only [hcaught]
      exact recorded_exn _
    · simp only [hcaught]
      exact recorded_raises _ _ _
  · intro code' hcode hneeds
    rw [← Except.ok.inj hcode] at hneeds
    exact List.append_ne_nil_of_right_ne_nil _ (hdone code hresult hneeds)

theorem sqlExecute_recorded (h : stmt.sqlExecute ctx = .ok out) : StmtOut.Recorded out := by
  obtain ⟨done, hdone, rfl⟩ := map_eq_ok.mp h
  exact executed_recorded (Query.execute_recorded hdone)

theorem fails_recorded {failure : ArgumentFailure} (h : stmt.fails failure = .ok out) :
    StmtOut.Recorded out := by
  cases failure with
  | nullText => cases h
  | thrown e =>
    obtain rfl := Except.ok.inj h
    exact recorded_exn _
  | refused e =>
    obtain rfl := Except.ok.inj h
    exact recorded_raises _ _ _

theorem sqlPrepare_recorded {statementText : SqlText}
    (h : stmt.sqlPrepare ctx statementText = .ok out) : StmtOut.Recorded out := by
  unfold sqlPrepare at h
  split at h
  · exact fails_recorded h
  obtain ⟨created, -, rfl⟩ := map_eq_ok.mp h
  split
  · exact recorded_success
  · exact recorded_raises _ _ _
  · exact recorded_raises _ _ _
  · exact recorded_exn _

theorem sqlExecDirect_recorded {statementText : SqlText}
    (h : stmt.sqlExecDirect ctx statementText = .ok out) : StmtOut.Recorded out := by
  simp only [sqlExecDirect, bind_eq_ok] at h
  obtain ⟨prepared, hprepared, h⟩ := h
  split at h
  · exact sqlExecute_recorded h
  · obtain rfl := Except.ok.inj h
    exact sqlPrepare_recorded hprepared

theorem runCatalog_recorded {kind : QueryKind} {caught : Exn → Option Error}
    (h : stmt.runCatalog ctx kind caught = .ok out) : StmtOut.Recorded out := by
  simp only [runCatalog, bind_eq_ok] at h
  obtain ⟨prepared, -, h⟩ := h
  split at h
  · obtain rfl := Except.ok.inj h
    exact executed_recorded (recorded_exn _)
  · obtain ⟨done, hdone, h⟩ := bind_eq_ok.mp h
    obtain rfl := Except.ok.inj h
    exact executed_recorded (Query.execute_recorded hdone)

theorem catalog_recorded {c : StmtCall} {arguments : Except ArgumentFailure QueryKind}
    (hc : c.catalogArguments = some arguments) (h : stmt.uncaught ctx c = .ok out) :
    StmtOut.Recorded out := by
  obtain ⟨caught, hcall⟩ := uncaught_catalog hc
  rw [hcall] at h
  cases arguments with
  | error failure => exact fails_recorded h
  | ok kind => exact runCatalog_recorded h

theorem keepsOption_recorded (stmt : RetsSTMT) (unchanged : Bool) :
    StmtOut.Recorded (stmt.keepsOption unchanged) := by
  cases unchanged with
  | true => exact recorded_success
  | false => exact recorded_raises _ _ _

theorem sqlSetStmtAttr_recorded (stmt : RetsSTMT) (attr : Int) (value : Nat) :
    StmtOut.Recorded (stmt.sqlSetStmtAttr attr value) := by
  unfold sqlSetStmtAttr
  dsimp only
  split <;> first
    | exact keepsOption_recorded _ _
    | exact recorded_success
    | exact recorded_raises _ _ _

theorem sqlGetStmtAttr_recorded {attr : Int} {p p' : Ptr}
    (h : stmt.sqlGetStmtAttr ctx attr p p' = .ok out) : StmtOut.Recorded out := by
  unfold sqlGetStmtAttr at h
  dsimp only at h
  split at h
  case h_12 =>
    obtain rfl := Except.ok.inj h
    exact recorded_raises _ _ _
  all_goals
    split_ifs at h
    obtain rfl := Except.ok.inj h
    exact recorded_success

theorem sqlFreeStmt_result {option : Nat} (h : stmt.sqlFreeStmt option = .ok out) :
    out.result = .ok .success := by
  unfold sqlFreeStmt at h
  split_ifs at h
  · obtain ⟨rs, -, rfl⟩ := map_eq_ok.mp h
    rfl
  · obtain rfl := Except.ok.inj h
    rfl

/-- **Every implemented call that fails names its reason**, `SQLBindCol` without a target apart. -/
theorem uncaught_recorded {c : StmtCall} (hcounts : (StmtEntry.call c).counts = true)
    (hbind : ∀ n b, c = .bindCol n b → b.targetValue ≠ 0) (h : stmt.uncaught ctx c = .ok out) :
    StmtOut.Recorded out := by
  cases c with
  | bindCol n b => exact sqlBindCol_recorded (hbind n b rfl) h
  | describeCol n a => exact sqlDescribeCol_recorded h
  | numResultCols p => exact sqlNumResultCols_recorded h
  | fetch => exact sqlFetch_recorded h
  | fetchScroll orientation => exact sqlFetchScroll_recorded h
  | extendedFetch p p' => exact sqlExtendedFetch_recorded h
  | getData n b => exact sqlGetData_recorded h
  | rowCount p => exact sqlRowCount_recorded h
  | colAttribute n f a => exact sqlColAttribute_recorded h
  | freeStmt option =>
    unfold StmtOut.Recorded
    rw [sqlFreeStmt_result h]
    exact recorded_success
  | getDiagField r f a => cases hcounts
  | getDiagRec r a => cases hcounts
  | error a => cases hcounts
  | prepare text => exact sqlPrepare_recorded h
  | execDirect text => exact sqlExecDirect_recorded h
  | execute => exact sqlExecute_recorded h
  | tables catalog schema table type => exact catalog_recorded rfl h
  | columns catalog table column => exact catalog_recorded rfl h
  | getTypeInfo dataType => exact catalog_recorded rfl h
  | specialColumns identifierType catalog table scope nullable => exact catalog_recorded rfl h
  | statistics catalog schema => exact catalog_recorded rfl h
  | primaryKeys catalog schema table => exact catalog_recorded rfl h
  | setStmtAttr attr value =>
    obtain rfl := Except.ok.inj h
    exact sqlSetStmtAttr_recorded _ _ _
  | getStmtAttr attr p p' => exact sqlGetStmtAttr_recorded h
  | paramOptions crow pirow =>
    obtain rfl := Except.ok.inj h
    unfold sqlParamOptions
    dsimp only
    split_ifs
    · exact sqlSetStmtAttr_recorded _ _ _
    · exact sqlSetStmtAttr_recorded _ _ _
  | setDescField desc r f value => cases hcounts
  | numParams p =>
    simp only [uncaught, sqlNumParams] at h
    split_ifs at h
    obtain rfl := Except.ok.inj h
    exact recorded_success
  | moreResults =>
    obtain rfl := Except.ok.inj h
    exact recorded_noData
  | cancel =>
    obtain rfl := Except.ok.inj h
    exact recorded_success

end RetsSTMT

/-! ## Connections and environments -/

namespace RetsDBC

variable {dbc : RetsDBC}

theorem sqlConnect_recorded (build : Build) (ini : Ini) (answer : ServerAnswer) (dataSource : Str)
    (userName authentication : Option Str) (dbc : RetsDBC) :
    Recorded (dbc.sqlConnect build ini answer dataSource userName authentication).result
      (dbc.sqlConnect build ini answer dataSource userName authentication).dbc.mErrors := by
  unfold sqlConnect
  dsimp only
  split_ifs
  · exact recorded_append _ _
  split
  · exact recorded_exn _
  · exact recorded_append _ _
  · exact recorded_success

theorem sqlDriverConnect_recorded (build : Build) (ini : Ini) (answer : ServerAnswer) (s : Str)
    (args : DriverConnectArgs) (dbc : RetsDBC) :
    Recorded (dbc.sqlDriverConnect build ini answer s args).result
      (dbc.sqlDriverConnect build ini answer s args).dbc.mErrors := by
  unfold sqlDriverConnect
  dsimp only
  split
  · exact recorded_noData
  split
  · exact recorded_exn _
  · exact recorded_append _ _
  · split_ifs
    · exact recorded_append _ _
    · exact recorded_exn _
    · exact recorded_success

theorem sqlDisconnect_recorded (answer : ServerAnswer) (dbc : RetsDBC) :
    Recorded (dbc.sqlDisconnect answer).result (dbc.sqlDisconnect answer).dbc.mErrors := by
  unfold sqlDisconnect
  dsimp only
  split_ifs
  · exact recorded_success
  · exact recorded_append _ _
  · split
    · exact recorded_exn _
    · exact recorded_success

theorem setString_recorded (length : Int → CValue) (a : InfoArgs) (value : Str) :
    Recorded (dbc.setString length a value).result (dbc.setString length a value).dbc.mErrors := by
  unfold setString
  dsimp only
  split_ifs <;> first
    | exact recorded_append _ _
    | exact recorded_success

/-- `SQLGetInfo` with a type that it knows; another one fails silently. -/
theorem sqlGetInfo_recorded {texts : InfoTexts} {infoType : Nat} {a : InfoArgs}
    (h : (infoValue texts dbc.mDataSource infoType).isSome = true) :
    Recorded (dbc.sqlGetInfo texts infoType a).result (dbc.sqlGetInfo texts infoType a).dbc.mErrors := by
  have hknown : infoValue texts dbc.clearErrors.mDataSource infoType ≠ none :=
    Option.isSome_iff_ne_none.mp h
  unfold sqlGetInfo
  dsimp only
  split
  · exact recorded_success
  · exact recorded_success
  · exact setString_recorded _ _ _
  · exact absurd ‹_› hknown

theorem sqlGetConnectAttr_recorded {attr : Int} {a : InfoArgs} {out : DbcOut}
    (h : dbc.sqlGetConnectAttr attr a = .ok out) : Recorded out.result out.dbc.mErrors := by
  unfold sqlGetConnectAttr at h
  dsimp only at h
  split at h
  · obtain rfl := Except.ok.inj h
    exact recorded_success
  · split_ifs at h
    obtain rfl := Except.ok.inj h
    exact recorded_success
  · split_ifs at h
    obtain rfl := Except.ok.inj h
    exact recorded_success
  · obtain rfl := Except.ok.inj h
    exact recorded_append _ _

end RetsDBC

/-- A failed allocation names its reason. -/
theorem allocate_recorded (allocated : Except Str Ptr) (handle : Ptr) (children : List Ptr)
    (h : (allocate allocated handle children).result.needsRecord = true) :
    (allocate allocated handle children).mErrors ≠ [] := by
  unfold allocate at h ⊢
  split_ifs at h ⊢
  · cases h
  · rcases allocated with what | child
    · exact List.cons_ne_nil _ _
    · cases h

/-! ## The calls that fail silently -/

/-- The environment call leaves a record when it fails: its attribute is known, and where the
function raises none there is one of an earlier call. -/
def EnvCall.Diagnosable (c : EnvCall) (env : RetsENV) : Prop :=
  match c with
  | .getEnvAttr attr _ => attr = 201 ∨ attr = 200 ∨ attr = 10001
  | .setEnvAttr attr value => attr = 200 ∨ attr = 10001 ∧ toSqlInteger value = 1
  | .freeEnv | .allocUnsupported _ | .freeUnsupported _ => env.mErrors ≠ []
  | _ => True

/-- The same for a connection call. -/
def DbcCall.Diagnosable (ctx : DbcContext) (c : DbcCall) (dbc : RetsDBC) : Prop :=
  match c with
  | .getInfo infoType _ => (RetsDBC.infoValue ctx.texts dbc.mDataSource infoType).isSome = true
  | .freeConnect | .transact | .allocUnsupported _ | .freeUnsupported _ => dbc.mErrors ≠ []
  | _ => True

/-- The same for a statement call. -/
def StmtEntry.Diagnosable (c : StmtEntry) (stmt : RetsSTMT) : Prop :=
  match c with
  | .call (.bindCol _ b) => b.targetValue ≠ 0
  | .allocUnsupported _ | .freeUnsupported _ => stmt.mErrors ≠ []
  | _ => True

namespace HandleKind

open RetsSTMT (idleContext)

/-- If the call fails or succeeds with info, the handle has a record afterwards. -/
def Diagnosed (h : HandleKind) (c : h.Call) (s : h.State) : Prop :=
  ∀ s' code, h.call c s = .ok (s', code) → code.needsRecord = true → h.mErrors s' ≠ []

/-- The condition for the classes of handles that have calls of their own that fail silently. -/
def Diagnosable : (h : HandleKind) → h.Call → h.State → Prop
  | env, c, s => EnvCall.Diagnosable c s
  | dbc, c, s => DbcCall.Diagnosable c.1 c.2 s
  | stmt, c, s => StmtEntry.Diagnosable c.2 s
  | desc, _, _ => True

/-- Every call of the sequence that counts can be diagnosed. -/
def FailuresDiagnosed (h : HandleKind) (calls : List h.Call) (s : h.State) : Prop :=
  Meets h.step (fun c s => h.Counts c s → h.Diagnosed c s) calls s

/-! ## One call -/

/-- A call with a known outcome. -/
theorem diagnosed_iff_of_call {h : HandleKind} {c : h.Call} {s s' : h.State} {code : SqlReturn}
    (hcall : h.call c s = .ok (s', code)) :
    h.Diagnosed c s ↔ (code.needsRecord = true → h.mErrors s' ≠ []) := by
  constructor
  · exact fun hd => hd s' code hcall
  · intro hd s₁ code₁ hcall₁
    rw [hcall] at hcall₁
    obtain ⟨rfl, rfl⟩ := Prod.mk.inj (Except.ok.inj hcall₁)
    exact hd

/-- A call that fails and leaves no record. -/
theorem not_diagnosed_of_cleared {h : HandleKind} {c : h.Call} {s s' : h.State}
    (hcall : h.call c s = .ok (s', .error)) (hnil : h.mErrors s' = []) : ¬ h.Diagnosed c s :=
  fun hd => hd s' .error hcall rfl hnil

/-- A call that fails and touches no records. -/
theorem diagnosed_iff_of_silent {h : HandleKind} {c : h.Call} {s : h.State}
    (hcall : h.call c s = .ok (s, .error)) : h.Diagnosed c s ↔ h.mErrors s ≠ [] :=
  (diagnosed_iff_of_call hcall).trans (forall_prop_of_true rfl)

theorem getEnvAttr_diagnosed_iff (attr : Int) (value : Ptr) (s : RetsENV) :
    env.Diagnosed (EnvCall.getEnvAttr attr value) s ↔ attr = 201 ∨ attr = 200 ∨ attr = 10001 := by
  by_cases hattr : attr = 201 ∨ attr = 200 ∨ attr = 10001
  · refine iff_of_true (fun s' code hcall hneeds => ?_) hattr
    -- a known attribute is stored and the call succeeds
    obtain ⟨r, hr, heq⟩ := map_eq_ok.mp hcall
    have hsuccess : r.result = .success := by
      rcases hattr with rfl | rfl | rfl
      all_goals
        simp only [RetsENV.call, RetsENV.sqlGetEnvAttr] at hr
        split_ifs at hr
        obtain rfl := Except.ok.inj hr
        rfl
    obtain rfl : r.result = code := congrArg Prod.snd heq
    rw [hsuccess] at hneeds
    cases hneeds
  · have hunknown : RetsENV.call (.getEnvAttr attr value) s = .ok (s.clearErrors.returns .error) := by
      show s.sqlGetEnvAttr attr value = _
      unfold RetsENV.sqlGetEnvAttr
      dsimp only
      split
      · exact absurd (.inl rfl) hattr
      · exact absurd (.inr (.inl rfl)) hattr
      · exact absurd (.inr (.inr rfl)) hattr
      · rfl
    refine iff_of_false (not_diagnosed_of_cleared ?_ (show s.clearErrors.mErrors = [] from rfl)) hattr
    show (RetsENV.call (.getEnvAttr attr value) s).map _ = _
    rw [hunknown]
    rfl

theorem setEnvAttr_diagnosed_iff (attr : Int) (value : Nat) (s : RetsENV) :
    env.Diagnosed (EnvCall.setEnvAttr attr value) s ↔
      attr = 200 ∨ attr = 10001 ∧ toSqlInteger value = 1 := by
  refine (diagnosed_iff_of_call rfl).trans ?_
  show ((s.sqlSetEnvAttr attr value).result.needsRecord = true →
    (s.sqlSetEnvAttr attr value).env.mErrors ≠ []) ↔ _
  unfold RetsENV.sqlSetEnvAttr
  dsimp only
  split
  · exact iff_of_true (fun h => (by cases h)) (.inl rfl)
  · by_cases hvalue : toSqlInteger value = 1
    · rw [if_pos hvalue]
      exact iff_of_true (fun h => (by cases h)) (.inr ⟨rfl, hvalue⟩)
    · rw [if_neg hvalue]
      exact iff_of_false (fun h => h rfl rfl) (by omega)
  · rename_i hversion hnts
    refine iff_of_false (fun h => h rfl rfl) ?_
    rintro (h | ⟨h, -⟩)
    · exact hversion h
    · exact hnts h

theorem env_diagnosed_iff {c : EnvCall} {s s' : RetsENV} {code : SqlReturn}
    (hcall : env.call c s = .ok (s', code)) (hcounts : c.counts s = true) :
    env.Diagnosed c s ↔ c.Diagnosable s := by
  cases c with
  | allocConnect connectionHandle allocated =>
    exact iff_of_true ((diagnosed_iff_of_call rfl).mpr (allocate_recorded _ _ _)) trivial
  | allocUnsupported handleType => exact diagnosed_iff_of_silent rfl
  | getEnvAttr attr value => exact getEnvAttr_diagnosed_iff attr value s
  | setEnvAttr attr value => exact setEnvAttr_diagnosed_iff attr value s
  | freeEnv =>
    have hfree : s.canBeFreed = false := by simpa [EnvCall.counts] using hcounts
    refine diagnosed_iff_of_silent ?_
    show (Except.ok (s, if s.canBeFreed then SqlReturn.success else .error) :
      Except Fault (RetsENV × SqlReturn)) = _
    rw [hfree]
    rfl
  | freeUnsupported handleType => exact diagnosed_iff_of_silent rfl
  | freeConnect dbc canBeFreed => cases hcounts
  | stub f =>
    refine iff_of_true ((diagnosed_iff_of_call rfl).mpr fun _ => ?_) trivial
    cases f <;> exact List.append_ne_nil_of_right_ne_nil _ (List.cons_ne_nil _ _)
  | getDiagField r i a => cases hcounts
  | getDiagRec r a => cases hcounts
  | error a => cases hcounts

/-- A call through the wrapper that records the exceptions. -/
theorem diagnosed_of_recorded {h : HandleKind} {c : h.Call} {s : h.State}
    (hcall : ∀ s' code, h.call c s = .ok (s', code) → ∃ result es, Recorded result es ∧
      code = (odbcEntry es result).1 ∧ h.mErrors s' = (odbcEntry es result).2) :
    h.Diagnosed c s := by
  intro s' code hs hneeds
  obtain ⟨result, es, hrecorded, rfl, hes⟩ := hcall s' code hs
  rw [hes]
  exact hrecorded.odbcEntry hneeds

theorem getInfo_diagnosed_iff (ctx : DbcContext) (infoType : Nat) (a : RetsDBC.InfoArgs)
    (s : RetsDBC) :
    dbc.Diagnosed (ctx, DbcCall.getInfo infoType a) s ↔
      (RetsDBC.infoValue ctx.texts s.mDataSource infoType).isSome = true := by
  by_cases hknown : (RetsDBC.infoValue ctx.texts s.mDataSource infoType).isSome = true
  · refine iff_of_true (diagnosed_of_recorded fun s' code hs => ?_) hknown
    obtain ⟨rfl, rfl⟩ := Prod.mk.inj (Except.ok.inj hs)
    exact ⟨_, _, RetsDBC.sqlGetInfo_recorded hknown, rfl, rfl⟩
  · have hnone : RetsDBC.infoValue ctx.texts s.clearErrors.mDataSource infoType = none :=
      Option.not_isSome_iff_eq_none.mp hknown
    have hout : s.sqlGetInfo ctx.texts infoType a =
        { dbc := s.clearErrors, result := .ok .error } := by
      unfold RetsDBC.sqlGetInfo
      dsimp only
      rw [hnone]
    refine iff_of_false (not_diagnosed_of_cleared ?_ (show s.clearErrors.mErrors = [] from rfl))
      hknown
    show (Except.ok ((RetsDBC.entered (s.sqlGetInfo ctx.texts infoType a)).dbc,
      (RetsDBC.entered (s.sqlGetInfo ctx.texts infoType a)).result) :
        Except Fault (RetsDBC × SqlReturn)) = _
    rw [hout]
    rfl

theorem dbc_diagnosed_iff {p : DbcContext × DbcCall} {s : RetsDBC}
    (hcounts : p.2.counts s = true) : dbc.Diagnosed p s ↔ p.2.Diagnosable p.1 s := by
  obtain ⟨ctx, c⟩ := p
  cases c with
  | session c =>
    refine iff_of_true (diagnosed_of_recorded fun s' code hs => ?_) trivial
    obtain ⟨rfl, rfl⟩ := Prod.mk.inj (Except.ok.inj hs)
    refine ⟨_, _, ?_, rfl, rfl⟩
    cases c with
    | connect dataSource userName authentication => exact RetsDBC.sqlConnect_recorded _ _ _ _ _ _ _
    | driverConnect s args => exact RetsDBC.sqlDriverConnect_recorded _ _ _ _ _ _
    | disconnect => exact RetsDBC.sqlDisconnect_recorded _ _
  | allocStmt statementHandle allocated =>
    exact iff_of_true ((diagnosed_iff_of_call rfl).mpr (allocate_recorded _ _ _)) trivial
  | allocUnsupported handleType => exact diagnosed_iff_of_silent rfl
  | getInfo infoType a => exact getInfo_diagnosed_iff ctx infoType a s
  | getConnectAttr attr a =>
    refine iff_of_true (diagnosed_of_recorded fun s' code hs => ?_) trivial
    obtain ⟨r, hr, heq⟩ := map_eq_ok.mp hs
    obtain ⟨out, hout, rfl⟩ := map_eq_ok.mp hr
    obtain ⟨rfl, rfl⟩ := Prod.mk.inj heq
    exact ⟨_, _, RetsDBC.sqlGetConnectAttr_recorded hout, rfl, rfl⟩
  | freeConnect =>
    have hfree : s.canBeFreed = false := by simpa [DbcCall.counts] using hcounts
    refine diagnosed_iff_of_silent ?_
    show (Except.ok (s, if s.canBeFreed then SqlReturn.success else .error) :
      Except Fault (RetsDBC × SqlReturn)) = _
    rw [hfree]
    rfl
  | freeUnsupported handleType => exact diagnosed_iff_of_silent rfl
  | freeStmt stmt option => cases hcounts
  | transact => exact diagnosed_iff_of_silent rfl
  | stub f =>
    refine iff_of_true ((diagnosed_iff_of_call rfl).mpr fun hneeds => ?_) trivial
    cases f with
    | setConnectAttr => cases hneeds
    | setConnectOption => cases hneeds
    | _ => exact List.append_ne_nil_of_right_ne_nil _ (List.cons_ne_nil _ _)
  | getDiagField r i a => cases hcounts
  | getDiagRec r a => cases hcounts
  | error a => cases hcounts

/-- An implemented call that names its reason when it fails. -/
theorem call_diagnosed {ctx : CallContext} {c : StmtCall} {s : RetsSTMT}
    (hcounts : (StmtEntry.call c).counts = true)
    (hbind : ∀ n b, c = .bindCol n b → b.targetValue ≠ 0) :
    stmt.Diagnosed (ctx, .call c) s := by
  intro s' code hs hneeds
  obtain ⟨r, hr, heq⟩ := map_eq_ok.mp hs
  obtain ⟨out, hout, rfl⟩ := map_eq_ok.mp hr
  obtain ⟨rfl, rfl⟩ := Prod.mk.inj heq
  have hrecorded := RetsSTMT.uncaught_recorded hcounts hbind hout
  show RetsSTMT.mErrors _ ≠ []
  dsimp only at hneeds ⊢
  split_ifs with hentry
  · exact hrecorded.odbcEntry hneeds
  · -- of the calls that count only `SQLFreeStmt` has a wrapper that records nothing
    cases c with
    | freeStmt option =>
      rw [RetsSTMT.sqlFreeStmt_result hout] at hneeds
      cases hneeds
    | getDiagField r f a => cases hcounts
    | getDiagRec r a => cases hcounts
    | error a => cases hcounts
    | setDescField desc r f value => cases hcounts
    | _ => exact absurd rfl hentry

theorem stmt_diagnosed_iff {p : CallContext × StmtEntry} {s s' : RetsSTMT} {code : SqlReturn}
    (hcall : stmt.call p s = .ok (s', code)) (hcounts : p.2.counts = true) :
    stmt.Diagnosed p s ↔ p.2.Diagnosable s := by
  obtain ⟨ctx, c | f | handleType | handleType⟩ := p
  · by_cases hbind : ∃ n b, c = .bindCol n b
    · obtain ⟨n, b, rfl⟩ := hbind
      by_cases hb : b.targetValue = 0
      · refine iff_of_false ?_ (not_not.mpr hb)
        obtain ⟨r, hr, heq⟩ := map_eq_ok.mp hcall
        obtain ⟨out, hout, rfl⟩ := map_eq_ok.mp hr
        obtain ⟨herror, hnil⟩ := RetsSTMT.sqlBindCol_silent hb hout
        dsimp only at heq
        rw [herror] at heq
        obtain ⟨rfl, rfl⟩ := Prod.mk.inj heq
        exact not_diagnosed_of_cleared hcall hnil
      · refine iff_of_true (call_diagnosed hcounts ?_) hb
        rintro n' b' heq
        cases heq
        exact hb
    · have hother : ∀ n b, c = .bindCol n b → b.targetValue ≠ 0 :=
        fun n b heq => absurd ⟨n, b, heq⟩ hbind
      refine iff_of_true (call_diagnosed hcounts hother) ?_
      cases c with
      | bindCol n b => exact absurd ⟨n, b, rfl⟩ hbind
      | _ => trivial
  · refine iff_of_true ((diagnosed_iff_of_call rfl).mpr fun _ => ?_) trivial
    cases f <;> exact List.append_ne_nil_of_right_ne_nil _ (List.cons_ne_nil _ _)
  · exact diagnosed_iff_of_silent rfl
  · exact diagnosed_iff_of_silent rfl

/-! ## Runs -/

/-- **Every failure can be diagnosed** exactly as long as no call of the sequence is one that fails
silently: for environments, connections and statements and every sequence of calls that goes
through. -/
theorem failuresDiagnosed_iff {h : HandleKind} (hh : h ≠ desc) {calls : List h.Call}
    {s s' : h.State} (hrun : run h.step calls s = .ok s') :
    h.FailuresDiagnosed calls s ↔
      Meets h.step (fun c s => h.Counts c s → h.Diagnosable c s) calls s := by
  refine Meets.congr_of_run (fun c s s' hs => forall_congr' fun hcounts => ?_) hrun
  obtain ⟨⟨s₁, code⟩, hcall, -⟩ := map_eq_ok.mp hs
  cases h with
  | env => exact env_diagnosed_iff hcall hcounts
  | dbc => exact dbc_diagnosed_iff hcounts
  | stmt => exact stmt_diagnosed_iff hcall hcounts
  | desc => exact absurd rfl hh

/-- A null statement text is refused with a record. -/
theorem failuresDiagnosed_prepare :
    stmt.FailuresDiagnosed [(idleContext, .call (.prepare ⟨none, 0⟩))] stmt.new := by
  have hrun : run stmt.step [(idleContext, .call (.prepare ⟨none, 0⟩))] stmt.new = .ok _ := rfl
  exact (failuresDiagnosed_iff (by decide) hrun).mpr ⟨fun _ => trivial, fun _ _ => trivial⟩

/-- A column is bound without a target. -/
theorem not_failuresDiagnosed_bindCol :
    ¬ stmt.FailuresDiagnosed [(idleContext, .call (.bindCol 1 ⟨sqlChar, 0, 0, 0⟩))] stmt.new := by
  rintro ⟨h, -⟩
  exact h rfl _ .error rfl rfl rfl

end HandleKind

end EzRets
