import EzRets.Lib.FaultRun
import EzRets.RetsSTMT

/-!
# EzRets.StatementCalls — the calls on a statement and their runs

All entry points of a statement handle as one type of calls, what one call does, and what a
sequence of calls does.  Undefined behaviour ends a sequence.
-/

namespace EzRets

open AbstractHandle

/-- The calls on a statement handle. -/
inductive StmtCall
  | bindCol (columnNumber : Nat) (b : Binding)
  | describeCol (columnNumber : Nat) (a : RetsSTMT.DescribeColArgs)
  | numResultCols (columnCount : Ptr)
  | fetch
  | fetchScroll (fetchOrientation : Int)
  | extendedFetch (pcrow rgfRowStatus : Ptr)
  | getData (columnNumber : Nat) (b : Binding)
  | rowCount (rowCount : Ptr)
  | colAttribute (columnNumber fieldIdentifier : Nat) (a : RetsSTMT.ColAttributeArgs)
  | freeStmt (option : Nat)
  | getDiagField (recNumber diagIdentifier : Int) (a : DiagFieldArgs)
  | getDiagRec (recNumber : Int) (a : DiagArgs)
  | error (a : DiagArgs)
  | prepare (statementText : SqlText)
  | execDirect (statementText : SqlText)
  | execute
  | tables (catalogName schemaName tableName tableType : SqlText)
  | columns (catalogName tableName columnName : SqlText)
  | getTypeInfo (dataType : Int)
  | specialColumns (identifierType : Nat) (catalogName tableName : SqlText)
      (scope nullable : Nat)
  | statistics (catalogName schemaName : SqlText)
  | primaryKeys (catalogName schemaName tableName : SqlText)
  | setStmtAttr (attr : Int) (value : Nat)
  | getStmtAttr (attr : Int) (value stringLength : Ptr)
  | paramOptions (crow : Nat) (pirow : Ptr)
  | setDescField (desc : DescriptorType) (recNumber fieldIdentifier : Int) (value : Ptr)
  | numParams (pcpar : Ptr)
  | moreResults
  | cancel
  deriving DecidableEq, Repr

/-- What a catalog call makes of its arguments. -/
def StmtCall.catalogArguments : StmtCall → Option (Except ArgumentFailure QueryKind)
  | .tables catalogName schemaName tableName tableType =>
    some (RetsSTMT.tablesArguments catalogName schemaName tableName tableType)
  | .columns catalogName tableName columnName =>
    some (RetsSTMT.columnsArguments catalogName tableName columnName)
  | .getTypeInfo dataType => some (.ok (.typeInfo dataType))
  | .specialColumns identifierType catalogName tableName scope nullable =>
    some (RetsSTMT.specialColumnsArguments identifierType catalogName tableName scope nullable)
  | .statistics catalogName schemaName =>
    some (RetsSTMT.statisticsArguments catalogName schemaName)
  | .primaryKeys catalogName schemaName tableName =>
    some (RetsSTMT.primaryKeysArguments catalogName schemaName tableName)
  | _ => none

/-- The call installs a new query: a text that compiles and prepares, or a catalog call that can
read its arguments and refuses none. -/
def StmtCall.installs (ctx : CallContext) : StmtCall → Bool
  | .prepare statementText | .execDirect statementText =>
    match statementText.statement with
    | .error _ => false
    | .ok statement => (Query.createSqlQuery ctx.conn statement matches .ok (.ok _))
  | c => c.catalogArguments matches some (.ok _)

namespace RetsSTMT

/-- An answer that leaves the statement as it is. -/
def answers (stmt : RetsSTMT) (a : Answer) : StmtOut := ⟨stmt, a.result, a.writes⟩

/-- `UncaughtOdbcEntry` of a call. -/
def uncaught (ctx : CallContext) (stmt : RetsSTMT) : StmtCall → Except Fault StmtOut
  | .bindCol columnNumber b => stmt.sqlBindCol columnNumber b
  | .describeCol columnNumber a => stmt.sqlDescribeCol columnNumber a
  | .numResultCols columnCount => stmt.sqlNumResultCols columnCount
  | .fetch => stmt.sqlFetch ctx
  | .fetchScroll fetchOrientation => stmt.sqlFetchScroll ctx fetchOrientation
  | .extendedFetch pcrow rgfRowStatus => stmt.sqlExtendedFetch ctx pcrow rgfRowStatus
  | .getData columnNumber b => stmt.sqlGetData ctx columnNumber b
  | .rowCount rowCount => stmt.sqlRowCount rowCount
  | .colAttribute columnNumber fieldIdentifier a =>
    stmt.sqlColAttribute ctx columnNumber fieldIdentifier a
  | .freeStmt option => stmt.sqlFreeStmt option
  | .getDiagField recNumber diagIdentifier a =>
    (sqlGetDiagField (stmt.diagMethods ctx) stmt.mErrors recNumber diagIdentifier a).map
      stmt.answers
  | .getDiagRec recNumber a =>
    (sqlGetDiagRec stmt.mErrors recNumber a).map fun out => ⟨stmt, .ok out.1, out.2⟩
  | .error a =>
    (sqlError stmt.mErrors a).map fun out =>
      ⟨{ stmt with mErrors := out.2 }, .ok out.1.1, out.1.2⟩
  | .prepare statementText => stmt.sqlPrepare ctx statementText
  | .execDirect statementText => stmt.sqlExecDirect ctx statementText
  | .execute => stmt.sqlExecute ctx
  | .tables catalogName schemaName tableName tableType =>
    stmt.sqlTables ctx catalogName schemaName tableName tableType
  | .columns catalogName tableName columnName =>
    stmt.sqlColumns ctx catalogName tableName columnName
  | .getTypeInfo dataType => stmt.sqlGetTypeInfo ctx dataType
  | .specialColumns identifierType catalogName tableName scope nullable =>
    stmt.sqlSpecialColumns ctx identifierType catalogName tableName scope nullable
  | .statistics catalogName schemaName => stmt.sqlStatistics ctx catalogName schemaName
  | .primaryKeys catalogName schemaName tableName =>
    stmt.sqlPrimaryKeys ctx catalogName schemaName tableName
  | .setStmtAttr attr value => .ok (stmt.sqlSetStmtAttr attr value)
  | .getStmtAttr attr value stringLength => stmt.sqlGetStmtAttr ctx attr value stringLength
  | .paramOptions crow pirow => .ok (stmt.sqlParamOptions crow pirow)
  | .setDescField desc recNumber fieldIdentifier value =>
    .ok (stmt.sqlSetDescField desc recNumber fieldIdentifier value)
  | .numParams pcpar => stmt.sqlNumParams pcpar
  | .moreResults => .ok (stmt.returns .noData)
  | .cancel => .ok (stmt.returns .success)

/-- The calls whose entry point is no `StmtOdbcEntry`: their exceptions are not recorded. -/
def entryRecords : StmtCall → Bool
  | .freeStmt _ | .getDiagField _ _ _ | .getDiagRec _ _ | .error _ | .setDescField _ _ _ _ => false
  | _ => true

/-- The outcome of a call as the application sees it. -/
structure Returned where
  stmt : RetsSTMT
  result : SqlReturn
  writes : List Write

/-- A call through its entry wrapper. -/
def call (ctx : CallContext) (stmt : RetsSTMT) (c : StmtCall) : Except Fault Returned :=
  (stmt.uncaught ctx c).map fun out =>
    let entry := odbcEntry out.stmt.mErrors out.result
    ⟨if entryRecords c then { out.stmt with mErrors := entry.2 } else out.stmt, entry.1, out.writes⟩

/-- The statement after a call. -/
def step (p : CallContext × StmtCall) (stmt : RetsSTMT) : Except Fault RetsSTMT :=
  (stmt.call p.1 p.2).map Returned.stmt

/-- The statement after a sequence of calls, each with its own context. -/
def run : List (CallContext × StmtCall) → RetsSTMT → Except Fault RetsSTMT := FaultRun.run step

/-- A call as the application sees it. -/
def answer (p : CallContext × StmtCall) (stmt : RetsSTMT) :
    Except Fault (RetsSTMT × (SqlReturn × List Write)) :=
  (stmt.call p.1 p.2).map fun returned => (returned.stmt, returned.result, returned.writes)

end RetsSTMT

end EzRets
