import EzRets.Query

/-!
# EzRets.RetsSTMT — the statement handle

The functions of a statement, each with its arguments, the context of the call, the state that it
leaves, the stores that it makes and the return code or the exception that it ends with.  They are
those of a driver that keeps no debug log.
-/

namespace EzRets

open AbstractHandle

/-- `RetsSTMT`. -/
structure RetsSTMT where
  mErrors : List Error
  mQuery : Query
  mDataStreamInfo : DataStreamInfo
  apd : AppParamDesc
  ipd : ImpParamDesc
  ard : AppRowDesc
  ird : ImpRowDesc

/-- What a call reads besides the statement: the connection, the application's memory and the
addresses of the four descriptors. -/
structure CallContext where
  conn : Connection
  deref : Deref
  descriptor : DescriptorType → Ptr

/-- The outcome of a call. -/
structure StmtOut where
  stmt : RetsSTMT
  result : Except Exn SqlReturn
  writes : List Write

/-- A text argument: the bytes at the pointer, unless it is null, and the length, `SQL_NTS` or a
number of bytes. -/
structure SqlText where
  bytes : Option Str
  length : Int
  deriving DecidableEq, Repr

/-- `SQL_NTS`. -/
def sqlNts : Int := -3

/-- `std::length_error`. -/
def lengthError : Exn := .std "length error".toList

/-- `SqlCharToString` of the bytes at a pointer.  A negative length other than `SQL_NTS` is a `size_t`
that is too large for a string. -/
def sqlCharToString (bytes : Str) (length : Int) : Except Exn Str :=
  if length = sqlNts then .ok (cString bytes)
  else if length < 0 then .error lengthError
  else .ok (bytes.take length.toNat)

/-- Why a text argument comes to nothing. -/
inductive ArgumentFailure
  /-- The text at a null pointer is read. -/
  | nullText
  /-- An exception leaves the call. -/
  | thrown (e : Exn)
  /-- The call raises a record. -/
  | refused (e : Error)

/-- The text of an argument that is compared with null first. -/
def textOf (t : SqlText) : Except Exn Str :=
  match t.bytes with
  | some bytes => sqlCharToString bytes t.length
  | none => .ok []

namespace SqlText

/-- `SqlCharToString` looks at the bytes: a text that is empty or too long is made without them. -/
def ReadsBytes (t : SqlText) : Prop := t.length = sqlNts ∨ 0 < t.length

instance (t : SqlText) : Decidable t.ReadsBytes := inferInstanceAs (Decidable (_ ∨ _))

/-- `SqlCharToString` of an argument that is not compared with null. -/
def toStr (t : SqlText) : Except ArgumentFailure Str :=
  if t.bytes.isNone ∧ t.ReadsBytes then .error .nullText
  else (sqlCharToString (t.bytes.getD []) t.length).mapError .thrown

/-- `text != NULL && *text != '\0'`. -/
def startsNonNul (t : SqlText) : Bool := ((t.bytes.getD []).head?).getD '\x00' ≠ '\x00'

/-- A text that is made for the log, whether that is on or off. -/
def loggedText (t : SqlText) : Except ArgumentFailure Str :=
  if t.startsNonNul then (textOf t).mapError .thrown else .ok []

/-- The text of a statement. -/
def statement (t : SqlText) : Except ArgumentFailure Str :=
  if t.bytes.isNone then .error (.refused (.of "HY009" "Statement cannot be NULL"))
  else (textOf t).mapError .thrown

end SqlText

namespace RetsSTMT

/-- The constructor. -/
def new : RetsSTMT where
  mErrors := []
  mQuery := Query.new
  mDataStreamInfo := .reset
  apd := AppParamDesc.new
  ipd := ImpParamDesc.new
  ard := AppRowDesc.new
  ird := ImpRowDesc.new

def clearErrors (stmt : RetsSTMT) : RetsSTMT := { stmt with mErrors := [] }

def addError (stmt : RetsSTMT) (e : Error) : RetsSTMT :=
  { stmt with mErrors := stmt.mErrors ++ [e] }

def setQuery (stmt : RetsSTMT) (q : Query) : RetsSTMT := { stmt with mQuery := q }

def setResultSet (stmt : RetsSTMT) (rs : ResultSet) : RetsSTMT :=
  stmt.setQuery { stmt.mQuery with mResultSet := some rs }

/-- A dereference of `mQuery->getResultSet()`. -/
def resultSet (stmt : RetsSTMT) : Except Fault ResultSet :=
  match stmt.mQuery.mResultSet with
  | some rs => .ok rs
  | none => .error .nullResultSet

/-- A call that ends with `result` and stores nothing. -/
def returns (stmt : RetsSTMT) (result : SqlReturn) : StmtOut := ⟨stmt, .ok result, []⟩

/-- A call that raises a record and ends with `result`. -/
def raises (stmt : RetsSTMT) (e : Error) (result : SqlReturn) : StmtOut :=
  ⟨stmt.addError e, .ok result, []⟩

/-- A call that an exception leaves. -/
def throws (stmt : RetsSTMT) (e : Exn) : StmtOut := ⟨stmt, .error e, []⟩

/-- `ColumnNumber < 1 && ColumnNumber > resultSet->columnCount()`: the result set is read for
column 0 only, and no column number meets both conditions. -/
def isBadColumn (stmt : RetsSTMT) (columnNumber : Nat) : Except Fault Bool :=
  if columnNumber < 1 then
    stmt.resultSet.map fun rs => decide (columnNumber > rs.columnCount)
  else .ok false

/-! ## Binding and describing columns -/

def sqlBindCol (stmt : RetsSTMT) (columnNumber : Nat) (b : Binding) : Except Fault StmtOut := do
  let stmt := stmt.clearErrors
  if ← stmt.isBadColumn columnNumber then
    return stmt.raises (.of "07009" ("The value specified for the arguement ColumnNumber " ++
      "exceeded the maximum number of columns in the result set.")) .error
  else if b.targetValue = 0 then return stmt.returns .error
  else
    let rs ← stmt.resultSet
    match rs.bindColumn columnNumber b with
    | none => return stmt.throws .outOfRange
    | some rs => return (stmt.setResultSet rs).returns .success

/-- The output arguments of `SQLDescribeCol`. -/
structure DescribeColArgs where
  columnName : Ptr
  bufferLength : Int
  nameLength : Ptr
  dataType : Ptr
  columnSize : Ptr
  decimalDigits : Ptr
  nullable : Ptr
  deriving DecidableEq, Repr

/-- A store through a pointer that may be null. -/
def storeIf (p : Ptr) (value : CValue) : List Write := if p ≠ 0 then [⟨p, value⟩] else []

def sqlDescribeCol (stmt : RetsSTMT) (columnNumber : Nat) (a : DescribeColArgs) :
    Except Fault StmtOut := do
  let stmt := stmt.clearErrors
  if ← stmt.isBadColumn columnNumber then
    return stmt.raises (.of "07009" "Bad Column Number") .error
  else
    let rs ← stmt.resultSet
    match rs.getColumn columnNumber with
    | none => return stmt.throws .outOfRange
    | some column =>
      let copied := copyString column.mName a.columnName (toSize a.bufferLength)
      if a.nullable = 0 then .error .nullOutput
      else
        return ⟨stmt, .ok .success, copied.1 ++
          storeIf a.nameLength (.smallint (toSqlSmallint copied.2)) ++
          storeIf a.columnSize (.ulen (column.getColumnSize rs.mTranslator)) ++
          storeIf a.dataType (.smallint (column.getDataType rs.mTranslator)) ++
          storeIf a.decimalDigits (.smallint column.getDecimalDigits) ++
          [⟨a.nullable, .smallint 1⟩]⟩

def sqlNumResultCols (stmt : RetsSTMT) (columnCount : Ptr) : Except Fault StmtOut := do
  let stmt := stmt.clearErrors
  let rs ← stmt.resultSet
  if rs.columnCount < 2 ^ 15 then
    if columnCount = 0 then .error .nullOutput
    else return ⟨stmt, .ok .success, [⟨columnCount, .smallint rs.columnCount⟩]⟩
  else return stmt.throws .badNumericCast

/-- The output arguments of `SQLColAttribute`. -/
structure ColAttributeArgs where
  characterAttribute : Ptr
  bufferLength : Int
  stringLength : Ptr
  numericAttribute : Ptr
  deriving DecidableEq, Repr

/-- The value of a column attribute. -/
inductive ColAttribute
  | int (value : Int)
  | string (value : Str)
  | unsupported

/-- The value behind a field identifier of `SQLColAttribute`. -/
def colAttribute (conn : Connection) (rs : ResultSet) (column : Column) (fieldIdentifier : Nat) :
    ColAttribute :=
  let type := column.getDataType rs.mTranslator
  let dataTranslator := DataTranslator.factory conn.mDataSource
  match fieldIdentifier with
  | 11 | 12 | 9 => .int 0
  | 1 | 22 | 18 | 1011 => .string column.mName
  | 23 | 17 | 27 | 28 | 29 | 16 | 15 => .string []
  | 2 => .int type
  | 0 | 1001 => .int rs.columnCount
  | 6 => .int column.getMaximumLength
  | 3 | 1003 =>
    if type = sqlVarchar ∨ type = sqlChar ∨ type = sqlLongvarbinary then
      .int column.getMaximumLength
    else .int (dataTranslator.getOdbcTypeLength type)
  | 7 | 1008 => .int 1
  | 32 => .int (if type = sqlDecimal ∨ type = sqlDouble then 10 else 0)
  | 1013 =>
    -- the third type code is a length constant
    if type = sqlTypeDate ∨ type = sqlTypeTime ∨ type = sqlTimestampLen then
      .int (dataTranslator.getOdbcTypeLength type)
    else .int column.getMaximumLength
  | 4 | 1005 =>
    if type = sqlDecimal ∨ type = sqlDouble then .int (column.getPrecision rs.mTranslator)
    else .int (if type = sqlTypeTimestamp then 3 else 0)
  | 5 | 1006 => .int 0
  | 13 => .int (if column.isSearchable then 2 else 0)
  | 1002 => .int type
  | 14 => .string (dataTranslator.getOdbcTypeName type)
  | 1012 => .int 0
  | 8 => .int 0
  | 10 => .int 0
  | _ => .unsupported

/-- `ColAttributeHelper::setString`. -/
def setString (stmt : RetsSTMT) (a : ColAttributeArgs) (value : Str) : StmtOut :=
  let copied := copyString value a.characterAttribute (toSize a.bufferLength)
  if value.length > copied.2 then
    ⟨stmt.addError (.of "01004" "Resultant value larger than buffer passed in."),
      .ok .successWithInfo,
      copied.1 ++ storeIf a.stringLength (.smallint (toSqlSmallint value.length))⟩
  else
    ⟨stmt, .ok .success,
      copied.1 ++ storeIf a.stringLength (.smallint (toSqlSmallint copied.2))⟩

def sqlColAttribute (ctx : CallContext) (stmt : RetsSTMT) (columnNumber fieldIdentifier : Nat)
    (a : ColAttributeArgs) : Except Fault StmtOut :=
  let stmt := stmt.clearErrors
  match stmt.mQuery.mResultSet with
  | none => .ok (stmt.raises (.of "07005" "Statement did not return a result set.") .error)
  | some rs =>
    if columnNumber < 1 ∧ columnNumber > rs.columnCount then
      .ok (stmt.raises (.of "07009" "Bad Column Number") .error)
    else
      match rs.getColumn columnNumber with
      | none => .ok (stmt.throws .outOfRange)
      | some column =>
        match colAttribute ctx.conn rs column fieldIdentifier with
        | .unsupported => .ok (stmt.raises (.of "HYC00" "We don't support this.") .error)
        | .string value =>
          let out := stmt.setString a value
          -- the return code of `setString` is dropped for `SQL_DESC_TYPE_NAME`
          .ok (if fieldIdentifier = 14 then { out with result := .ok .success } else out)
        | .int value =>
          if a.numericAttribute = 0 then .error .nullOutput
          else .ok ⟨stmt, .ok .success, [⟨a.numericAttribute, .len (value.bmod (2 ^ 64))⟩]⟩

/-! ## Fetching -/

/-- `SQL_ROW_SUCCESS` and `SQL_ROW_ERROR`. -/
def sqlRowSuccess : Int := 0
def sqlRowError : Int := 5

/-- The record of the exceptions that `SQLFetch` catches. -/
def fetchError : Exn → Option Error
  | .missingTranslator what => some ⟨"HY000".toList, "Translator issue: ".toList ++ what⟩
  | .dateTimeFormat what => some ⟨"22007".toList, what⟩
  | .unknown => none
  | e => some ⟨"01S01".toList, "Error retrieving data: ".toList ++ e.what⟩

/-- `SQLFetch` once there is a row: the row is handed to the bound columns. -/
def fetchRow (ctx : CallContext) (stmt : RetsSTMT) (rs : ResultSet) : Except Fault StmtOut := do
  let stmt := { stmt with mDataStreamInfo := .reset }
  let out ← rs.processNextRow ctx.deref stmt.ard
  let stmt := stmt.setResultSet out.rs
  match out.thrown with
  | none =>
    return ⟨stmt, .ok .success, out.writes ++ storeIf stmt.ird.mRowsProcessedPtr (.uinteger 1) ++
      storeIf stmt.ird.mArrayStatusPtr (.smallint sqlRowSuccess)⟩
  | some e =>
    match fetchError e with
    | some record =>
      return ⟨stmt.addError record, .ok .error,
        out.writes ++ storeIf stmt.ird.mArrayStatusPtr (.smallint sqlRowError)⟩
    | none => return ⟨stmt, .error e, out.writes⟩

def sqlFetch (ctx : CallContext) (stmt : RetsSTMT) : Except Fault StmtOut := do
  let stmt := stmt.clearErrors
  let rs ← stmt.resultSet
  if rs.rows.isEmpty then return stmt.returns .noData
  else
    let next := rs.rows.hasNext
    let rs := { rs with rows := next.2 }
    match next.1 with
    | .error e => return (stmt.setResultSet rs).throws e
    | .ok false => return (stmt.setResultSet rs).returns .noData
    | .ok true => fetchRow ctx stmt rs

def sqlExtendedFetch (ctx : CallContext) (stmt : RetsSTMT) (pcrow rgfRowStatus : Ptr) :
    Except Fault StmtOut := do
  let out ← stmt.clearErrors.sqlFetch ctx
  match out.result with
  | .error _ => return out
  | .ok result =>
    if pcrow = 0 ∨ rgfRowStatus = 0 then .error .nullOutput
    else
      return { out with
        writes := out.writes ++ [⟨pcrow, .ulen (if result ≠ .error then 1 else 0)⟩,
          ⟨rgfRowStatus, .usmallint (result.code % 2 ^ 16).toNat⟩] }

/-- `SQLFetchScroll`; `SQL_FETCH_NEXT` is 1. -/
def sqlFetchScroll (ctx : CallContext) (stmt : RetsSTMT) (fetchOrientation : Int) :
    Except Fault StmtOut :=
  let stmt := stmt.clearErrors
  if fetchOrientation ≠ 1 then .ok (stmt.raises (.of "HY106" "Fetch type out of range") .error)
  else stmt.sqlFetch ctx

/-- The record and the return code of the exceptions that `SQLGetData` catches. -/
def getDataError : Exn → Option (Error × SqlReturn)
  | .missingTranslator what =>
    some (⟨"01000".toList, "Translator issue:".toList ++ what⟩, .successWithInfo)
  | .dateTimeFormat what => some (⟨"22007".toList, what⟩, .error)
  | .unknown => none
  | e => some (⟨"HY000".toList, "Error getting data: ".toList ++ e.what⟩, .error)

/-- The streaming state that `SQLGetData` works with: another column starts afresh. -/
def streamFor (stmt : RetsSTMT) (columnNumber : Nat) : DataStreamInfo :=
  if stmt.mDataStreamInfo.column ≠ columnNumber then
    { DataStreamInfo.reset with column := columnNumber }
  else stmt.mDataStreamInfo

def sqlGetData (ctx : CallContext) (stmt : RetsSTMT) (columnNumber : Nat) (b : Binding) :
    Except Fault StmtOut := do
  let stmt := stmt.clearErrors
  if ← stmt.isBadColumn columnNumber then
    return stmt.raises (.of "07009" "Bad Column Number") .error
  else
    let stmt := { stmt with mDataStreamInfo := stmt.streamFor columnNumber }
    if stmt.mDataStreamInfo.status = .noMoreData then return stmt.returns .noData
    else
      let rs ← stmt.resultSet
      let out ← rs.getData ctx.deref stmt.ard columnNumber b stmt.mDataStreamInfo
      let info := out.streamInfo.getD stmt.mDataStreamInfo
      let stmt := { stmt with mDataStreamInfo := info }
      match out.thrown with
      | some e =>
        match getDataError e with
        | some (record, result) => return ⟨stmt.addError record, .ok result, out.writes⟩
        | none => return ⟨stmt, .error e, out.writes⟩
      | none =>
        if info.status = .hasMoreData then
          return ⟨stmt.addError (.of "01004" "Data truncated"), .ok .successWithInfo, out.writes⟩
        else return ⟨stmt, .ok .success, out.writes⟩

def sqlRowCount (stmt : RetsSTMT) (rowCount : Ptr) : Except Fault StmtOut := do
  let stmt := stmt.clearErrors
  let rs ← stmt.resultSet
  if rowCount = 0 then .error .nullOutput
  else return ⟨stmt, .ok .success, [⟨rowCount, .len (toSqlInteger rs.rows.rowCount)⟩]⟩

/-! ## Preparing and executing -/

/-- A call whose arguments come to nothing. -/
def fails (stmt : RetsSTMT) : ArgumentFailure → Except Fault StmtOut
  | .nullText => .error .nullText
  | .thrown e => .ok (stmt.throws e)
  | .refused e => .ok (stmt.raises e .error)

/-- The query of a statement is created, with the catch clauses of `SQLPrepare`. -/
def prepareStatement (ctx : CallContext) (stmt : RetsSTMT) (statement : Str) :
    Except Fault StmtOut :=
  (Query.createSqlQuery ctx.conn statement).map fun
    | .ok q => (stmt.setQuery q).returns .success
    | .error (.retsSql what) =>
      stmt.raises ⟨"42000".toList, "SQL Syntax error: ".toList ++ what⟩ .error
    | .error (.sqlState sqlstate what) => stmt.raises ⟨sqlstate, what⟩ .error
    | .error e => stmt.throws e

def sqlPrepare (ctx : CallContext) (stmt : RetsSTMT) (statementText : SqlText) :
    Except Fault StmtOut :=
  match statementText.statement with
  | .error failure => stmt.clearErrors.fails failure
  | .ok statement => stmt.clearErrors.prepareStatement ctx statement

/-- The record of the exceptions that `SQLExecute` catches: those of the driver and of librets. -/
def executeError : Exn → Option Error
  | .sqlState sqlstate what => some ⟨sqlstate, what⟩
  | .missingTranslator what | .dateTimeFormat what | .dataTranslation what | .getObject what
  | .odbcSql _ what | .ezRets what | .retsSql what | .rets what => some ⟨"42000".toList, what⟩
  | _ => none

/-- A call after the query was executed: its records are added and its exceptions are caught as
`caught` says. -/
def executed (stmt : RetsSTMT) (out : Query.Executed) (caught : Exn → Option Error) : StmtOut :=
  let stmt := { stmt.setQuery out.query with mErrors := stmt.mErrors ++ out.errors }
  match out.result with
  | .ok result => stmt.returns result
  | .error e =>
    match caught e with
    | some record => stmt.raises record .error
    | none => stmt.throws e

def sqlExecute (ctx : CallContext) (stmt : RetsSTMT) : Except Fault StmtOut :=
  let stmt := stmt.clearErrors
  (stmt.mQuery.execute ctx.conn).map fun out => stmt.executed out executeError

def sqlExecDirect (ctx : CallContext) (stmt : RetsSTMT) (statementText : SqlText) :
    Except Fault StmtOut := do
  let out ← stmt.clearErrors.sqlPrepare ctx statementText
  match out.result with
  | .ok .success => out.stmt.sqlExecute ctx
  | _ => return out

/-! ## Catalog functions -/

/-- The catch clause of `SQLTables` and `SQLColumns`. -/
def catalogError : Exn → Option Error
  | .unknown => none
  | e => some ⟨"01000".toList, e.what⟩

/-- A new query is installed, prepared and executed. -/
def runCatalog (ctx : CallContext) (stmt : RetsSTMT) (kind : QueryKind)
    (caught : Exn → Option Error) : Except Fault StmtOut := do
  match ← Query.prepareResultSet ctx.conn kind with
  | .error e => return stmt.executed ⟨⟨kind, none⟩, [], .error e⟩ caught
  | .ok rs =>
    let out ← Query.execute ctx.conn ⟨kind, some rs⟩
    return stmt.executed out caught

/-- A catalog function, which reads its arguments before it installs their query. -/
def runArguments (ctx : CallContext) (stmt : RetsSTMT) (arguments : Except ArgumentFailure QueryKind)
    (caught : Exn → Option Error) : Except Fault StmtOut :=
  match arguments with
  | .error failure => stmt.fails failure
  | .ok kind => stmt.runCatalog ctx kind caught

/-- The arguments of `SQLTables`. -/
def tablesArguments (catalogName schemaName tableName tableType : SqlText) :
    Except ArgumentFailure QueryKind := do
  let catalog ← (textOf catalogName).mapError .thrown
  let schema ← (textOf schemaName).mapError .thrown
  let table ← (textOf tableName).mapError .thrown
  let type ← (textOf tableType).mapError .thrown
  return .ofTables catalog schema table type

def sqlTables (ctx : CallContext) (stmt : RetsSTMT)
    (catalogName schemaName tableName tableType : SqlText) : Except Fault StmtOut :=
  stmt.clearErrors.runArguments ctx (tablesArguments catalogName schemaName tableName tableType)
    catalogError

def catalogRefused : ArgumentFailure :=
  .refused (.of "HYC00" "catalogs not supported in this driver")

/-- A catalog that is not empty is refused, once its text has been made for the log. -/
def refuseCatalog (catalogName : SqlText) : Except ArgumentFailure Unit := do
  if catalogName.startsNonNul then
    let _ ← (textOf catalogName).mapError .thrown
    throw catalogRefused

/-- The arguments of `SQLColumns`. -/
def columnsArguments (catalogName tableName columnName : SqlText) :
    Except ArgumentFailure QueryKind := do
  refuseCatalog catalogName
  let table ← (textOf tableName).mapError .thrown
  let column ← (textOf columnName).mapError .thrown
  return .ofColumns table column

def sqlColumns (ctx : CallContext) (stmt : RetsSTMT)
    (catalogName tableName columnName : SqlText) : Except Fault StmtOut :=
  stmt.clearErrors.runArguments ctx (columnsArguments catalogName tableName columnName) catalogError

def sqlGetTypeInfo (ctx : CallContext) (stmt : RetsSTMT) (dataType : Int) :
    Except Fault StmtOut :=
  stmt.clearErrors.runCatalog ctx (.typeInfo dataType) fun _ => none

/-- The arguments of `SQLSpecialColumns`, whose table name is not compared with null. -/
def specialColumnsArguments (identifierType : Nat) (catalogName tableName : SqlText)
    (scope nullable : Nat) : Except ArgumentFailure QueryKind := do
  refuseCatalog catalogName
  let table ← tableName.toStr
  return .specialColumns identifierType table scope nullable

def sqlSpecialColumns (ctx : CallContext) (stmt : RetsSTMT) (identifierType : Nat)
    (catalogName tableName : SqlText) (scope nullable : Nat) : Except Fault StmtOut :=
  stmt.clearErrors.runArguments ctx
    (specialColumnsArguments identifierType catalogName tableName scope nullable) fun _ => none

/-- A pattern argument of `SQLStatistics`: everything, or nothing. -/
def refuseRestricted (name : SqlText) (failure : ArgumentFailure) :
    Except ArgumentFailure Unit := do
  let pattern ← (textOf name).mapError .thrown
  if pattern ≠ TableMetadataQuery.all ∧ !pattern.isEmpty then throw failure

/-- The arguments of `SQLStatistics`. -/
def statisticsArguments (catalogName schemaName : SqlText) : Except ArgumentFailure QueryKind := do
  refuseRestricted catalogName catalogRefused
  refuseRestricted schemaName (.refused (.of "HYC00" "schemas not supported in this driver"))
  return .statistics

def sqlStatistics (ctx : CallContext) (stmt : RetsSTMT) (catalogName schemaName : SqlText) :
    Except Fault StmtOut :=
  stmt.clearErrors.runArguments ctx (statisticsArguments catalogName schemaName) fun _ => none

/-- The arguments of `SQLPrimaryKeys`, whose table name is not compared with null. -/
def primaryKeysArguments (catalogName schemaName tableName : SqlText) :
    Except ArgumentFailure QueryKind := do
  refuseCatalog catalogName
  let _ ← schemaName.loggedText
  let table ← tableName.toStr
  return .primaryKeys table

def sqlPrimaryKeys (ctx : CallContext) (stmt : RetsSTMT)
    (catalogName schemaName tableName : SqlText) : Except Fault StmtOut :=
  stmt.clearErrors.runArguments ctx (primaryKeysArguments catalogName schemaName tableName)
    fun _ => none

/-! ## Attributes, options and diagnostics -/

/-- An option that only takes the value that it has. -/
def keepsOption (stmt : RetsSTMT) (unchanged : Bool) : StmtOut :=
  if unchanged then stmt.returns .success
  else stmt.raises (.of "01S02" "Option Value Changed") .successWithInfo

/-- `SQLSetStmtAttr`; `value` is the pointer-sized argument. -/
def sqlSetStmtAttr (stmt : RetsSTMT) (attr : Int) (value : Nat) : StmtOut :=
  let stmt := stmt.clearErrors
  let uinteger := value % 2 ^ 32
  match attr with
  | 0 => stmt.keepsOption (uinteger = 0)
  | 1226 | 1227 | 1228 => stmt.returns .success
  | 27 | 9 => stmt.keepsOption (uinteger = stmt.ard.mArraySize)
  | 5 => { stmt with ard := { stmt.ard with mBindType := uinteger } }.returns .success
  -- `SQL_ATTR_PARAMSET_SIZE` is stored in the row descriptor
  | 22 => { stmt with ard := { stmt.ard with mArraySize := uinteger } }.returns .success
  | 21 => { stmt with ipd := { stmt.ipd with mRowProcessedPtr := value } }.returns .success
  | 3 => stmt.keepsOption (uinteger = 0)
  | 18 => { stmt with apd := { stmt.apd with mBindType := uinteger } }.returns .success
  | 23 => { stmt with ard := { stmt.ard with mBindOffsetPtr := value } }.returns .success
  | 4 => stmt.raises (.of "HYC00" "Optional feature not implemented.") .error
  | 6 => stmt.keepsOption (uinteger = 0)
  | 11 => stmt.keepsOption (uinteger = 1)
  | 17 => { stmt with apd := { stmt.apd with mBindOffsetPtr := value } }.returns .success
  | 7 => stmt.keepsOption (uinteger = 1)
  | 26 => { stmt with ird := { stmt.ird with mRowsProcessedPtr := value } }.returns .success
  | 25 => { stmt with ird := { stmt.ird with mArrayStatusPtr := value } }.returns .success
  | _ => stmt.raises (.of "HY092" "Invalid attribute/option identifier.") .error

/-- `SQLGetStmtAttr`: a value and its kind, `SQL_IS_POINTER` or `SQL_IS_UINTEGER`. -/
def sqlGetStmtAttr (ctx : CallContext) (stmt : RetsSTMT) (attr : Int)
    (value stringLength : Ptr) : Except Fault StmtOut :=
  let stmt := stmt.clearErrors
  let stored (v : CValue) (kind : Int) : Except Fault StmtOut :=
    if value = 0 then .error .nullOutput
    else .ok ⟨stmt, .ok .success, ⟨value, v⟩ :: storeIf stringLength (.integer kind)⟩
  match attr with
  | 10010 => stored (.pointer (ctx.descriptor .ard)) (-4)
  | 10011 => stored (.pointer (ctx.descriptor .apd)) (-4)
  | 10012 => stored (.pointer (ctx.descriptor .ird)) (-4)
  | 10013 => stored (.pointer (ctx.descriptor .ipd)) (-4)
  | 0 => stored (.uinteger 0) (-5)
  | 27 | 9 => stored (.uinteger stmt.ard.mArraySize) (-5)
  | 3 => stored (.uinteger 0) (-5)
  | 6 => stored (.uinteger 0) (-5)
  | 11 => stored (.uinteger 1) (-5)
  | 7 => stored (.uinteger 1) (-5)
  | _ => .ok (stmt.raises (.of "HYC00" "Optional feature not implemented") .error)

/-- `SQLParamOptions`: two attributes are set. -/
def sqlParamOptions (stmt : RetsSTMT) (crow : Nat) (pirow : Ptr) : StmtOut :=
  let out := stmt.sqlSetStmtAttr 22 crow
  if out.result matches .ok .error then out else out.stmt.sqlSetStmtAttr 21 pirow

def sqlNumParams (stmt : RetsSTMT) (pcpar : Ptr) : Except Fault StmtOut :=
  if pcpar = 0 then .error .nullOutput
  else .ok ⟨stmt.clearErrors, .ok .success, [⟨pcpar, .smallint 0⟩]⟩

/-- `SQL_UNBIND`. -/
def sqlUnbind : Nat := 2

/-- `RetsDBC::SQLFreeStmt`, which clears the records of the connection, not of the statement.
`SQL_DROP` ends the life of the handle and is no step of it. -/
def sqlFreeStmt (stmt : RetsSTMT) (option : Nat) : Except Fault StmtOut :=
  if option = sqlUnbind then
    stmt.resultSet.map fun rs => (stmt.setResultSet rs.unbindColumns).returns .success
  else .ok (stmt.returns .success)

/-- `SQLSetDescField` on a descriptor of the statement. -/
def sqlSetDescField (stmt : RetsSTMT) (desc : DescriptorType) (recNumber fieldIdentifier : Int)
    (value : Ptr) : StmtOut :=
  match desc with
  | .apd =>
    let out := stmt.apd.toBaseDesc.sqlSetDescField recNumber fieldIdentifier value
    { stmt with apd := { stmt.apd with toBaseDesc := out.1 } }.returns out.2
  | .ipd =>
    let out := stmt.ipd.toBaseDesc.sqlSetDescField recNumber fieldIdentifier value
    { stmt with ipd := { stmt.ipd with toBaseDesc := out.1 } }.returns out.2
  | .ard =>
    let out := stmt.ard.toBaseDesc.sqlSetDescField recNumber fieldIdentifier value
    { stmt with ard := { stmt.ard with toBaseDesc := out.1 } }.returns out.2
  | .ird =>
    let out := stmt.ird.toBaseDesc.sqlSetDescField recNumber fieldIdentifier value
    { stmt with ird := { stmt.ird with toBaseDesc := out.1 } }.returns out.2

/-- The `diag` methods of a statement; the names are those of the connection. -/
def diagMethods (ctx : CallContext) (stmt : RetsSTMT) : DiagMethods where
  cursorRowCount a := do
    let rs ← stmt.resultSet
    diagInteger a (toSqlInteger rs.rows.rowCount) .success
  dynamicFunction a := diagTextOptional a []
  -- `SQL_DIAG_UNKNOWN_STATEMENT`
  dynamicFunctionCode a := diagInteger a 0 .success
  rowCount a := diagInteger a 0 .error
  connectionName a := diagTextOptional a (ctx.conn.mDataSource.str .name)
  -- `SQL_ROW_NUMBER_UNKNOWN`
  rowNumber a := diagInteger a (-2) .success
  serverName a := diagTextOptional a (ctx.conn.mDataSource.str .loginUrl)

end RetsSTMT

end EzRets
