import EzRets.Session

/-!
# EzRets.BulkQueries — the rows of the queries that answer at once

For each query with a `BulkResultSet`: its columns and what one `execute` adds to them.  The row
loops are given as the list of the rows in the order of the `addRow` calls.
-/

namespace EzRets

open FaultRun

/-- What one `execute` does: the rows that it adds, the records and the return code. -/
structure Execution where
  rows : List (List Str)
  errors : List Error
  result : Except Exn SqlReturn

/-- An execution that adds rows and succeeds. -/
def Execution.success (rows : List (List Str)) : Execution := ⟨rows, [], .ok .success⟩

/-- The record of a search without a criterion. -/
def noCriterionError : Error :=
  .of "01000" "RETS queries require a WHERE clause.  Returning empty result set."

/-- The exception for a class, lookup or resource that the metadata lacks. -/
def invalidName (what : String) : Exn :=
  .sqlState "42S02".toList ("Miscellaneous Search Error: ".toList ++ what.toList)

/-- A search is sent when there is a criterion or the server accepts `Query=*`. -/
def searches (conn : Connection) (q : DmqlQuery) : Bool :=
  q.getCriterion.isSome || conn.mDataSource.bool .supportsQueryStar

/-! ## `DataCountQuery` -/

namespace DataCountQuery

def columns : List Column := [.faux "count(*)" sqlInteger]

/-- The sanity check of `prepareResultSet`. -/
def check (conn : Connection) (q : DmqlQuery) : Except Fault (Option Exn) := do
  let v ← conn.metadata
  match v.getClass q.getResource q.getClass with
  | some _ => return none
  | none => return some (invalidName "Invalid Resource or Class name")

def searchRequest (conn : Connection) (q : DmqlQuery) : SearchRequest where
  resource := q.getResource
  clazz := q.getClass
  query := q.getCriterion.getD "*".toList
  countOnly := true
  select := none
  limit := none
  offset := none
  standardNames := conn.mDataSource.bool .standardNames

def execute (conn : Connection) (q : DmqlQuery) : Except Fault Execution :=
  if searches conn q then do
    let session ← conn.session
    match session.search (searchRequest conn q) with
    | .error e => return ⟨[], [], .error e⟩
    | .ok results => return .success [[intText results.getCount]]
  else .ok ⟨[], [noCriterionError], .ok .successWithInfo⟩

end DataCountQuery

/-! ## `EzLookupQuery` -/

namespace EzLookupQuery

def columns : List Column :=
  [.faux "value" sqlVarchar, .faux "short_value" sqlVarchar, .faux "long_value" sqlVarchar]

def check (conn : Connection) (q : LookupQuery) : Except Fault (Option Exn) := do
  let v ← conn.metadata
  match ← v.getLookup q.getResource q.getLookup with
  | some _ => return none
  | none => return some (invalidName "Invalid Resource or Lookup name")

def execute (conn : Connection) (q : LookupQuery) : Except Fault Execution := do
  let v ← conn.metadata
  let ltlist ← v.getLookupTypes q.getResource q.getLookup
  return .success (ltlist.map fun lt => [lt.value, lt.shortValue, lt.longValue])

end EzLookupQuery

/-! ## `EzLookupColumnsQuery` -/

namespace EzLookupColumnsQuery

def columns : List Column := [.faux "column" sqlVarchar, .faux "lookup" sqlVarchar]

def check (conn : Connection) (q : LookupColumnsQuery) : Except Fault (Option Exn) := do
  let v ← conn.metadata
  match v.getClass q.getResource q.getClass with
  | some _ => return none
  | none => return some (invalidName "Invalid Resource or Class name")

def execute (conn : Connection) (q : LookupColumnsQuery) : Except Fault Execution := do
  let v ← conn.metadata
  match v.getClass q.getResource q.getClass with
  | none => .error .nullClass
  | some clazz =>
    return .success (((v.getTablesForClass clazz).filter MetadataView.isLookupColumn).map
      fun table => [conn.tableName table, table.lookupName])

end EzLookupColumnsQuery

/-! ## `TableMetadataQuery` -/

namespace TableMetadataQuery

def columns : List Column :=
  [.faux "TABLE_CAT" sqlVarchar, .faux "TABLE_SCHEM" sqlVarchar, .faux "TABLE_NAME" sqlVarchar,
    .faux "TABLE_TYPE" sqlVarchar, .faux "REMARKS" sqlVarchar]

/-- The `"%"` that stands for all catalogs, schemas, table types, tables and columns. -/
def all : Str := "%".toList

/-- `icontains`. -/
def icontains (s what : Str) : Bool :=
  (s.map Char.toUpper).tails.any (what.map Char.toUpper).isPrefixOf

/-- The table names and descriptions that are listed. -/
def tables (conn : Connection) (v : MetadataView) (mTable : Str) :
    Except Fault (List (Str × Str)) :=
  if mTable.isEmpty then
    if conn.mDataSource.bool .disableGetObjectMetadata then .ok v.getSQLDataTableMetadata
    else .ok (v.getSQLDataTableMetadata ++ v.getSQLObjectTableMetadata)
  else if mTable.take 5 = "data:".toList then .ok (v.getSQLDataTableMetadataOf mTable)
  else v.getSQLObjectTableMetadataOf mTable

def execute (conn : Connection) (mCatalog mSchema mTable mTableType : Str) :
    Except Fault Execution :=
  if (mCatalog = all ∧ mSchema = [] ∧ mTable = []) ∨
      (mCatalog = [] ∧ mSchema = all ∧ mTable = []) then
    .ok (.success [[[], [], [], [], []]])
  else if mCatalog = [] ∧ mSchema = [] ∧ mTable = [] ∧ mTableType = all then
    .ok (.success [[[], [], [], "TABLE".toList, []]])
  else if !mTableType.isEmpty && !icontains mTableType "TABLE".toList then .ok (.success [])
  else do
    let session ← conn.session
    if !mCatalog.isEmpty && mCatalog ≠ session.getLoginUrl then return .success []
    else if !mSchema.isEmpty then return .success []
    else if '%' ∈ mTable then
      return ⟨[], [.of "HYC00" "Search patterns for table names not (yet) supported"],
        .ok .error⟩
    else do
      let v ← conn.metadata
      let myTables ← tables conn v mTable
      return .success (myTables.map fun t => [[], [], t.1, "TABLE".toList, t.2])

/-- An execution returns rows of five texts, or refuses a pattern. -/
theorem execute_cases {conn : Connection} {mCatalog mSchema mTable mTableType : Str}
    {out : Execution} (h : execute conn mCatalog mSchema mTable mTableType = .ok out) :
    (∃ rows, out = .success rows ∧ ∀ row ∈ rows, ∃ a b c d e, row = [a, b, c, d, e]) ∨
      ∃ e, out = ⟨[], [e], .ok .error⟩ := by
  have hone : ∀ d : Str, ∀ row ∈ [[[], [], [], d, []]], ∃ a b c d e : Str, row = [a, b, c, d, e] :=
    fun d row hrow => ⟨[], [], [], d, [], List.mem_singleton.mp hrow⟩
  have hnone : ∀ row ∈ ([] : List (List Str)), ∃ a b c d e, row = [a, b, c, d, e] :=
    fun _ hrow => absurd hrow List.not_mem_nil
  unfold execute at h
  split at h
  · exact .inl ⟨_, (Except.ok.inj h).symm, hone _⟩
  split at h
  · exact .inl ⟨_, (Except.ok.inj h).symm, hone _⟩
  split at h
  · exact .inl ⟨_, (Except.ok.inj h).symm, hnone⟩
  obtain ⟨session, -, h⟩ := bind_eq_ok.mp h
  split_ifs at h
  · exact .inl ⟨_, (Except.ok.inj h).symm, hnone⟩
  · exact .inl ⟨_, (Except.ok.inj h).symm, hnone⟩
  · exact .inr ⟨_, (Except.ok.inj h).symm⟩
  obtain ⟨v, -, h⟩ := bind_eq_ok.mp h
  obtain ⟨myTables, -, h⟩ := bind_eq_ok.mp h
  refine .inl ⟨_, (Except.ok.inj h).symm, fun row hrow => ?_⟩
  obtain ⟨t, -, rfl⟩ := List.mem_map.mp hrow
  exact ⟨[], [], t.1, "TABLE".toList, t.2, rfl⟩

end TableMetadataQuery

/-! ## `ColumnMetadataQuery` -/

namespace ColumnMetadataQuery

def columns : List Column :=
  [.faux "TABLE_CAT" sqlVarchar, .faux "TABLE_SCHEM" sqlVarchar, .faux "TABLE_NAME" sqlVarchar,
    .faux "COLUMN_NAME" sqlVarchar, .faux "DATA_TYPE" sqlSmallint, .faux "TYPE_NAME" sqlVarchar,
    .faux "COLUMN_SIZE" sqlInteger, .faux "BUFFER_LENGTH" sqlInteger,
    .faux "DECIMAL_DIGITS" sqlSmallint, .faux "NUM_PREC_RADIX" sqlSmallint,
    .faux "NULLABLE" sqlSmallint, .faux "REMARKS" sqlVarchar, .faux "COLUMN_DEF" sqlVarchar,
    .faux "SQL_DATA_TYPE" sqlSmallint, .faux "SQL_DATETIME_SUB" sqlSmallint,
    .faux "CHAR_OCTET_LENGTH" sqlInteger, .faux "ORDINAL_POSITION" sqlInteger,
    .faux "IS_NULLABLE" sqlVarchar]

/-- `TableNameSorter`, as the `≤` of the sort; the order of equal names is left open by
`std::sort` and kept here. -/
def tableNameLe (conn : Connection) (left right : MetadataTable) : Bool :=
  !decide ((conn.tableName right).map Char.toUpper < (conn.tableName left).map Char.toUpper)

/-- The row of a column. -/
def row (conn : Connection) (v : MetadataView) (sqlTableName colName : Str)
    (rTable : MetadataTable) : List Str :=
  let dt := DataTranslator.factory conn.mDataSource
  let dummyCol : Column :=
    ⟨colName, .rets v rTable (conn.mDataSource.bool .useCompactFormat), none⟩
  let type := dummyCol.getDataType dt
  let typeString := intText type
  let maxLenString := intText (toSqlInteger dummyCol.getMaximumLength)
  [[], [], sqlTableName, colName, typeString, dt.getOdbcTypeName type, maxLenString,
    if type = sqlVarchar ∨ type = sqlChar then maxLenString
    else intText (dt.getOdbcTypeLength type),
    intText (dummyCol.getPrecision dt),
    if type = sqlDecimal ∨ type = sqlDouble then "10".toList else [],
    "1".toList, rTable.longName, [],
    -- the third type code is a length constant
    if type = sqlTypeDate ∨ type = sqlTypeTime ∨ type = sqlTimestampLen then intText sqlDatetime
    else typeString,
    [],
    if type = sqlChar then intText dummyCol.getMaximumLength else [],
    "1".toList, "YES".toList]

/-- `processColumn`: the row that it adds, if any. -/
def processColumn (conn : Connection) (v : MetadataView) (res : MetadataResource)
    (clazz : MetadataClass) (rTable : Option MetadataTable) : Except Fault (List (List Str)) :=
  let sqlTableName := v.makeSQLDataTableName res clazz
  if sqlTableName.isEmpty then .ok []
  else
    match rTable with
    | none => .error .nullTable
    | some rTable =>
      if conn.mDataSource.bool .standardNames && rTable.standardName.isEmpty then .ok []
      else .ok [row conn v sqlTableName (conn.tableName rTable) rTable]

/-- The body of the loop over the classes. -/
def processClass (conn : Connection) (v : MetadataView) (mColumn : Str)
    (rcp : MetadataResource × MetadataClass) : Except Fault (List (List Str)) :=
  if mColumn.isEmpty then do
    let tables := (v.getTablesForClass rcp.2).mergeSort (tableNameLe conn)
    let rows ← tables.mapM fun rTable => processColumn conn v rcp.1 rcp.2 (some rTable)
    return rows.flatten
  else processColumn conn v rcp.1 rcp.2 (v.getTable rcp.2 mColumn)

/-- The classes that are listed; object tables are not. -/
def resourceClassPairs (v : MetadataView) (mTable : Str) :
    List (MetadataResource × MetadataClass) :=
  if mTable.isEmpty then v.getResourceClassPairs
  else if mTable.take 5 = "data:".toList then (v.getResourceClassPairBySQLTable mTable).toList
  else []

def execute (conn : Connection) (mTable mColumn : Str) : Except Fault Execution :=
  if '%' ∈ mTable then
    .ok ⟨[], [.of "HYC00" "Search pattern for table names not (yet) supported"], .ok .error⟩
  else if '%' ∈ mColumn then
    .ok ⟨[], [.of "HYC00" "Search pattern for column names not (yet) supported"], .ok .error⟩
  else do
    let v ← conn.metadata
    let rows ← (resourceClassPairs v mTable).mapM (processClass conn v mColumn)
    return .success rows.flatten

end ColumnMetadataQuery

/-! ## `TypeInfoMetadataQuery` -/

namespace TypeInfoMetadataQuery

def columns : List Column :=
  [.faux "TYPE_NAME" sqlVarchar, .faux "DATA_TYPE" sqlSmallint, .faux "COLUMN_SIZE" sqlInteger,
    .faux "LITERAL_PREFIX" sqlVarchar, .faux "LITERAL_SUFFIX" sqlVarchar,
    .faux "CREATE_PARAMS" sqlVarchar, .faux "NULLABLE" sqlSmallint,
    .faux "CASE_SENSITIVE" sqlSmallint, .faux "SEARCHABLE" sqlSmallint,
    .faux "UNSIGNED_ATTRIBUTE" sqlSmallint, .faux "FIXED_PREC_SCALE" sqlSmallint,
    .faux "AUTO_UNIQUE_VALUE" sqlSmallint, .faux "LOCAL_TYPE_NAME" sqlVarchar,
    .faux "MINIMUM_SCALE" sqlSmallint, .faux "MAXIMUM_SCALE" sqlSmallint,
    .faux "SQL_DATA_TYPE" sqlSmallint, .faux "SQL_DATETIME_SUB" sqlSmallint,
    .faux "NUM_PREC_RADIX" sqlInteger, .faux "INTERVAL_PRECISION" sqlSmallint]

/-- `getSQLGetTypeInfoRow`. -/
def typeInfoRow (dtype : Int) (percRadix unsignedAtt litprefix litsuffix : String) : List Str :=
  let dt := DataTranslator.default
  let isDateTime := dtype = sqlTypeDate ∨ dtype = sqlTypeTime ∨ dtype = sqlTypeTimestamp
  [dt.getOdbcTypeName dtype, intText dtype,
    if dtype = sqlChar ∨ dtype = sqlVarchar then "16384".toList
    else intText (dt.getOdbcTypeLength dtype),
    litprefix.toList, litsuffix.toList, [], "1".toList, "0".toList, "3".toList,
    unsignedAtt.toList, "0".toList, [], [], [], [],
    if isDateTime then intText sqlDatetime else intText dtype,
    if isDateTime then intText dtype else [],
    percRadix.toList, []]

/-- The rows of all types, in order, with their type codes. -/
def allRows : List (Int × List Str) :=
  [(sqlBit, typeInfoRow sqlBit "2" "" "" ""),
    (sqlTinyint, typeInfoRow sqlTinyint "2" "0" "" ""),
    (sqlBigint, typeInfoRow sqlBigint "2" "0" "" ""),
    (sqlChar, typeInfoRow sqlChar "10" "" "'" "'"),
    (sqlDecimal, typeInfoRow sqlDecimal "2" "0" "" ""),
    (sqlInteger, typeInfoRow sqlInteger "2" "0" "" ""),
    (sqlSmallint, typeInfoRow sqlSmallint "2" "0" "" ""),
    (sqlDouble, typeInfoRow sqlDouble "2" "0" "" ""),
    (sqlVarchar, typeInfoRow sqlVarchar "10" "" "'" "'"),
    (sqlTypeDate, typeInfoRow sqlTypeDate "2" "" "" ""),
    (sqlTypeTime, typeInfoRow sqlTypeTime "2" "" "" ""),
    (sqlTypeTimestamp, typeInfoRow sqlTypeTimestamp "2" "" "" "")]

/-- `execute`; `SQL_ALL_TYPES` is 0.  The check for an empty result set looks at all rows that the
result set holds, `stored` of them from earlier. -/
def execute (mDataType : Int) (stored : Nat) : Execution :=
  let rows := (allRows.filter fun row => mDataType = 0 ∨ mDataType = row.1).map Prod.snd
  if stored + rows.length = 0 then
    ⟨[], [.of "01000" "ezRETS does not support this SQL data type."], .ok .successWithInfo⟩
  else .success rows

end TypeInfoMetadataQuery

/-! ## `SpecialColumnsMetadataQuery` and `PrimaryKeysMetadataQuery` -/

/-- The key column of a data table. -/
def keyTable (v : MetadataView) (mTable : Str) : Option MetadataTable :=
  (v.getResourceClassPairBySQLTable mTable).bind fun rcp =>
    v.getKeyFieldTable rcp.2 rcp.1.keyField

namespace SpecialColumnsMetadataQuery

def columns : List Column :=
  [.faux "SCOPE" sqlSmallint, .faux "COLUMN_NAME" sqlVarchar, .faux "DATA_TYPE" sqlSmallint,
    .faux "TYPE_NAME" sqlVarchar, .faux "COLUMN_SIZE" sqlInteger,
    .faux "BUFFER_LENGTH" sqlInteger, .faux "DECIMAL_DIGITS" sqlSmallint,
    .faux "PSEUDO_COLUMN" sqlSmallint]

def row (conn : Connection) (rTable : MetadataTable) : List Str :=
  let dt := DataTranslator.factory conn.mDataSource
  let type := dt.getPreferedOdbcType rTable.dataType
  let maxLenString := intText rTable.maximumLength
  ["0".toList, conn.tableName rTable, intText type, dt.getOdbcTypeName type, maxLenString,
    if type = sqlVarchar ∨ type = sqlChar then maxLenString
    else intText (dt.getOdbcTypeLength type),
    if type = sqlDecimal ∨ type = sqlDouble then intText rTable.precision
    else if type = sqlTypeTimestamp then "3".toList
    else [],
    "0".toList]

/-- `execute`; `SQL_NO_NULLS` and `SQL_SCOPE_CURROW` are 0 and `SQL_ROWVER` is 2. -/
def execute (conn : Connection) (mIdentifierType : Nat) (mTable : Str) (mScope mNullable : Nat) :
    Except Fault Execution :=
  if mNullable = 0 then .ok (.success [])
  else if mScope > 0 then .ok (.success [])
  else if mIdentifierType = 2 then .ok (.success [])
  else do
    let v ← conn.metadata
    return .success ((keyTable v mTable).toList.map (row conn))

end SpecialColumnsMetadataQuery

namespace PrimaryKeysMetadataQuery

def columns : List Column :=
  [.faux "TABLE_CAT" sqlVarchar, .faux "TABLE_SCHEM" sqlVarchar, .faux "TABLE_NAME" sqlVarchar,
    .faux "COLUMN_NAME" sqlVarchar, .faux "KEY_SEQ" sqlSmallint, .faux "PK_NAME" sqlVarchar]

def execute (conn : Connection) (mTable : Str) : Except Fault Execution := do
  let v ← conn.metadata
  return .success ((keyTable v mTable).toList.map fun rTable =>
    [[], [], mTable, conn.tableName rTable, "1".toList, []])

end PrimaryKeysMetadataQuery

/-! ## `StatisticsMetadataQuery` -/

namespace StatisticsMetadataQuery

def columns : List Column :=
  [.faux "TABLE_CAT" sqlVarchar, .faux "TABLE_SCHEM" sqlVarchar, .faux "TABLE_NAME" sqlVarchar,
    .faux "NON_UNIQUE" sqlSmallint, .faux "INDEX_QUALIFIER" sqlVarchar,
    .faux "INDEX_NAME" sqlVarchar, .faux "TYPE" sqlSmallint,
    .faux "ORDINAL_POSITION" sqlSmallint, .faux "COLUMN_NAME" sqlVarchar,
    .faux "ASC_OR_DESC" sqlChar, .faux "CARDINALITY" sqlInteger, .faux "PAGES" sqlInteger,
    .faux "FILTER_CONDITION" sqlVarchar]

end StatisticsMetadataQuery

end EzRets
