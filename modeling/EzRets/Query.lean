import EzRets.BulkQueries

/-!
# EzRets.Query — the query of a statement

A `Query` is what a statement has been prepared for, with the result set that it fills.  A query
is built, prepared, which makes the result set and its columns, and then executed as often as the
application asks for.
-/

namespace EzRets

/-- The subclasses of `Query`, with their members. -/
inductive QueryKind
  | null
  | dataCount (mDmqlQuery : DmqlQuery)
  | onDemandData (mUseCompactFormat : Bool) (mDmqlQuery : DmqlQuery)
  | onDemandObject (mGetObjectQuery : GetObjectQuery)
  | lookup (mLookupQuery : LookupQuery)
  | lookupColumns (mLookupColumnsQuery : LookupColumnsQuery)
  | tableMetadata (mCatalog mSchema mTable mTableType : Str)
  | columnMetadata (mTable mColumn : Str)
  | typeInfo (mDataType : Int)
  | specialColumns (mIdentifierType : Nat) (mTable : Str) (mScope mNullable : Nat)
  | statistics
  | primaryKeys (mTable : Str)
  deriving DecidableEq, Repr

/-- The type of result set that `prepareResultSet` makes; nothing prepares a `NullQuery`. -/
def QueryKind.resultSetType : QueryKind → Option ResultSetType
  | .null => none
  | .onDemandData _ _ => some .onDemand
  | .onDemandObject _ => some .onDemandObject
  | _ => some .bulk

/-- `Query`. -/
structure Query where
  kind : QueryKind
  mResultSet : Option ResultSet

/-! ## Construction -/

/-- The constructors treat the name `"%"` as no name. -/
def unpattern (name : Str) : Str := if name = TableMetadataQuery.all then [] else name

theorem unpattern_of_not_mem {name : Str} (h : '%' ∉ name) : unpattern name = name := by
  unfold unpattern
  rw [if_neg]
  rintro rfl
  exact h (by decide)

/-- The constructor of `TableMetadataQuery`. -/
def QueryKind.ofTables (catalog schema table tableType : Str) : QueryKind :=
  .tableMetadata catalog schema (unpattern table) tableType

/-- The constructor of `ColumnMetadataQuery`. -/
def QueryKind.ofColumns (table column : Str) : QueryKind :=
  .columnMetadata (unpattern table) (unpattern column)

/-- `newResultSet` for a `BulkResultSet` and its columns. -/
def bulkResultSet (dt : DataTranslator) (columns : List Column) : ResultSet :=
  ⟨dt, columns, .bulk BulkRows.new⟩

namespace OnDemandDataQuery

/-- The tables that `fields` selects from the class. -/
def selectTables (v : MetadataView) (clazz : MetadataClass) :
    List Str → Except Exn (List MetadataTable)
  | [] => .ok []
  | si :: fields =>
    match v.getTable clazz si with
    | none => .error (.sqlState "42S22".toList ("Column ".toList ++ si ++ " does not exist.".toList))
    | some table => (selectTables v clazz fields).map (table :: ·)

/-- The columns of the tables that have a name in the current mode. -/
def columns (conn : Connection) (v : MetadataView) (useCompactFormat : Bool)
    (tables : List MetadataTable) : List Column :=
  (tables.filter fun table => !(conn.tableName table).isEmpty).map fun table =>
    ⟨conn.tableName table, .rets v table useCompactFormat, none⟩

/-- The lookups that `prepareResultSet` loads in advance. -/
def loadLookups (conn : Connection) (v : MetadataView) (q : DmqlQuery)
    (tables : List MetadataTable) : Except Fault Unit :=
  tables.forM fun table =>
    if !(conn.tableName table).isEmpty && !conn.mDataSource.bool .useCompactFormat &&
        MetadataView.isLookupColumn table then
      (v.getLookupTypes q.getResource table.lookupName).map fun _ => ()
    else .ok ()

/-- `prepareResultSet`. -/
def prepareResultSet (conn : Connection) (useCompactFormat : Bool) (q : DmqlQuery) :
    Except Fault (Except Exn ResultSet) := do
  let v ← conn.metadata
  match v.getClass q.getResource q.getClass with
  | none => return .error (invalidName "Invalid Resource or Class name")
  | some clazz =>
    let fields := q.getFields.getD []
    let tables : Except Exn (List MetadataTable) :=
      if fields.isEmpty then .ok (v.getTablesForClass clazz) else selectTables v clazz fields
    match tables with
    | .error e => return .error e
    | .ok tables =>
      loadLookups conn v q tables
      return .ok ⟨DataTranslator.factory conn.mDataSource,
        columns conn v useCompactFormat tables, .onDemand none⟩

def searchRequest (conn : Connection) (q : DmqlQuery) (fields : List Str) : SearchRequest where
  resource := q.getResource
  clazz := q.getClass
  query := q.getCriterion.getD "*".toList
  countOnly := false
  select := some (List.intercalate ",".toList fields)
  limit := some q.getLimit
  offset := some q.getOffset
  standardNames := conn.mDataSource.bool .standardNames

/-- `doRetsQuery`: the server's answer. -/
def doRetsQuery (conn : Connection) (q : DmqlQuery) : Except Fault (Except Exn SearchResultSet) :=
  match q.getFields with
  | none => .error .nullFields
  | some fields => do
    let session ← conn.session
    return session.search (searchRequest conn q fields)

end OnDemandDataQuery

namespace OnDemandObjectQuery

def columns : List Column :=
  [.faux "object_key" sqlVarchar, .faux "object_id" sqlInteger, .faux "mime_type" sqlVarchar,
    .faux "description" sqlVarchar, .faux "location_url" sqlVarchar,
    ⟨"raw_data".toList, .faux sqlLongvarbinary 20971520, none⟩]

/-- `[\w-]`. -/
def isKeyChar (c : Char) : Bool := c.isAlphanum || c = '_' || c = '-'

/-- The entry for an object key, after the first match of `([\w-]+)(:(\d+))?`. -/
def requestEntry (key : Str) : Except Exn (Str × Option Int) :=
  let start := key.dropWhile fun c => !isKeyChar c
  let objectKey := start.takeWhile isKeyChar
  if objectKey.isEmpty then .error (invalidName "Invalid object_key")
  else
    match start.dropWhile isKeyChar with
    | ':' :: rest =>
      let id := rest.takeWhile Char.isDigit
      if id.isEmpty then .ok (objectKey, none)
      else
        match lexicalCastSigned 32 id with
        | some n => .ok (objectKey, some n)
        | none => .error .badLexicalCast
    | _ => .ok (objectKey, none)

/-- The response of `execute`. -/
def response (conn : Connection) (q : GetObjectQuery) :
    Except Fault (Except Exn GetObjectResponse) :=
  match q.getObjectKeys.mapM requestEntry with
  | .error e => .ok (.error e)
  | .ok objects => do
    let session ← conn.session
    return session.getObject ⟨q.getResource, q.getType, q.getUseLocation, objects⟩

end OnDemandObjectQuery

namespace Query

/-- The constructor of `NullQuery`; nothing prepares its result set. -/
def new : Query := ⟨.null, none⟩

/-- The bulk result set of a query whose metadata check gave `check`. -/
def prepareChecked (columns : List Column) (check : Option Exn) : Except Exn ResultSet :=
  match check with
  | some e => .error e
  | none => .ok (bulkResultSet .default columns)

/-- `prepareResultSet`. -/
def prepareResultSet (conn : Connection) : QueryKind → Except Fault (Except Exn ResultSet)
  | .null => .ok (.ok (bulkResultSet .default []))
  | .dataCount q => (DataCountQuery.check conn q).map (prepareChecked DataCountQuery.columns)
  | .onDemandData useCompactFormat q =>
    OnDemandDataQuery.prepareResultSet conn useCompactFormat q
  | .onDemandObject _ =>
    .ok (.ok ⟨.default, OnDemandObjectQuery.columns, .onDemandObject none fun _ => []⟩)
  | .lookup q => (EzLookupQuery.check conn q).map (prepareChecked EzLookupQuery.columns)
  | .lookupColumns q =>
    (EzLookupColumnsQuery.check conn q).map (prepareChecked EzLookupColumnsQuery.columns)
  | .tableMetadata _ _ _ _ => .ok (.ok (bulkResultSet .default TableMetadataQuery.columns))
  | .columnMetadata _ _ =>
    .ok (.ok (bulkResultSet (.factory conn.mDataSource) ColumnMetadataQuery.columns))
  | .typeInfo _ => .ok (.ok (bulkResultSet .default TypeInfoMetadataQuery.columns))
  | .specialColumns _ _ _ _ =>
    .ok (.ok (bulkResultSet .default SpecialColumnsMetadataQuery.columns))
  | .statistics => .ok (.ok (bulkResultSet .default StatisticsMetadataQuery.columns))
  | .primaryKeys _ => .ok (.ok (bulkResultSet .default PrimaryKeysMetadataQuery.columns))

/-- The query that `createSqlQuery` builds for what the compiler recognised. -/
def ofCompiled (useCompactFormat : Bool) : CompiledQuery → Except Exn QueryKind
  | .dmql q => .ok (if q.isCountOnly then .dataCount q else .onDemandData useCompactFormat q)
  | .getObject q => .ok (.onDemandObject q)
  | .lookup q => .ok (.lookup q)
  | .lookupColumns q => .ok (.lookupColumns q)
  | .other => .error (invalidName "Invalid Query Type For RETS Translation.")

/-- `createSqlQuery`. -/
def createSqlQuery (conn : Connection) (statement : Str) : Except Fault (Except Exn Query) :=
  match (conn.sqlToDmql statement).bind (ofCompiled (conn.mDataSource.bool .useCompactFormat)) with
  | .error e => .ok (.error e)
  | .ok kind => (prepareResultSet conn kind).map fun rs => rs.map fun rs => ⟨kind, some rs⟩

/-! ## Execution -/

/-- The outcome of `execute`: the query with its result set, the records added to the statement
and the return code or exception. -/
structure Executed where
  query : Query
  errors : List Error
  result : Except Exn SqlReturn

/-- What one `execute` of a bulk query adds to a result set that holds `stored` rows; `none` for
the other queries. -/
def bulkExecution (conn : Connection) (stored : Nat) :
    QueryKind → Option (Except Fault Execution)
  | .dataCount q => some (DataCountQuery.execute conn q)
  | .lookup q => some (EzLookupQuery.execute conn q)
  | .lookupColumns q => some (EzLookupColumnsQuery.execute conn q)
  | .tableMetadata catalog schema table tableType =>
    some (TableMetadataQuery.execute conn catalog schema table tableType)
  | .columnMetadata table column => some (ColumnMetadataQuery.execute conn table column)
  | .typeInfo dataType => some (.ok (TypeInfoMetadataQuery.execute dataType stored))
  | .specialColumns identifierType table scope nullable =>
    some (SpecialColumnsMetadataQuery.execute conn identifierType table scope nullable)
  | .statistics => some (.ok (.success []))
  | .primaryKeys table => some (PrimaryKeysMetadataQuery.execute conn table)
  | .null | .onDemandData _ _ | .onDemandObject _ => none

/-- The query with other rows in its result set. -/
def setRows (q : Query) (rs : ResultSet) (rows : RowSource) : Query :=
  { q with mResultSet := some { rs with rows := rows } }

/-- `execute` of an on-demand query: a failed request leaves the old answer in the result set. -/
def executeOnDemand {α : Type} (q : Query) (answer : Except Exn α) (store : α → RowSource) :
    Except Fault Executed :=
  match answer with
  | .error e => .ok ⟨q, [], .error e⟩
  | .ok results =>
    match q.mResultSet with
    | some rs => .ok ⟨q.setRows rs (store results), [], .ok .success⟩
    | none => .error .nullResultSet

/-- `execute`.  The `dynamic_cast` of the bulk queries needs a bulk result set. -/
def execute (conn : Connection) (q : Query) : Except Fault Executed :=
  match q.kind with
  | .null => .ok ⟨q, [], .ok .success⟩
  | .onDemandData _ dmqlQuery =>
    if searches conn dmqlQuery then do
      let answer ← OnDemandDataQuery.doRetsQuery conn dmqlQuery
      q.executeOnDemand answer fun results => .onDemand (some results)
    else .ok ⟨q, [noCriterionError], .ok .successWithInfo⟩
  | .onDemandObject objectQuery => do
    let answer ← OnDemandObjectQuery.response conn objectQuery
    q.executeOnDemand answer fun response => .onDemandObject (some response) (objectMap q)
  | kind =>
    match q.mResultSet with
    | some ⟨dt, columns, .bulk rows⟩ =>
      match bulkExecution conn rows.mResults.length kind with
      | some execution => execution.map fun out =>
        ⟨q.setRows ⟨dt, columns, .bulk rows⟩ (.bulk (rows.addRows out.rows)), out.errors, out.result⟩
      | none => .ok ⟨q, [], .ok .success⟩
    | _ => .error .nullResultSet
where
  /-- `setObjectResponse` leaves the map of the last object in place. -/
  objectMap (q : Query) : Str → Str :=
    match q.mResultSet with
    | some ⟨_, _, .onDemandObject _ map⟩ => map
    | _ => fun _ => []

end Query

end EzRets
