import EzRets.ResultSet

/-!
# EzRets.Session — what a query asks librets and the server

The SQL compiler, the search and the object retrieval of librets, as seen by the queries.  Their
answers are inputs of a call: the connection of a statement is given anew for every call.
-/

namespace EzRets

/-- librets' `DmqlQuery`.  A null field list or criterion is `none`; the criterion is kept as its
`ToDmqlString`. -/
structure DmqlQuery where
  getResource : Str
  getClass : Str
  getFields : Option (List Str)
  getCriterion : Option Str
  getLimit : Int
  getOffset : Int
  isCountOnly : Bool
  deriving DecidableEq, Repr

/-- librets' `GetObjectQuery`. -/
structure GetObjectQuery where
  getResource : Str
  getType : Str
  getUseLocation : Bool
  getObjectKeys : List Str
  deriving DecidableEq, Repr

/-- librets' `LookupQuery`. -/
structure LookupQuery where
  getResource : Str
  getLookup : Str
  deriving DecidableEq, Repr

/-- librets' `LookupColumnsQuery`. -/
structure LookupColumnsQuery where
  getResource : Str
  getClass : Str
  deriving DecidableEq, Repr

/-- What `sqlToDmql` recognises. -/
inductive CompiledQuery
  | dmql (q : DmqlQuery)
  | getObject (q : GetObjectQuery)
  | lookup (q : LookupQuery)
  | lookupColumns (q : LookupColumnsQuery)
  | other
  deriving DecidableEq, Repr

/-- librets' `SearchRequest`, with what the queries set; the format is always `COMPACT`. -/
structure SearchRequest where
  resource : Str
  clazz : Str
  query : Str
  countOnly : Bool
  select : Option Str
  limit : Option Int
  offset : Option Int
  standardNames : Bool
  deriving DecidableEq, Repr

/-- librets' `GetObjectRequest`: the added entries, in order, `none` for all objects of a key. -/
structure GetObjectRequest where
  resource : Str
  type : Str
  location : Bool
  objects : List (Str × Option Int)
  deriving DecidableEq, Repr

/-- librets' `RetsSession`. -/
structure RetsSession where
  getLoginUrl : Str
  search : SearchRequest → Except Exn SearchResultSet
  getObject : GetObjectRequest → Except Exn GetObjectResponse

/-- What a statement reads through its `RetsDBC` during a call. -/
structure Connection where
  mDataSource : DataSource
  getMetadataView : Option MetadataView
  getRetsSession : Option RetsSession
  sqlToDmql : Str → Except Exn CompiledQuery

namespace Connection

/-- A dereference of the metadata view. -/
def metadata (conn : Connection) : Except Fault MetadataView :=
  match conn.getMetadataView with
  | some v => .ok v
  | none => .error .nullMetadataView

/-- A dereference of the session. -/
def session (conn : Connection) : Except Fault RetsSession :=
  match conn.getRetsSession with
  | some session => .ok session
  | none => .error .nullSession

theorem metadata_eq_ok_iff {conn : Connection} {v : MetadataView} :
    conn.metadata = .ok v ↔ conn.getMetadataView = some v := by
  unfold metadata
  rcases conn.getMetadataView with _ | v'
  · exact iff_of_false (fun h => by cases h) fun h => by cases h
  · rw [Except.ok.injEq, Option.some.injEq]

theorem session_eq_ok_iff {conn : Connection} {s : RetsSession} :
    conn.session = .ok s ↔ conn.getRetsSession = some s := by
  unfold session
  rcases conn.getRetsSession with _ | s'
  · exact iff_of_false (fun h => by cases h) fun h => by cases h
  · rw [Except.ok.injEq, Option.some.injEq]

/-- A name of a metadata table in the mode of the data source. -/
def tableName (conn : Connection) (table : MetadataTable) : Str :=
  if conn.mDataSource.bool .standardNames then table.standardName else table.systemName

end Connection

end EzRets
