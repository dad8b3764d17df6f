import EzRets.Lib.LastWins
import EzRets.Lib.Split
import EzRets.Metadata

/-!
# EzRets.MetadataView — table names of the driver and the metadata behind them

`MetadataView` indexes the resources and classes by system name and by standard name, lists the
data tables as `data:Resource:Class` and finds the resource and class of such a name again.
-/

namespace EzRets

open LastWins

/-- `MetadataView`: the naming mode and the metadata it was built from. -/
structure MetadataView where
  mStandardNames : Bool
  mMetadata : RetsMetadata

namespace MetadataView

variable (v : MetadataView)

/-- A name under which the maps keep an object (`!sysname.empty()`). -/
def isKey (name : Str) : Bool := !name.isEmpty

/-- The resource's name in the current mode. -/
def resName (res : MetadataResource) : Str :=
  if v.mStandardNames then res.standardName else res.resourceID

/-- The class's name in the current mode. -/
def className (clazz : MetadataClass) : Str :=
  if v.mStandardNames then clazz.standardName else clazz.className

/-- The column's name in the current mode. -/
def columnName (table : MetadataTable) : Str :=
  if v.mStandardNames then table.standardName else table.systemName

/-- `mResourceBySysNamePtr`, filled by `initResources`. -/
def mResourceBySysName : Str → Option MetadataResource :=
  index (·.resourceID) isKey v.mMetadata.getAllResources

/-- `mResourceByStdNamePtr`, filled by `initResources`. -/
def mResourceByStdName : Str → Option MetadataResource :=
  index (·.standardName) isKey v.mMetadata.getAllResources

/-- The assignments that the loops of `initClasses` make to a class map, keyed by the resource
and the class's `name`. -/
def classAssignments (name : MetadataClass → Str) :
    List ((MetadataResource × Str) × MetadataClass) :=
  v.mMetadata.getAllResources.flatMap fun res =>
    ((v.mMetadata.getAllClasses res.resourceID).filter fun clazz => isKey (name clazz)).map
      fun clazz => ((res, name clazz), clazz)

/-- `mClassSysMapPtr`. -/
def mClassSysMap : MetadataResource × Str → Option MetadataClass :=
  assign (v.classAssignments (·.className))

/-- `mClassStdMapPtr`. -/
def mClassStdMap : MetadataResource × Str → Option MetadataClass :=
  assign (v.classAssignments (·.standardName))

def getResourceClassPairs : List (MetadataResource × MetadataClass) :=
  v.mMetadata.getAllResources.flatMap fun res =>
    (v.mMetadata.getAllClasses res.resourceID).map fun clazz => (res, clazz)

def getResource (resName : Str) : Option MetadataResource :=
  if v.mStandardNames then v.mResourceByStdName resName else v.mResourceBySysName resName

def getClass (resName className : Str) : Option MetadataClass :=
  (v.getResource resName).bind fun res =>
    if v.mStandardNames then v.mClassStdMap (res, className) else v.mClassSysMap (res, className)

/-- The private `getTable`.  `initTablesForClass` fills the maps of one class on first use, from
the same list each time. -/
def getTableBy (classPtr : MetadataClass) (tableName : Str) (stdNames : Bool) :
    Option MetadataTable :=
  let tables := v.mMetadata.getAllTables classPtr
  if stdNames then index (·.standardName) isKey tables tableName
  else index (·.systemName) isKey tables tableName

def getTable (classPtr : MetadataClass) (tableName : Str) : Option MetadataTable :=
  v.getTableBy classPtr tableName v.mStandardNames

/-- The key field is a system name in both modes. -/
def getKeyFieldTable (clazz : MetadataClass) (keyField : Str) : Option MetadataTable :=
  v.getTableBy clazz keyField false

def getTablesForClass (clazz : MetadataClass) : List MetadataTable :=
  v.mMetadata.getAllTables clazz

def getResourceClassPairBySQLTable (tableName : Str) :
    Option (MetadataResource × MetadataClass) :=
  let parts := tableName.splitOn ':'
  -- `at` throws on a short name, which leaves what is not yet assigned empty
  let resName := (parts[1]?).getD []
  let className := (parts[2]?).getD []
  if !resName.isEmpty || !className.isEmpty then
    match v.getResource resName, v.getClass resName className with
    | some res, some clazz => some (res, clazz)
    | _, _ => none
  else none

def makeSQLDataTableName (resource : MetadataResource) (clazz : MetadataClass) : Str :=
  let resName := v.resName resource
  let className := v.className clazz
  if !(resName.isEmpty || className.isEmpty) then
    "data:".toList ++ resName ++ ":".toList ++ className
  else []

/-- The names and descriptions of all data tables. -/
def getSQLDataTableMetadata : List (Str × Str) :=
  v.getResourceClassPairs.filterMap fun (res, clazz) =>
    let tableName := v.makeSQLDataTableName res clazz
    if !tableName.isEmpty then some (tableName, clazz.description) else none

/-- The overload that describes the data table `name`. -/
def getSQLDataTableMetadataOf (name : Str) : List (Str × Str) :=
  match v.getResourceClassPairBySQLTable name with
  | some (_, clazz) => [(name, clazz.description)]
  | none => []

/-- `ObjectTableType`. -/
inductive ObjectTableType
  | location
  | binary
  deriving DecidableEq, Repr

def makeSQLObjectTableName (resource : MetadataResource) (type : ObjectTableType) : Str :=
  if !resource.resourceID.isEmpty then
    "object:".toList ++ (if type = .location then "location".toList else "binary".toList) ++
      ":".toList ++ resource.resourceID
  else []

/-- The description of a resource's object tables. -/
def objectTableDescription (res : MetadataResource) : Str :=
  "GetObject table for Resource ".toList ++ res.resourceID ++
    (if !res.standardName.isEmpty then "/".toList ++ res.standardName else [])

def getSQLObjectTableMetadata : List (Str × Str) :=
  v.mMetadata.getAllResources.flatMap fun res =>
    [(makeSQLObjectTableName res .location, objectTableDescription res),
      (makeSQLObjectTableName res .binary, objectTableDescription res)]

/-- The overload that describes the object table `name`; an unknown resource is dereferenced as
a null pointer. -/
def getSQLObjectTableMetadataOf (name : Str) : Except Fault (List (Str × Str)) :=
  let resName := ((name.splitOn ':')[2]?).getD []
  if !resName.isEmpty then
    match v.getResource resName with
    | some res => .ok [(name, objectTableDescription res)]
    | none => .error .nullResource
  else .ok []

def getResources : List MetadataResource := v.mMetadata.getAllResources

def isLookupColumn (table : MetadataTable) : Bool :=
  table.interpretation = .lookup || table.interpretation = .lookupMulti

def getLookupTypeLongValue (table : MetadataTable) (value : Str) : Str :=
  if !isLookupColumn table then value
  else if table.lookupName.isEmpty then value
  else
    let resName := ((table.level.splitOn ':')[0]?).getD []
    match v.mMetadata.getLookupType resName table.lookupName value with
    | some lt => lt.longValue
    | none => value

def getLookupTypes (resName lookup : Str) : Except Fault (List MetadataLookupType) :=
  match v.getResource resName with
  | some res => .ok (v.mMetadata.getAllLookupTypes res.resourceID lookup)
  | none => .error .nullResource

def getLookup (resName lookup : Str) : Except Fault (Option MetadataLookup) :=
  match v.getResource resName with
  | some res => .ok (v.mMetadata.getLookup res.resourceID lookup)
  | none => .error .nullResource

end MetadataView

end EzRets
