import EzRets.DataTranslator
import EzRets.Descriptors
import EzRets.MetadataView

/-!
# EzRets.Column — the columns of a result set

A column has a name, a kind that decides its type and its size, and the binding that `SQLBindCol`
gave it.  `setData` sends a value to the translator, at the addresses that the row descriptor
moves the binding to.
-/

namespace EzRets

/-- The arguments of `Column::bind`. -/
structure Binding where
  targetType : Int
  targetValue : Ptr
  bufferLength : Int
  strLenOrInd : Ptr
  deriving DecidableEq, Repr

/-- `FauxColumn` and `RetsColumn`; the latter keeps the metadata view of its result set. -/
inductive ColumnKind
  | faux (mDefaultType : Int) (mMaxLength : Nat)
  | rets (metadataView : MetadataView) (mMetadataTable : MetadataTable) (mUseCompactFormat : Bool)

/-- `Column`; `mBound` holds exactly when there is a binding. -/
structure Column where
  mName : Str
  kind : ColumnKind
  binding : Option Binding

namespace Column

/-- The constructor of `FauxColumn` with its default length. -/
def faux (name : String) (defaultType : Int) : Column := ⟨name.toList, .faux defaultType 256, none⟩

def isBound (col : Column) : Bool := col.binding.isSome

def bind (col : Column) (b : Binding) : Column := { col with binding := some b }

def unbind (col : Column) : Column := { col with binding := none }

/-- `columnSizeHelper`; a time column gets the type code in place of a length. -/
def columnSizeHelper (type : Int) (length : Nat) : Nat :=
  if type = sqlTypeTimestamp then 19
  else if type = sqlTypeDate then 10
  else if type = sqlTypeTime then 92
  else length

/-- `lookupSizeHelper`. -/
def lookupSizeHelper (table : MetadataTable) : Nat :=
  if table.interpretation = .lookup then 129 else 2561

/-- The column is a lookup whose values are decoded. -/
def isDecoded (table : MetadataTable) (useCompactFormat : Bool) : Bool :=
  !useCompactFormat && MetadataView.isLookupColumn table

def getBestSqlType (dt : DataTranslator) (col : Column) (targetType : Int) : Int :=
  if targetType = -1 ∨ targetType = sqlCDefault then
    match col.kind with
    | .faux defaultType _ => defaultType
    | .rets _ table _ => dt.getPreferedOdbcType table.dataType
  else targetType

def getDataType (dt : DataTranslator) (col : Column) : Int :=
  match col.kind with
  | .faux defaultType _ => defaultType
  | .rets _ table _ =>
    if MetadataView.isLookupColumn table then sqlVarchar
    else dt.getPreferedOdbcType table.dataType

/-- The length of a column whose metadata gives none; a type without a case of its own keeps 0. -/
def defaultLength : RetsType → Nat
  | .character => 640
  | .tiny | .small | .int | .long | .decimal => 32
  | _ => 0

def getMaximumLength (col : Column) : Nat :=
  match col.kind with
  | .faux _ maxLength => maxLength
  | .rets _ table useCompactFormat =>
    if isDecoded table useCompactFormat then lookupSizeHelper table
    else
      match table.dataType with
      | .boolean => 5
      | .date => 10
      | .dateTime => 19
      | .time => 12
      | type =>
        let size := toSize table.maximumLength
        if size = 0 then defaultLength type else size

def getColumnSize (dt : DataTranslator) (col : Column) : Nat :=
  match col.kind with
  | .faux defaultType maxLength => columnSizeHelper defaultType maxLength
  | .rets _ table useCompactFormat =>
    if isDecoded table useCompactFormat then lookupSizeHelper table
    else
      columnSizeHelper (dt.getPreferedOdbcType table.dataType) (toSize table.maximumLength)

def getDecimalDigits (col : Column) : Int :=
  match col.kind with
  | .faux _ _ => 0
  | .rets _ table _ => toSqlSmallint table.precision

def getPrecision (dt : DataTranslator) (col : Column) : Nat :=
  match col.kind with
  | .faux _ _ => 0
  | .rets _ table _ =>
    let dataType := dt.getPreferedOdbcType table.dataType
    if dataType = sqlDecimal ∨ dataType = sqlDouble then toSize table.precision
    else if dataType = sqlTypeTimestamp then 3
    else 0

def isSearchable (col : Column) : Bool :=
  match col.kind with
  | .faux _ _ => false
  | .rets _ table _ => table.isSearchable

/-- `lookupDecoder`: a multi-valued lookup is decoded value by value. -/
def lookupDecoder (v : MetadataView) (table : MetadataTable) (data : Str) : Str :=
  if table.interpretation = .lookup then v.getLookupTypeLongValue table data
  else
    List.intercalate ",".toList ((data.splitOn ',').map (v.getLookupTypeLongValue table))

/-- `modifyData`. -/
def modifyData (col : Column) (data : Str) : Str :=
  match col.kind with
  | .faux _ _ => data
  | .rets v table useCompactFormat =>
    let data := if isDecoded table useCompactFormat then lookupDecoder v table data else data
    if table.useSeparator then data.filter (· ≠ ',') else data

/-- Where `setData` sends column `colNo`: the bind offset counts outside `SQLGetData` only, the
data pointer of the record always. -/
def adjustTarget (deref : Deref) (ard : AppRowDesc) (colNo : Nat) (b : Binding)
    (streamInfo : Option DataStreamInfo) : Target :=
  let offset := if streamInfo.isNone then ard.mBindOffsetPtr else 0
  let dataPtr := ard.getDataPtr colNo
  { target := adjustDescPointer deref dataPtr (adjustDescPointer deref offset b.targetValue)
    -- the parameter is an `SQLINTEGER`
    targetLen := toSqlInteger b.bufferLength
    resultSize := adjustDescPointer deref dataPtr (adjustDescPointer deref offset b.strLenOrInd)
    streamInfo := streamInfo }

/-- `setData` with the pointers of `b`; a null `streamInfo` is `none`. -/
def setData (deref : Deref) (ard : AppRowDesc) (dt : DataTranslator) (col : Column) (colNo : Nat)
    (data : Str) (b : Binding) (streamInfo : Option DataStreamInfo) : Translated :=
  dt.translate (col.modifyData data) (col.getBestSqlType dt b.targetType)
    (adjustTarget deref ard colNo b streamInfo)

@[simp] theorem bind_binding (col : Column) (b : Binding) : (col.bind b).binding = some b := rfl

@[simp] theorem unbind_binding (col : Column) : col.unbind.binding = none := rfl

end Column

end EzRets
