import EzRets.Column

/-!
# EzRets.ResultSet — where the rows of a query come from

Columns, bindings and the way a row is handed to them are the same for every result set; the
sources of rows differ.  `BulkResultSet` keeps all rows in memory, `OnDemandResultSet` and
`OnDemandObjectResultSet` ask the server's answer for one row after the other.
-/

namespace EzRets

/-- librets' `SearchResultSet`: what `GetCount` answers, the columns of the current row by name,
and the rows that `HasNext` will still move to, each of which may fail instead. -/
structure SearchResultSet where
  getCount : Int
  getString : Str → Except Exn Str
  pending : List (Except Exn (Str → Except Exn Str))

/-- librets' `ObjectDescriptor`; reading the data stream may fail. -/
structure ObjectDescriptor where
  getRetsReplyCode : Int
  getRetsReplyText : Str
  getObjectKey : Str
  getObjectId : Int
  getContentType : Str
  getDescription : Str
  getLocationUrl : Str
  getData : Except Exn Str

/-- librets' `GetObjectResponse`: what `NextObject` will return, before the final null. -/
abbrev GetObjectResponse := List (Except Exn ObjectDescriptor)

/-- `BulkResultSet`: the iterator is an index into the rows. -/
structure BulkRows where
  mGotFirst : Bool
  mResults : List (List Str)
  mResultIterator : Nat
  fetched : mGotFirst = true → mResultIterator < mResults.length
  unfetched : mGotFirst = false → mResultIterator = 0

namespace BulkRows

/-- The constructor. -/
def new : BulkRows := ⟨false, [], 0, by simp, by simp⟩

/-- `addRow` sends the iterator back to the first row and leaves `mGotFirst` as it is. -/
def addRow (rs : BulkRows) (row : List Str) : BulkRows where
  mGotFirst := rs.mGotFirst
  mResults := rs.mResults ++ [row]
  mResultIterator := 0
  fetched := by simp
  unfetched := by simp

def addRows (rs : BulkRows) (rows : List (List Str)) : BulkRows := rows.foldl addRow rs

def hasNext (rs : BulkRows) : Bool :=
  if rs.mGotFirst then rs.mResultIterator + 1 ≠ rs.mResults.length
  else rs.mResultIterator ≠ rs.mResults.length

/-- The first part of `processNextRow`: the row that the iterator moves to. -/
def next (rs : BulkRows) : Except Fault (List Str × BulkRows) :=
  let iterator := if rs.mGotFirst then rs.mResultIterator + 1 else rs.mResultIterator
  if h : iterator < rs.mResults.length then
    .ok (rs.mResults.get ⟨iterator, h⟩,
      ⟨true, rs.mResults, iterator, fun _ => h, by simp⟩)
  else .error .endIterator

end BulkRows

/-- The current row, as a result set keeps it. -/
inductive RowData
  | bulk (row : List Str)
  | search (getString : Str → Except Exn Str)
  | object (mObjectResponseMap : Str → Str)

/-- The subclasses of `ResultSet` that a query creates. -/
inductive RowSource
  | bulk (rs : BulkRows)
  | onDemand (mResults : Option SearchResultSet)
  | onDemandObject (mObjectResponse : Option GetObjectResponse) (mObjectResponseMap : Str → Str)

/-! ## Object rows -/

/-- The reply codes that end an object query. -/
def objectErrorCodes : List Int :=
  [20400, 20401, 20402, 20406, 20407, 20408, 20409, 20410, 20411, 20412, 20413, 20414]

/-- The map of a descriptor's fields without its data. -/
def objectFields (d : ObjectDescriptor) (name : Str) : Str :=
  if name = "object_key".toList then d.getObjectKey
  else if name = "object_id".toList then intText d.getObjectId
  else if name = "mime_type".toList then d.getContentType
  else if name = "description".toList then d.getDescription
  else if name = "location_url".toList then d.getLocationUrl
  else []

/-- `OnDemandObjectResultSet::hasNext`: the result, what `NextObject` still has and the map. -/
def objectHasNext (map : Str → Str) :
    GetObjectResponse → Except Exn Bool × GetObjectResponse × (Str → Str)
  | [] => (.ok false, [], map)
  | .error e :: pending => (.error e, pending, map)
  | .ok d :: pending =>
    if d.getRetsReplyCode ∈ objectErrorCodes then
      (.error (.getObject d.getRetsReplyText), pending, map)
    else if d.getRetsReplyCode = 20403 then objectHasNext map pending
    else
      match d.getData with
      | .error e => (.error e, pending, objectFields d)
      | .ok obj =>
        (.ok true, pending, Function.update (objectFields d) "raw_data".toList obj)

/-- `ResultSet::ResultSetType`, as far as queries ask for it. -/
inductive ResultSetType
  | bulk
  | onDemand
  | onDemandObject
  deriving DecidableEq, Repr

namespace RowSource

def type : RowSource → ResultSetType
  | bulk _ => .bulk
  | onDemand _ => .onDemand
  | onDemandObject _ _ => .onDemandObject

def rowCount : RowSource → Nat
  | bulk rs => rs.mResults.length
  | onDemand _ => 1
  | onDemandObject _ _ => 1

def isEmpty : RowSource → Bool
  | bulk rs => rs.mResults.isEmpty
  | onDemand _ => false
  | onDemandObject _ _ => false

/-- `hasNext`.  The on-demand result sets move to the next row here. -/
def hasNext : RowSource → Except Exn Bool × RowSource
  | bulk rs => (.ok rs.hasNext, bulk rs)
  | onDemand none => (.ok false, onDemand none)
  | onDemand (some results) =>
    match results.pending with
    | [] => (.ok false, onDemand (some results))
    | .error e :: pending => (.error e, onDemand (some { results with pending := pending }))
    | .ok row :: pending =>
      (.ok true, onDemand (some { results with getString := row, pending := pending }))
  | onDemandObject none map => (.ok false, onDemandObject none map)
  | onDemandObject (some pending) map =>
    let out := objectHasNext map pending
    (out.1, onDemandObject (some out.2.1) out.2.2)

/-- The first part of `processNextRow`.  The bulk result set moves to the next row here. -/
def advance : RowSource → Except Fault (RowData × RowSource)
  | bulk rs => rs.next.map fun (row, rs) => (.bulk row, bulk rs)
  | onDemand none => .error .nullResults
  | onDemand (some results) => .ok (.search results.getString, onDemand (some results))
  | onDemandObject pending map => .ok (.object map, onDemandObject pending map)

/-- The row that `getData` reads. -/
def current : RowSource → Except Fault RowData
  | bulk rs =>
    match rs.mResults[rs.mResultIterator]? with
    | some row => .ok (.bulk row)
    | none => .error .endIterator
  | onDemand none => .error .nullResults
  | onDemand (some results) => .ok (.search results.getString)
  | onDemandObject _ map => .ok (.object map)

theorem hasNext_type (rows : RowSource) : rows.hasNext.2.type = rows.type := by
  cases rows with
  | bulk rs => rfl
  | onDemand results =>
    cases results with
    | none => rfl
    | some results =>
      simp only [hasNext]
      split <;> rfl
  | onDemandObject pending map => cases pending <;> rfl

theorem advance_type {rows rows' : RowSource} {row : RowData}
    (h : rows.advance = .ok (row, rows')) : rows'.type = rows.type := by
  cases rows with
  | bulk rs =>
    simp only [advance] at h
    cases hn : rs.next with
    | error e =>
      rw [hn] at h
      cases h
    | ok out =>
      rw [hn] at h
      cases h
      rfl
  | onDemand results =>
    cases results with
    | none => cases h
    | some results =>
      cases h
      rfl
  | onDemandObject pending map =>
    cases h
    rfl

end RowSource

/-! ## Values of a row -/

namespace RowData

/-- The text of the column `name` at index `i`; a name that the server did not send is empty. -/
def text (name : Str) (i : Nat) : RowData → Except Exn Str
  | bulk row => match row[i]? with
    | some data => .ok data
    | none => .error .outOfRange
  | search getString =>
    match getString name with
    | .error (.invalidArgument _) => .ok []
    | result => result
  | object map => .ok (map name)

end RowData

/-- What a loop of `processNextRow` visits: columns with their texts, and the exception that ends
the loop early, if any. -/
structure Cells where
  cells : List (Column × Str)
  thrown : Option Exn

/-- The loop of the on-demand result sets, over the columns. -/
def columnCells (text : Str → Except Exn Str) : List Column → Cells
  | [] => ⟨[], none⟩
  | col :: cols =>
    match text col.mName with
    | .error e => ⟨[], some e⟩
    | .ok data =>
      let rest := columnCells text cols
      ⟨(col, data) :: rest.cells, rest.thrown⟩

/-- The loop of `BulkResultSet::processNextRow`, over the values: `at` throws when the row is
longer than the column list. -/
def bulkCells (cols : List Column) (row : List Str) : Cells :=
  ⟨cols.zip row, if row.length ≤ cols.length then none else some .outOfRange⟩

def RowData.cells (cols : List Column) : RowData → Cells
  | bulk row => bulkCells cols row
  | search getString => columnCells (fun name => text name 0 (search getString)) cols
  | object map => columnCells (fun name => .ok (map name)) cols

/-- What `setData` does for a cell: nothing for an unbound column. -/
def cellData (deref : Deref) (ard : AppRowDesc) (dt : DataTranslator) (count : Nat)
    (cell : Column × Str) : Translated :=
  match cell.1.binding with
  | some b => cell.1.setData deref ard dt count cell.2 b none
  | none => ⟨[], none, none⟩

/-- Sends the cells to the bound columns from index `count` on, until one throws. -/
def setCells (deref : Deref) (ard : AppRowDesc) (dt : DataTranslator) :
    Nat → List (Column × Str) → List Write × Option Exn
  | _, [] => ([], none)
  | count, cell :: cells =>
    let out := cellData deref ard dt count cell
    match out.thrown with
    | some e => (out.writes, some e)
    | none =>
      let rest := setCells deref ard dt (count + 1) cells
      (out.writes ++ rest.1, rest.2)

/-! ## Result sets -/

/-- `ResultSet`. -/
structure ResultSet where
  mTranslator : DataTranslator
  mColumns : List Column
  rows : RowSource

namespace ResultSet

def columnCount (rs : ResultSet) : Nat := rs.mColumns.length

/-- `mColumns->at(col - 1)`. -/
def getColumn (rs : ResultSet) (col : Nat) : Option Column :=
  if col = 0 then none else rs.mColumns[col - 1]?

/-- `bindColumn`; `none` where `at` throws. -/
def bindColumn (rs : ResultSet) (col : Nat) (b : Binding) : Option ResultSet :=
  (rs.getColumn col).map fun column =>
    { rs with mColumns := rs.mColumns.set (col - 1) (column.bind b) }

def unbindColumns (rs : ResultSet) : ResultSet :=
  { rs with mColumns := rs.mColumns.map Column.unbind }

/-- The outcome of `processNextRow`. -/
structure Processed where
  rs : ResultSet
  writes : List Write
  thrown : Option Exn

def processNextRow (deref : Deref) (ard : AppRowDesc) (rs : ResultSet) :
    Except Fault Processed :=
  rs.rows.advance.map fun (row, rows) =>
    let cells := row.cells rs.mColumns
    let out := setCells deref ard rs.mTranslator 0 cells.cells
    ⟨{ rs with rows := rows }, out.1, out.2.or cells.thrown⟩

theorem processNextRow_of_advance (deref : Deref) (ard : AppRowDesc) {dt : DataTranslator}
    {columns : List Column} {rows rows' : RowSource} {row : RowData}
    (hadvance : rows.advance = .ok (row, rows')) :
    processNextRow deref ard ⟨dt, columns, rows⟩ =
      .ok ⟨⟨dt, columns, rows'⟩, (setCells deref ard dt 0 (row.cells columns).cells).1,
        (setCells deref ard dt 0 (row.cells columns).cells).2.or (row.cells columns).thrown⟩ := by
  unfold processNextRow
  rw [hadvance]
  rfl

/-- `getData`. -/
def getData (deref : Deref) (ard : AppRowDesc) (rs : ResultSet) (colno : Nat) (b : Binding)
    (streamInfo : DataStreamInfo) : Except Fault Translated :=
  match rs.getColumn colno with
  | none => .ok ⟨[], some streamInfo, some .outOfRange⟩
  | some column =>
    rs.rows.current.map fun row =>
      match row.text column.mName (colno - 1) with
      | .error e => ⟨[], some streamInfo, some e⟩
      | .ok data =>
        column.setData deref ard rs.mTranslator (colno - 1) data b (some streamInfo)

/-- The decoded value of a column in the current row. -/
def value (rs : ResultSet) (colno : Nat) : Option Str :=
  match rs.getColumn colno, rs.rows.current with
  | some column, .ok row =>
    match row.text column.mName (colno - 1) with
    | .ok data => some (column.modifyData data)
    | .error _ => none
  | _, _ => none

end ResultSet

end EzRets
