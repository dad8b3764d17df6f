import EzRets.Bindings
import EzRets.ColumnListing
import EzRets.TableNames

/-!
# EzRets.SelectLists — the columns of a select list

The fields of a select list are looked up in the class, given the names of what was found, and
asked of the server by these names when a row is fetched.  The names stay those of the list, from
the preparation to the last fetch.
-/

namespace EzRets

open LastWins FaultRun

namespace OnDemandDataQuery

/-- `f` is a column of the class in the mode of the view. -/
def IsColumn (v : MetadataView) (clazz : MetadataClass) (f : Str) : Prop :=
  f ≠ [] ∧ ∃ table ∈ v.getTablesForClass clazz, v.columnName table = f

variable {conn : Connection} {v : MetadataView} {clazz : MetadataClass} {useCompactFormat : Bool}
variable {q : DmqlQuery} {fields : List Str}

/-! ## Preparation -/

theorem getTable_eq_some {f : Str} {table : MetadataTable} (h : v.getTable clazz f = some table) :
    f ≠ [] ∧ table ∈ v.getTablesForClass clazz ∧ v.columnName table = f := by
  have hfound := TableCache.getTable_foundLast v clazz f
  rw [h] at hfound
  obtain ⟨hne, hname, hlast⟩ := hfound
  exact ⟨hne, hlast.mem, hname⟩

theorem isColumn_iff {f : Str} : IsColumn v clazz f ↔ (v.getTable clazz f).isSome = true := by
  rcases hfound : v.getTable clazz f with _ | table
  · have hnone := TableCache.getTable_foundLast v clazz f
    rw [hfound] at hnone
    refine iff_of_false ?_ (by simp)
    rintro ⟨hne, table, hmem, hname⟩
    exact hnone.resolve_left hne table hmem hname
  · obtain ⟨hne, hmem, hname⟩ := getTable_eq_some hfound
    exact iff_of_true ⟨hne, table, hmem, hname⟩ rfl

/-- A list of columns selects the table of each field. -/
theorem selectTables_of_isColumn (h : ∀ f ∈ fields, IsColumn v clazz f) :
    ∃ tables, selectTables v clazz fields = .ok tables ∧
      List.Forall₂ (fun f table => v.getTable clazz f = some table) fields tables := by
  induction fields with
  | nil => exact ⟨[], rfl, .nil⟩
  | cons f fields ih =>
    obtain ⟨table, htable⟩ := Option.isSome_iff_exists.mp (isColumn_iff.mp (h f (by simp)))
    obtain ⟨tables, htables, hall⟩ := ih fun g hg => h g (by simp [hg])
    refine ⟨table :: tables, ?_, .cons htable hall⟩
    rw [selectTables, htable, htables]
    rfl

/-- The exception of a field that is no column. -/
def unknownColumn (f : Str) : Exn :=
  .sqlState "42S22".toList ("Column ".toList ++ f ++ " does not exist.".toList)

/-- Any other list throws for a field that is no column. -/
theorem selectTables_of_not_isColumn (h : ∃ f ∈ fields, ¬ IsColumn v clazz f) :
    ∃ f ∈ fields, ¬ IsColumn v clazz f ∧
      selectTables v clazz fields = .error (unknownColumn f) := by
  induction fields with
  | nil =>
    obtain ⟨f, hf, -⟩ := h
    cases hf
  | cons g fields ih =>
    rcases hfound : v.getTable clazz g with _ | table
    · refine ⟨g, by simp, ?_, ?_⟩
      · rw [isColumn_iff, hfound]
        simp
      · rw [selectTables, hfound]
        rfl
    · have hcolumn : IsColumn v clazz g := by
        rw [isColumn_iff, hfound]
        rfl
      obtain ⟨f, hf, hunknown⟩ := h
      have htail : f ∈ fields := by
        rcases List.mem_cons.mp hf with rfl | hf
        · exact absurd hcolumn hunknown
        · exact hf
      obtain ⟨f', hf', hunknown', herror⟩ := ih ⟨f, htail, hunknown⟩
      refine ⟨f', by simp [hf'], hunknown', ?_⟩
      rw [selectTables, hfound, herror]
      rfl

variable (v clazz useCompactFormat) in
/-- `col` is the unbound column of the field `f` of the class. -/
def IsColumnOf (f : Str) (col : Column) : Prop :=
  ∃ table, v.getTable clazz f = some table ∧ col = ⟨f, .rets v table useCompactFormat, none⟩

/-- The columns of the selected tables are those of the fields. -/
theorem columns_of_selected (hmode : v.mStandardNames = conn.mDataSource.bool .standardNames)
    {tables : List MetadataTable}
    (h : List.Forall₂ (fun f table => v.getTable clazz f = some table) fields tables) :
    List.Forall₂ (IsColumnOf v clazz useCompactFormat) fields
      (columns conn v useCompactFormat tables) := by
  unfold columns
  rw [ColumnMetadataQuery.tableName_eq_columnName hmode]
  induction h with
  | nil => exact .nil
  | @cons f table _ _ hfound _ ih =>
    obtain ⟨hne, -, htable⟩ := getTable_eq_some hfound
    have hkept : (!(v.columnName table).isEmpty) = true := by
      rw [htable]
      simpa using hne
    rw [@List.filter_cons_of_pos _ (fun table => !(v.columnName table).isEmpty) table _ hkept,
      List.map_cons]
    exact .cons ⟨table, hfound, by rw [htable]⟩ ih

theorem names_of_isColumnOf {cols : List Column}
    (h : List.Forall₂ (IsColumnOf v clazz useCompactFormat) fields cols) :
    cols.map (·.mName) = fields := by
  induction h with
  | nil => rfl
  | cons hcol _ ih =>
    obtain ⟨table, -, rfl⟩ := hcol
    rw [List.map_cons, ih]

theorem loadLookups_of_getResource {res : MetadataResource}
    (h : v.getResource q.getResource = some res) (tables : List MetadataTable) :
    loadLookups conn v q tables = .ok () := by
  unfold loadLookups
  induction tables with
  | nil => rfl
  | cons table tables ih =>
    have hload : (if !(conn.tableName table).isEmpty &&
        !conn.mDataSource.bool .useCompactFormat && MetadataView.isLookupColumn table then
        (v.getLookupTypes q.getResource table.lookupName).map fun _ => ()
      else .ok ()) = .ok () := by
      split_ifs
      · rw [MetadataView.getLookupTypes_of_getResource h]
        rfl
      · rfl
    exact bind_eq_ok.mpr ⟨(), hload, ih⟩

/-- The tables that the fields `fields` ask for, all of the class when there are none. -/
def requestedTables (v : MetadataView) (clazz : MetadataClass) (fields : List Str) :
    Except Exn (List MetadataTable) :=
  if fields.isEmpty then .ok (v.getTablesForClass clazz) else selectTables v clazz fields

/-- The preparation of a query on an existing class. -/
theorem prepareResultSet_of_getClass (hview : conn.getMetadataView = some v)
    (hclass : v.getClass q.getResource q.getClass = some clazz) :
    prepareResultSet conn useCompactFormat q =
      .ok ((requestedTables v clazz (q.getFields.getD [])).map fun tables =>
        ⟨DataTranslator.factory conn.mDataSource, columns conn v useCompactFormat tables,
          .onDemand none⟩) := by
  obtain ⟨res, hres, -⟩ := MetadataView.getClass_eq_some_iff.mp hclass
  have hload := @loadLookups_of_getResource conn v q res hres
  unfold prepareResultSet
  rw [Connection.metadata_eq_ok_iff.mpr hview]
  simp only [bind, Except.bind, hclass]
  have hrequested : (if (q.getFields.getD []).isEmpty = true then .ok (v.getTablesForClass clazz)
      else selectTables v clazz (q.getFields.getD [])) =
      requestedTables v clazz (q.getFields.getD []) := rfl
  rw [hrequested]
  rcases requestedTables v clazz (q.getFields.getD []) with e | tables
  · rfl
  · simp only [hload]
    rfl

/-! ## Rows -/

/-- `data` is what the server replies for `f`; a field that its reply lacks is empty. -/
def IsReply (getString : Str → Except Exn Str) (f data : Str) : Prop :=
  getString f = .ok data ∨ data = [] ∧ ∃ what, getString f = .error (.invalidArgument what)

theorem text_search_eq_ok_iff {getString : Str → Except Exn Str} {f data : Str} {i : Nat} :
    (RowData.search getString).text f i = .ok data ↔ IsReply getString f data := by
  unfold RowData.text IsReply
  dsimp only
  split
  · rename_i what hreply
    rw [hreply, Except.ok.injEq]
    constructor
    · intro hdata
      exact .inr ⟨hdata.symm, what, rfl⟩
    · rintro (h | ⟨rfl, -⟩)
      · cases h
      · rfl
  · rename_i hother
    constructor
    · exact fun h => .inl h
    · rintro (h | ⟨-, what, h⟩)
      · exact h
      · exact absurd h (hother what)

/-- A row that is read without an exception gives every column a text. -/
theorem columnCells_eq_zip {text : Str → Except Exn Str} {cols : List Column}
    (h : (columnCells text cols).thrown = none) :
    ∃ values, (columnCells text cols).cells = cols.zip values ∧
      List.Forall₂ (fun name data => text name = .ok data) (cols.map (·.mName)) values := by
  induction cols with
  | nil => exact ⟨[], rfl, .nil⟩
  | cons col cols ih =>
    rw [columnCells] at h ⊢
    rcases htext : text col.mName with e | data
    · rw [htext] at h
      cases h
    · simp only [htext] at h ⊢
      obtain ⟨values, hcells, hall⟩ := ih h
      exact ⟨data :: values, by rw [hcells, List.zip_cons_cons], .cons htext hall⟩

end OnDemandDataQuery

namespace RetsSTMT

open OnDemandDataQuery

/-- The query streams its rows into columns with the names `fields`. -/
structure StreamsFields (fields : List Str) (q : Query) : Prop where
  wellFormed : q.WellFormed
  names : ∃ rs, q.mResultSet = some rs ∧ rs.rows.type = .onDemand ∧
    rs.mColumns.map (·.mName) = fields

/-- What a fetch has done with a reply of the server: the columns are still those of the fields, the
`i`-th of them, when it is bound, has stored the value of the `i`-th field, none of the bound ones has
failed, and `SQLGetData` reads the same values. -/
structure HandsOver (fields : List Str) (ctx : CallContext) (stmt : RetsSTMT) (out : StmtOut)
    (rs : ResultSet) (getString : Str → Except Exn Str) (values : List Str) : Prop where
  resultSet : out.stmt.mQuery.mResultSet = some rs
  names : rs.mColumns.map (·.mName) = fields
  current : rs.rows.current = .ok (.search getString)
  replies : List.Forall₂ (IsReply getString) fields values
  written : ∃ status, (∀ w ∈ status, w.IsStatus) ∧
    out.writes = boundStores ctx.deref stmt.ard rs.mTranslator rs.mColumns values ++ status
  converted : ∀ cell ∈ boundCells rs.mColumns values,
    (cell.translated ctx.deref stmt.ard rs.mTranslator).thrown = none
  stored : ∀ c column b data, rs.getColumn c = some column → column.binding = some b →
    values[c - 1]? = some data → ∃ pre post, out.writes = pre ++
      (column.setData ctx.deref stmt.ard rs.mTranslator (c - 1) data b none).writes ++ post
  read : ∀ c column data, rs.getColumn c = some column → values[c - 1]? = some data →
    ∀ deref ard b info, rs.getData deref ard c b info =
      .ok (column.setData deref ard rs.mTranslator (c - 1) data b (some info))

/-- The fetch has delivered a row to the fields. -/
def RowDelivered (fields : List Str) (ctx : CallContext) (stmt : RetsSTMT) (out : StmtOut) : Prop :=
  ∃ rs getString values, HandsOver fields ctx stmt out rs getString values

variable {ctx : CallContext} {stmt stmt' : RetsSTMT} {fields : List Str}

/-- **A step keeps the names of the columns** unless it installs a new query. -/
theorem StmtStep.streamsFields {call : StmtCall} (hstep : StmtStep ctx call stmt stmt')
    (h : StreamsFields fields stmt.mQuery) (hinstalls : call.installs ctx = false) :
    StreamsFields fields stmt'.mQuery := by
  refine ⟨hstep.wellFormed h.wellFormed, ?_⟩
  obtain ⟨rs, hrs, htype, hnames⟩ := h.names
  cases hstep with
  | keep hq _ => exact ⟨rs, hq ▸ hrs, htype, hnames⟩
  | stream hq _ => exact ⟨rs, hq ▸ hrs, htype, hnames⟩
  | rows hrs' ht hq =>
    rw [hrs] at hrs'
    cases hrs'
    exact ⟨_, congrArg Query.mResultSet hq, ht.trans htype, hnames⟩
  | bind _ hrs' hbind hq =>
    rw [hrs] at hrs'
    cases hrs'
    rename_i c _ _ _
    obtain ⟨column, hcolumn, rfl⟩ := Option.map_eq_some_iff.mp hbind
    refine ⟨_, congrArg Query.mResultSet hq, htype, ?_⟩
    obtain ⟨-, hget⟩ := ResultSet.getColumn_eq_some hcolumn
    obtain ⟨hlt, rfl⟩ := List.getElem?_eq_some_iff.mp hget
    have hlt' : c - 1 < (rs.mColumns.map (·.mName)).length := by simpa using hlt
    have hself := List.set_getElem_self hlt'
    rw [List.getElem_map] at hself
    rw [← hnames, List.map_set]
    exact hself
  | unbind _ hrs' hq =>
    rw [hrs] at hrs'
    cases hrs'
    refine ⟨_, congrArg Query.mResultSet hq, htype, ?_⟩
    rw [← hnames]
    exact List.map_map
  | install hinst =>
    rw [hinst] at hinstalls
    cases hinstalls

theorem run_streamsFields {calls : List (CallContext × StmtCall)}
    (h : StreamsFields fields stmt.mQuery) (hrun : run calls stmt = .ok stmt')
    (hinstalls : ∀ p ∈ calls, p.2.installs p.1 = false) :
    StreamsFields fields stmt'.mQuery := by
  have hmeets : Meets step (fun p _ => p.2.installs p.1 = false) calls stmt :=
    Meets.of_forall (fun p hp _ => hinstalls p hp) stmt
  refine hmeets.invariant (I := fun s => StreamsFields fields s.mQuery) ?_ h hrun
  intro p _ s s' hp hs hstep
  obtain ⟨returned, hcall, rfl⟩ := map_eq_ok.mp hstep
  exact (call_step hs.wellFormed hcall).streamsFields hs hp

/-- The rows of a streaming result set are replies. -/
theorem RowSource.advance_onDemand {rows rows' : RowSource} {row : RowData}
    (htype : rows.type = .onDemand) (h : rows.advance = .ok (row, rows')) :
    ∃ getString, row = .search getString := by
  cases rows with
  | bulk rs => cases htype
  | onDemand results =>
    cases results with
    | none => cases h
    | some results =>
      cases h
      exact ⟨_, rfl⟩
  | onDemandObject pending map => cases htype

/-- **A fetch that succeeds delivers the fields.** -/
theorem StreamsFields.rowDelivered {out : StmtOut} (h : StreamsFields fields stmt.mQuery)
    (hfetch : stmt.sqlFetch ctx = .ok out) (hsuccess : out.result = .ok .success) :
    RowDelivered fields ctx stmt out := by
  obtain ⟨rs, row, rs', hrs, hmove, hfetched⟩ := sqlFetch_success hfetch hsuccess
  obtain ⟨rs₀, hrs₀, htype, hnames⟩ := h.names
  rw [hrs] at hrs₀
  cases hrs₀
  have hnames' : rs'.mColumns.map (·.mName) = fields := by
    rw [hmove.mColumns]
    exact hnames
  have hcurrent := hmove.current
  obtain ⟨-, rows, rows', hnext, hadvance, rfl⟩ := hmove
  have htype' : rows.type = .onDemand := by
    have hkept := rs.rows.hasNext_type
    rw [hnext] at hkept
    exact hkept.trans htype
  obtain ⟨getString, rfl⟩ := RowSource.advance_onDemand htype' hadvance
  obtain ⟨values, hcells, hall⟩ := columnCells_eq_zip hfetched.readable
  have hreplies : List.Forall₂ (IsReply getString) fields values := by
    rw [← hnames']
    exact hall.imp fun _ _ => text_search_eq_ok_iff.mp
  have hsent : ((RowData.search getString).cells rs.mColumns).cells = rs.mColumns.zip values := hcells
  have hthrows := hfetched.sent
  obtain ⟨hstores, hthrown⟩ := setCells_bulk ctx.deref stmt.ard rs.mTranslator rs.mColumns values
  obtain ⟨status, hstatus, hwrites⟩ := hfetched.writes
  refine ⟨_, getString, values, congrArg Query.mResultSet hfetched.mQuery, hnames', hcurrent,
    hreplies, ⟨status, hstatus, ?_⟩, ?_, ?_, ?_⟩
  · rw [hwrites, hsent, ← hstores]
  · rw [hsent, hthrown] at hthrows
    exact List.findSome?_eq_none_iff.mp hthrows
  · intro c column b data hcolumn hb hdata
    obtain ⟨-, hget⟩ := ResultSet.getColumn_eq_some hcolumn
    have hcell : ((RowData.search getString).cells rs.mColumns).cells[c - 1]? =
        some (column, data) := by
      rw [hsent]
      exact List.getElem?_zip_eq_some.mpr ⟨hget, hdata⟩
    obtain ⟨pre, post, hstore, -⟩ := setCells_split hthrows hcell
    refine ⟨pre, post ++ status, ?_⟩
    rw [hwrites, hstore]
    simp only [cellData, hb, Nat.zero_add, List.append_assoc]
  · intro c column data hcolumn hdata deref ard b info
    obtain ⟨-, hget⟩ := ResultSet.getColumn_eq_some hcolumn
    have hname : fields[c - 1]? = some column.mName := by
      rw [← hnames', List.getElem?_map, hget]
      rfl
    obtain ⟨hf, hname⟩ := List.getElem?_eq_some_iff.mp hname
    obtain ⟨hv, hdata⟩ := List.getElem?_eq_some_iff.mp hdata
    have hreply : IsReply getString column.mName data := by
      rw [← hname, ← hdata]
      exact hreplies.get hf hv
    unfold ResultSet.getData
    rw [hcolumn, hcurrent]
    simp only [Except.map, text_search_eq_ok_iff.mpr hreply]

end RetsSTMT

/-! ## Select lists -/

namespace OnDemandDataQuery

variable {conn : Connection} {v : MetadataView} {clazz : MetadataClass} {useCompactFormat : Bool}
variable {q : DmqlQuery} {fields : List Str}

/-- Every successful fetch on a statement that holds the query delivers the fields, whatever was
called since, until another query is installed. -/
def Delivers (fields : List Str) (query : Query) : Prop :=
  ∀ stmt calls stmt' ctx out, stmt.mQuery = query → RetsSTMT.run calls stmt = .ok stmt' →
    (∀ p ∈ calls, StmtCall.installs p.1 p.2 = false) → stmt'.sqlFetch ctx = .ok out →
    out.result = .ok .success → RetsSTMT.RowDelivered fields ctx stmt' out

/-- What becomes of the select list `fields` of a query `q` on the class. -/
structure SelectsColumns (conn : Connection) (v : MetadataView) (clazz : MetadataClass)
    (useCompactFormat : Bool) (q : DmqlQuery) (fields : List Str) : Prop where
  unknown : (∃ f ∈ fields, ¬ IsColumn v clazz f) → ∃ f ∈ fields, ¬ IsColumn v clazz f ∧
    prepareResultSet conn useCompactFormat q = .ok (.error (unknownColumn f))
  known : (∀ f ∈ fields, IsColumn v clazz f) → ∃ rs,
    prepareResultSet conn useCompactFormat q = .ok (.ok rs) ∧
      List.Forall₂ (IsColumnOf v clazz useCompactFormat) fields rs.mColumns ∧
      rs.mColumns.map (·.mName) = fields ∧
      Delivers fields ⟨.onDemandData useCompactFormat q, some rs⟩

/-- **A select list becomes exactly those columns.** -/
theorem selectsColumns (hview : conn.getMetadataView = some v)
    (hmode : v.mStandardNames = conn.mDataSource.bool .standardNames)
    (hclass : v.getClass q.getResource q.getClass = some clazz)
    (hfields : q.getFields = some fields) (hne : fields ≠ []) :
    SelectsColumns conn v clazz useCompactFormat q fields := by
  have hprepare := @prepareResultSet_of_getClass conn v clazz useCompactFormat q hview hclass
  have hrequested : requestedTables v clazz (q.getFields.getD []) =
      selectTables v clazz fields := by
    rw [hfields]
    exact if_neg (by simpa using hne)
  rw [hrequested] at hprepare
  constructor
  · intro hunknown
    obtain ⟨f, hf, hcolumn, herror⟩ := selectTables_of_not_isColumn hunknown
    refine ⟨f, hf, hcolumn, ?_⟩
    rw [hprepare, herror]
    rfl
  · intro hknown
    obtain ⟨tables, htables, hall⟩ := selectTables_of_isColumn hknown
    have hcolumns := @columns_of_selected conn v clazz useCompactFormat fields hmode tables hall
    have hnames := names_of_isColumnOf hcolumns
    rw [htables] at hprepare
    refine ⟨_, hprepare, hcolumns, hnames, ?_⟩
    intro stmt calls stmt' ctx out hquery hrun hinstalls hfetch hsuccess
    have hstreams : RetsSTMT.StreamsFields fields stmt.mQuery := by
      rw [hquery]
      exact ⟨rfl, _, rfl, rfl, hnames⟩
    exact (RetsSTMT.run_streamsFields hstreams hrun hinstalls).rowDelivered hfetch hsuccess

open ColumnMetadataQuery in
/-- The list `ListPrice, ListPrice` of a class with that column. -/
theorem selectsColumns_listPrice :
    SelectsColumns (viewing (propertyView [residential] (by decide)))
      (propertyView [residential] (by decide)) residential false
      ⟨"Property".toList, "RES".toList, some ["ListPrice".toList, "ListPrice".toList], none, 0, 0,
        false⟩ ["ListPrice".toList, "ListPrice".toList] :=
  selectsColumns rfl rfl rfl rfl (by decide)

end OnDemandDataQuery

end EzRets
