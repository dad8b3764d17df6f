import EzRets.ColumnDescriptions

/-!
# EzRets.CatalogRows — the rows of the catalog functions and the types of their columns

Every bulk query declares its columns in one place and fills its rows, text by text, in another.
The rows have as many values as there are columns, and the values are texts or small constants, but
for the numbers that come from the metadata: the precision of a decimal column may be out of the
range of the type that it is declared with.
-/

namespace EzRets

open FaultRun

/-! ## Conversions -/

namespace TranslationWorker

theorem thrown_translateCharacter {data : Str} {t : Target}
    (h : ∀ info, t.streamInfo = some info → info.offset ≤ data.length) :
    (translateCharacter data t).thrown = none := by
  unfold translateCharacter
  split_ifs
  · rfl
  · rcases hinfo : t.streamInfo with _ | info
    · rfl
    · dsimp only
      unfold copyFrom
      rw [if_pos (h info hinfo)]
      split_ifs <;> rfl

/-- A cast fails where there is a value that is no number of the type. -/
theorem thrown_storeCast {α : Type} {data : Str} {t : Target} {value : Option α}
    {toValue : α → CValue} {size : Int} :
    (if isBlank data then t.null else t.storeCast value toValue size).thrown = none ↔
      isBlank data = true ∨ value.isSome = true := by
  split_ifs with hblank
  · exact iff_of_true rfl (.inl hblank)
  · rcases value with _ | v
    · exact iff_of_false (fun h => by cases h) fun h => by simp [hblank] at h
    · exact iff_of_true rfl (.inr rfl)

end TranslationWorker

/-- The text is converted to the type without an error, by a fetch and by every read of it. -/
def Converts (dt : DataTranslator) (data : Str) (type : Int) : Prop :=
  ∀ t : Target, (∀ info, t.streamInfo = some info → info.offset ≤ data.length) →
    (dt.translate data type t).thrown = none

namespace Converts

variable {dt : DataTranslator} {decimalAsString : Bool} {data : Str} {type : Int}

/-- A conversion fails where the worker of the type does. -/
theorem worker_iff {dt : DataTranslator} {worker : TranslationWorker}
    (h : dt.worker type = some worker) :
    Converts dt data type ↔
      ∀ t : Target, (∀ info, t.streamInfo = some info → info.offset ≤ data.length) →
        (worker.translate data t).thrown = none :=
  forall₂_congr fun t _ => (DataTranslator.serves_translate h data t).thrown_eq_none_iff

/-- A number type, with the width of its worker. -/
theorem cast_iff {worker : TranslationWorker} {bits : Nat} {toValue : Int → CValue} {size : Int}
    (hworker : DataTranslator.odbc2Trans decimalAsString type = some worker)
    (hcast : ∀ t, worker.translate data t =
      if isBlank data then t.null else t.storeCast (lexicalCastSigned bits data) toValue size) :
    Converts (.native decimalAsString) data type ↔
      isBlank data = true ∨ (lexicalCastSigned bits data).isSome = true := by
  have hworker' : (DataTranslator.native decimalAsString).worker type = some worker := hworker
  rw [worker_iff hworker']
  constructor
  · intro h
    have hthrown := h ⟨0, 0, 0, none⟩ (fun info hinfo => by cases hinfo)
    rw [hcast] at hthrown
    exact TranslationWorker.thrown_storeCast.mp hthrown
  · intro h t _
    rw [hcast]
    exact TranslationWorker.thrown_storeCast.mpr h

theorem smallint_iff : Converts (.native decimalAsString) data sqlSmallint ↔
    isBlank data = true ∨ (lexicalCastSigned 16 data).isSome = true := by
  have hworker : DataTranslator.odbc2Trans decimalAsString sqlSmallint = some .smallInt := by
    rcases decimalAsString <;> rfl
  exact cast_iff hworker fun t => rfl

theorem integer_iff : Converts (.native decimalAsString) data sqlInteger ↔
    isBlank data = true ∨ (lexicalCastSigned 32 data).isSome = true := by
  have hworker : DataTranslator.odbc2Trans decimalAsString sqlInteger = some .int := by
    rcases decimalAsString <;> rfl
  exact cast_iff hworker fun t => rfl

/-- An integer is converted to the type that holds it. -/
theorem smallint_intText_iff {n : Int} :
    Converts (.native decimalAsString) (intText n) sqlSmallint ↔ -2 ^ 15 ≤ n ∧ n < 2 ^ 15 := by
  rw [smallint_iff, isBlank_intText, lexicalCastSigned_intText]
  simp

theorem character (h : dt.worker type = some .character) (data : Str) : Converts dt data type :=
  (worker_iff h).mpr fun _ => TranslationWorker.thrown_translateCharacter

/-- Text is always converted to text. -/
theorem text (dt : DataTranslator) (data : Str) (h : type = sqlVarchar ∨ type = sqlChar) :
    Converts dt data type :=
  character (dt.worker_character h.symm) data

/-- So is it to the number types where types do not count. -/
theorem charOnly (data : Str) (h : type = sqlSmallint ∨ type = sqlInteger) :
    Converts .charOnly data type := by
  have hworker : DataTranslator.charOnly.worker type = some .character := by
    rcases h with rfl | rfl <;> rfl
  exact character hworker data

/-- An empty value is an SQL `NULL` of any type of the catalog. -/
theorem nil (dt : DataTranslator)
    (h : type = sqlVarchar ∨ type = sqlChar ∨ type = sqlSmallint ∨ type = sqlInteger) :
    Converts dt [] type := by
  rcases h with rfl | rfl | h
  · exact text dt [] (.inl rfl)
  · exact text dt [] (.inr rfl)
  · rcases dt with decimalAsString | _
    · rcases h with rfl | rfl
      · exact smallint_iff.mpr (.inl rfl)
      · exact integer_iff.mpr (.inl rfl)
    · exact charOnly [] h

end Converts

/-! ## Rows -/

/-- A value that is not empty is converted to the type of its column. -/
def CellFits (dt : DataTranslator) (column : Column) (data : Str) : Prop :=
  data ≠ [] → Converts dt data (column.getDataType dt)

/-- The row has a value for every column, and the values fit. -/
structure RowFits (rs : ResultSet) (row : List Str) : Prop where
  length : row.length = rs.mColumns.length
  cells : ∀ cell ∈ rs.mColumns.zip row, CellFits rs.mTranslator cell.1 cell.2

/-- The columns of `bound` are those of `rs`, each unbound or bound with the default type. -/
structure DefaultBound (rs bound : ResultSet) : Prop where
  translator : bound.mTranslator = rs.mTranslator
  kinds : bound.mColumns.map Column.kind = rs.mColumns.map Column.kind
  default : ∀ column ∈ bound.mColumns, ∀ b, column.binding = some b → b.targetType = sqlCDefault

/-- Wherever the columns are bound with the default type, a fetch of the row does not fail. -/
def FetchesByDefault (rs : ResultSet) (row : List Str) : Prop :=
  ∀ (deref : Deref) (ard : AppRowDesc) (bound : ResultSet) (rows : RowSource)
    (out : ResultSet.Processed), DefaultBound rs bound →
      bound.rows.advance = .ok (.bulk row, rows) → bound.processNextRow deref ard = .ok out →
        out.thrown = none

/-- The columns of a catalog: texts, small integers and integers. -/
def Column.isCatalog (column : Column) : Bool :=
  match column.kind with
  | .faux type _ => type = sqlVarchar || type = sqlChar || type = sqlSmallint || type = sqlInteger
  | .rets _ _ _ => false

theorem Column.isCatalog_iff {column : Column} :
    column.isCatalog = true ↔ ∃ type length, column.kind = .faux type length ∧
      (type = sqlVarchar ∨ type = sqlChar ∨ type = sqlSmallint ∨ type = sqlInteger) := by
  unfold isCatalog
  rcases column.kind with ⟨type, length⟩ | ⟨v, table, useCompactFormat⟩
  · simp [or_assoc]
  · simp

theorem rowFits_iff {rs : ResultSet} {row : List Str} :
    RowFits rs row ↔ List.Forall₂ (CellFits rs.mTranslator) rs.mColumns row := by
  rw [List.forall₂_iff_zip]
  constructor
  · rintro ⟨hlength, hcells⟩
    exact ⟨hlength.symm, fun hcell => hcells _ hcell⟩
  · rintro ⟨hlength, hcells⟩
    exact ⟨hlength.symm, fun cell hcell => hcells hcell⟩

/-- Only the kinds of the columns count. -/
theorem RowFits.congr {rs bound : ResultSet} {row : List Str} (h : RowFits rs row)
    (hbound : DefaultBound rs bound) : RowFits bound row := by
  have hkinds : ∀ (dt : DataTranslator) (columns : List Column),
      List.Forall₂ (CellFits dt) columns row ↔
        List.Forall₂ (fun kind data => CellFits dt ⟨[], kind, none⟩ data)
          (columns.map Column.kind) row := by
    intro dt columns
    rw [List.forall₂_map_left_iff]
    rfl
  rw [rowFits_iff, hkinds] at h ⊢
  rw [hbound.translator, hbound.kinds]
  exact h

/-- **A row that fits is fetched** into bindings of the default type. -/
theorem RowFits.fetches {rs : ResultSet} {row : List Str} (h : RowFits rs row)
    (hcatalog : ∀ column ∈ rs.mColumns, column.isCatalog = true) : FetchesByDefault rs row := by
  intro deref ard bound rows out hbound hadvance hout
  have hfits := h.congr hbound
  have hkinds : ∀ column ∈ bound.mColumns, ∃ type length, column.kind = .faux type length ∧
      (type = sqlVarchar ∨ type = sqlChar ∨ type = sqlSmallint ∨ type = sqlInteger) := by
    intro column hcolumn
    have hkind : column.kind ∈ rs.mColumns.map Column.kind := by
      rw [← hbound.kinds]
      exact List.mem_map_of_mem hcolumn
    obtain ⟨column', hcolumn', hsame⟩ := List.mem_map.mp hkind
    have htype := Column.isCatalog_iff.mp (hcatalog column' hcolumn')
    rw [hsame] at htype
    exact htype
  have hcells : ∀ cell ∈ bound.mColumns.zip row, ∀ count,
      (cellData deref ard bound.mTranslator count cell).thrown = none := by
    rintro ⟨column, data⟩ hcell count
    obtain ⟨type, length, hkind, htype⟩ := hkinds column (List.of_mem_zip hcell).1
    have hdataType : column.getDataType bound.mTranslator = type := by
      unfold Column.getDataType
      rw [hkind]
    have hconverts : Converts bound.mTranslator data type := by
      by_cases hdata : data = []
      · rw [hdata]
        exact Converts.nil _ htype
      · rw [← hdataType]
        exact hfits.cells _ hcell hdata
    unfold cellData
    dsimp only
    rcases hbinding : column.binding with _ | b
    · rfl
    · have hdefault := hbound.default column (List.of_mem_zip hcell).1 b hbinding
      have hbest : column.getBestSqlType bound.mTranslator b.targetType = type := by
        unfold Column.getBestSqlType
        rw [hdefault, if_pos (.inr rfl), hkind]
      have hmodify : column.modifyData data = data := by
        unfold Column.modifyData
        rw [hkind]
      dsimp only
      unfold Column.setData
      rw [hbest, hmodify]
      exact hconverts _ fun info hinfo => by cases hinfo
  rw [ResultSet.processNextRow_of_advance deref ard hadvance] at hout
  obtain rfl := Except.ok.inj hout
  have hthrown : (setCells deref ard bound.mTranslator 0 (bound.mColumns.zip row)).2 = none :=
    setCells_thrown fun j cell hcell => hcells cell (List.mem_of_getElem? hcell) (0 + j)
  show ((setCells deref ard bound.mTranslator 0 (bound.mColumns.zip row)).2.or
    (if row.length ≤ bound.mColumns.length then none else some .outOfRange)) = none
  rw [hthrown, if_pos (Nat.le_of_eq hfits.length)]
  rfl

/-! ### Cells -/

namespace CellFits

variable {dt : DataTranslator} {data : Str}

theorem nil (column : Column) : CellFits dt column [] := fun h => absurd rfl h

theorem text (name : String) (data : Str) : CellFits dt (.faux name sqlVarchar) data :=
  fun _ => Converts.text dt data (.inl rfl)

theorem smallint (name : String) (h : (lexicalCastSigned 16 data).isSome = true) :
    CellFits dt (.faux name sqlSmallint) data := by
  intro _
  rcases dt with decimalAsString | _
  · exact Converts.smallint_iff.mpr (.inr h)
  · exact Converts.charOnly data (.inl rfl)

theorem integer (name : String) (h : (lexicalCastSigned 32 data).isSome = true) :
    CellFits dt (.faux name sqlInteger) data := by
  intro _
  rcases dt with decimalAsString | _
  · exact Converts.integer_iff.mpr (.inr h)
  · exact Converts.charOnly data (.inr rfl)

theorem smallint_intText (name : String) {n : Int} (h : -2 ^ 15 ≤ n ∧ n < 2 ^ 15) :
    CellFits dt (.faux name sqlSmallint) (intText n) := by
  refine smallint name ?_
  rw [lexicalCastSigned_intText, if_pos h]
  rfl

theorem integer_intText (name : String) {n : Int} (h : -2 ^ 31 ≤ n ∧ n < 2 ^ 31) :
    CellFits dt (.faux name sqlInteger) (intText n) := by
  refine integer name ?_
  rw [lexicalCastSigned_intText, if_pos h]
  rfl

/-- Where types count the number has to be in the range of the type. -/
theorem smallint_intText_iff {decimalAsString : Bool} (name : String) {n : Int} :
    CellFits (.native decimalAsString) (.faux name sqlSmallint) (intText n) ↔
      -2 ^ 15 ≤ n ∧ n < 2 ^ 15 :=
  (forall_prop_of_true (intText_ne_nil n)).trans Converts.smallint_intText_iff

end CellFits

/-! ### Type codes and lengths -/

theorem toSqlInteger_inRange (n : Int) : -2 ^ 31 ≤ toSqlInteger n ∧ toSqlInteger n < 2 ^ 31 := by
  have hw : ((2 ^ 32 : Nat) : Int) = 4294967296 := by norm_num
  unfold toSqlInteger
  rw [Int.bmod_def, hw]
  split_ifs <;> omega

namespace DataTranslator

theorem getPreferedOdbcType_inRange (dt : DataTranslator) (type : RetsType) :
    -7 ≤ dt.getPreferedOdbcType type ∧ dt.getPreferedOdbcType type ≤ 93 := by
  rcases dt with decimalAsString | _
  · rcases decimalAsString <;> rcases type <;> decide
  · show -7 ≤ sqlVarchar ∧ sqlVarchar ≤ 93
    decide

theorem workerLength_inRange (worker : TranslationWorker) :
    -1 ≤ worker.getOdbcTypeLength ∧ worker.getOdbcTypeLength ≤ 19 := by
  rcases worker <;> decide

theorem getOdbcTypeLength_inRange (dt : DataTranslator) (type : Int) :
    -2 ^ 31 ≤ dt.getOdbcTypeLength type ∧ dt.getOdbcTypeLength type < 2 ^ 31 := by
  have hlength : -1 ≤ dt.getOdbcTypeLength type ∧ dt.getOdbcTypeLength type ≤ 19 := by
    rcases dt with decimalAsString | _
    · unfold getOdbcTypeLength
      dsimp only
      rcases odbc2Trans decimalAsString type with _ | worker
      · decide
      · exact workerLength_inRange worker
    · exact workerLength_inRange _
  omega

/-- Only a decimal column has one of the types whose precision is shown. -/
theorem factory_decimal_iff (d : DataSource) (type : RetsType) :
    ((factory d).getPreferedOdbcType type = sqlDecimal ∨
        (factory d).getPreferedOdbcType type = sqlDouble) ↔
      type = .decimal ∧ d.bool .ignoreMetadataType = false ∧
        d.bool .treatDecimalAsString = false := by
  rw [Column.getPreferedOdbcType_factory]
  rcases d.bool .ignoreMetadataType <;> rcases d.bool .treatDecimalAsString <;> rcases type <;>
    decide

theorem factory_ne_char (d : DataSource) (type : RetsType) :
    (factory d).getPreferedOdbcType type ≠ sqlChar := by
  rw [Column.getPreferedOdbcType_factory]
  rcases d.bool .ignoreMetadataType <;> rcases d.bool .treatDecimalAsString <;> rcases type <;>
    decide

end DataTranslator

/-! ## The rows of the queries -/

/-- The numbers that librets returns as `int`. -/
structure Connection.InRange (conn : Connection) : Prop where
  tables : ∀ v, conn.getMetadataView = some v →
    ∀ clazz, ∀ table ∈ v.mMetadata.getAllTables clazz, table.InRange
  count : ∀ session, conn.getRetsSession = some session → ∀ request results,
    session.search request = .ok results → -2 ^ 31 ≤ results.getCount ∧ results.getCount < 2 ^ 31

/-- The precision of a column that is described as a decimal is a small integer, from `lower` on. -/
def DigitsFit (lower : Int) (d : DataSource) (table : MetadataTable) : Prop :=
  table.dataType = .decimal → d.bool .ignoreMetadataType = false →
    d.bool .treatDecimalAsString = false → lower ≤ table.precision ∧ table.precision < 2 ^ 15

/-- The types of the metadata are described by small integers. -/
theorem CellFits.typeCode {dt : DataTranslator} (name : String) (dt' : DataTranslator)
    (type : RetsType) :
    CellFits dt (.faux name sqlSmallint) (intText (dt'.getPreferedOdbcType type)) := by
  have htype := dt'.getPreferedOdbcType_inRange type
  exact CellFits.smallint_intText name (by omega)

theorem MetadataView.mem_of_getTableBy {v : MetadataView} {clazz : MetadataClass} {name : Str}
    {stdNames : Bool} {table : MetadataTable} (h : v.getTableBy clazz name stdNames = some table) :
    table ∈ v.mMetadata.getAllTables clazz := by
  unfold MetadataView.getTableBy at h
  dsimp only at h
  split_ifs at h
  · exact (LastWins.index_eq_some_iff.mp h).2.2.mem
  · exact (LastWins.index_eq_some_iff.mp h).2.2.mem

namespace ColumnMetadataQuery

variable {conn : Connection} {table : MetadataTable}

/-- The cell `DECIMAL_DIGITS`. -/
theorem precision_fits_iff {column : Column} {d : DataSource} {v : MetadataView}
    {useCompactFormat : Bool} (hkind : column.kind = .rets v table useCompactFormat)
    (hrange : table.InRange) (name : String) :
    CellFits (.factory d) (.faux name sqlSmallint) (intText (column.getPrecision (.factory d))) ↔
      DigitsFit 0 d table := by
  have hdecimal := DataTranslator.factory_decimal_iff d table.dataType
  have hprecision := hrange.precision
  unfold Column.getPrecision
  rw [hkind]
  dsimp only
  by_cases h : table.dataType = .decimal ∧ d.bool .ignoreMetadataType = false ∧
      d.bool .treatDecimalAsString = false
  · have hnative : DataTranslator.factory d = .native false := by
      unfold DataTranslator.factory
      rw [h.2.1, h.2.2]
      rfl
    rw [if_pos (hdecimal.mpr h), hnative, CellFits.smallint_intText_iff]
    have hsize : (-2 ^ 15 ≤ (toSize table.precision : Int) ∧
        (toSize table.precision : Int) < 2 ^ 15) ↔
          0 ≤ table.precision ∧ table.precision < 2 ^ 15 := by
      unfold toSize
      omega
    rw [hsize]
    exact ⟨fun hfits _ _ _ => hfits, fun hfits => hfits h.1 h.2.1 h.2.2⟩
  · rw [if_neg (mt hdecimal.mp h)]
    refine iff_of_true ?_ fun htype hignore hstring => absurd ⟨htype, hignore, hstring⟩ h
    split_ifs
    · exact CellFits.smallint_intText name (by norm_num)
    · exact CellFits.smallint_intText name (by norm_num)

/-- **A row of `SQLColumns` fits** exactly when the precision that it shows does. -/
theorem row_fits_iff (hrange : table.InRange) (v : MetadataView) (sqlTableName colName : Str) :
    RowFits (bulkResultSet (.factory conn.mDataSource) columns)
        (row conn v sqlTableName colName table) ↔ DigitsFit 0 conn.mDataSource table := by
  have hprecision := @precision_fits_iff table
    ⟨colName, .rets v table (conn.mDataSource.bool .useCompactFormat), none⟩ conn.mDataSource v _
    rfl hrange "DECIMAL_DIGITS"
  rw [← hprecision]
  constructor
  · intro h
    exact h.cells _ (List.mem_of_getElem? (i := 8) rfl)
  · intro h
    have htype : ∀ name, CellFits (.factory conn.mDataSource) (.faux name sqlSmallint)
        (intText (Column.getDataType (.factory conn.mDataSource)
          ⟨colName, .rets v table (conn.mDataSource.bool .useCompactFormat), none⟩)) := by
      intro name
      unfold Column.getDataType
      dsimp only
      split_ifs
      · exact CellFits.smallint_intText name (by decide)
      · exact CellFits.typeCode name _ _
    refine rowFits_iff.mpr ?_
    refine .cons (.nil _) <| .cons (.nil _) <| .cons (.text _ _) <| .cons (.text _ _) <|
      .cons (htype _) <| .cons (.text _ _) <|
      .cons (.integer_intText _ (toSqlInteger_inRange _)) <| .cons ?_ <| .cons h <| .cons ?_ <|
      .cons (.smallint _ (by decide)) <| .cons (.text _ _) <| .cons (.nil _) <| .cons ?_ <|
      .cons (.nil _) <| .cons ?_ <| .cons (.integer _ (by decide)) <| .cons (.text _ _) .nil
    · split_ifs
      · exact .integer_intText _ (toSqlInteger_inRange _)
      · exact .integer_intText _ (DataTranslator.getOdbcTypeLength_inRange _ _)
    · split_ifs
      · exact .smallint _ (by decide)
      · exact .nil _
    · split_ifs
      · exact .smallint_intText _ (by decide)
      · exact htype _
    · rw [if_neg]
      · exact .nil _
      · show Column.getDataType _ _ ≠ sqlChar
        unfold Column.getDataType
        dsimp only
        split_ifs
        · decide
        · exact DataTranslator.factory_ne_char _ _

theorem mem_getAllTables_of_candidate {v : MetadataView} {mColumn : Str} {clazz : MetadataClass}
    (h : table ∈ candidates v mColumn clazz) : table ∈ v.mMetadata.getAllTables clazz := by
  unfold candidates at h
  split_ifs at h
  · exact h
  · exact MetadataView.mem_of_getTableBy (Option.mem_toList.mp h)

/-- **The rows of `SQLColumns` fit** exactly when the precisions of the listed columns do. -/
theorem execute_fits_iff (hrange : conn.InRange) {mTable mColumn : Str} {out : Execution}
    (h : execute conn mTable mColumn = .ok out) :
    (∀ row ∈ out.rows, RowFits (bulkResultSet (.factory conn.mDataSource) columns) row) ↔
      ∀ v rcp table, conn.getMetadataView = some v →
        IsListed conn v mTable mColumn rcp table → DigitsFit 0 conn.mDataSource table := by
  have hfits : ∀ {v rcp table}, conn.getMetadataView = some v →
      IsListed conn v mTable mColumn rcp table → table.InRange := by
    intro v rcp table hview hlisted
    exact hrange.tables v hview rcp.2 table (mem_getAllTables_of_candidate hlisted.candidate)
  constructor
  · intro hrows v rcp table hview hlisted
    have hrow := hrows _ ((mem_rows_iff h).mpr ⟨v, rcp, table, hview, hlisted, rfl⟩)
    exact (row_fits_iff (hfits hview hlisted) v _ _).mp hrow
  · intro hdigits row hrow
    obtain ⟨v, rcp, table, hview, hlisted, rfl⟩ := (mem_rows_iff h).mp hrow
    exact (row_fits_iff (hfits hview hlisted) v _ _).mpr (hdigits v rcp table hview hlisted)

end ColumnMetadataQuery

namespace SpecialColumnsMetadataQuery

variable {conn : Connection} {table : MetadataTable}

/-- The translator of this result set takes no notice of the settings. -/
theorem row_fits_iff (hrange : table.InRange) :
    RowFits (bulkResultSet .default columns) (row conn table) ↔
      DigitsFit (-2 ^ 15) conn.mDataSource table := by
  have hdecimal := DataTranslator.factory_decimal_iff conn.mDataSource table.dataType
  have hdigits : CellFits .default (.faux "DECIMAL_DIGITS" sqlSmallint)
      (if (DataTranslator.factory conn.mDataSource).getPreferedOdbcType table.dataType =
            sqlDecimal ∨
          (DataTranslator.factory conn.mDataSource).getPreferedOdbcType table.dataType = sqlDouble
        then intText table.precision
        else if (DataTranslator.factory conn.mDataSource).getPreferedOdbcType table.dataType =
          sqlTypeTimestamp then "3".toList
        else []) ↔ DigitsFit (-2 ^ 15) conn.mDataSource table := by
    by_cases h : table.dataType = .decimal ∧ conn.mDataSource.bool .ignoreMetadataType = false ∧
        conn.mDataSource.bool .treatDecimalAsString = false
    · rw [if_pos (hdecimal.mpr h)]
      refine CellFits.smallint_intText_iff _ |>.trans ?_
      exact ⟨fun hfits _ _ _ => hfits, fun hfits => hfits h.1 h.2.1 h.2.2⟩
    · rw [if_neg (mt hdecimal.mp h)]
      refine iff_of_true ?_ fun htype hignore hstring => absurd ⟨htype, hignore, hstring⟩ h
      split_ifs
      · exact .smallint _ (by decide)
      · exact .nil _
  rw [← hdigits]
  constructor
  · intro h
    exact h.cells _ (List.mem_of_getElem? (i := 6) rfl)
  · intro h
    refine rowFits_iff.mpr ?_
    refine .cons (.smallint _ (by decide)) <| .cons (.text _ _) <| .cons (.typeCode _ _ _) <|
      .cons (.text _ _) <| .cons (.integer_intText _ hrange.maximumLength) <| .cons ?_ <|
      .cons h <| .cons (.smallint _ (by decide)) .nil
    split_ifs
    · exact .integer_intText _ hrange.maximumLength
    · exact .integer_intText _ (DataTranslator.getOdbcTypeLength_inRange _ _)

/-- A row is asked for: there is none without nulls, for more than the current row, or for row
versions. -/
def IsAsked (mIdentifierType mScope mNullable : Nat) : Prop :=
  mNullable ≠ 0 ∧ mScope = 0 ∧ mIdentifierType ≠ 2

theorem mem_getAllTables_of_keyTable {v : MetadataView} {mTable : Str}
    (h : keyTable v mTable = some table) : ∃ clazz, table ∈ v.mMetadata.getAllTables clazz := by
  obtain ⟨rcp, -, htable⟩ := Option.bind_eq_some_iff.mp h
  exact ⟨rcp.2, MetadataView.mem_of_getTableBy htable⟩

/-- **The row of `SQLSpecialColumns` fits** exactly when the precision of the key field does. -/
theorem execute_fits_iff (hrange : conn.InRange) {mIdentifierType : Nat} {mTable : Str}
    {mScope mNullable : Nat} {out : Execution}
    (h : execute conn mIdentifierType mTable mScope mNullable = .ok out) :
    (∀ row ∈ out.rows, RowFits (bulkResultSet .default columns) row) ↔
      (IsAsked mIdentifierType mScope mNullable → ∀ v table, conn.getMetadataView = some v →
        keyTable v mTable = some table → DigitsFit (-2 ^ 15) conn.mDataSource table) := by
  unfold execute at h
  by_cases hasked : IsAsked mIdentifierType mScope mNullable
  · obtain ⟨hnullable, hscope, hidentifier⟩ := id hasked
    rw [if_neg hnullable, if_neg (by omega), if_neg hidentifier] at h
    obtain ⟨v, hmetadata, h⟩ := bind_eq_ok.mp h
    obtain rfl := Except.ok.inj h
    have hview := Connection.metadata_eq_ok_iff.mp hmetadata
    have hfits : ∀ {table}, keyTable v mTable = some table → table.InRange := by
      intro table hkey
      obtain ⟨clazz, hmem⟩ := mem_getAllTables_of_keyTable hkey
      exact hrange.tables v hview clazz table hmem
    constructor
    · intro hrows _ v' table hview' hkey
      obtain rfl := Option.some.inj (hview.symm.trans hview')
      have hrow := hrows (row conn table) (List.mem_map_of_mem (Option.mem_toList.mpr hkey))
      exact (row_fits_iff (hfits hkey)).mp hrow
    · intro hdigits r hr
      obtain ⟨table, hkey, rfl⟩ := List.mem_map.mp hr
      have hkey' := Option.mem_toList.mp hkey
      exact (row_fits_iff (hfits hkey')).mpr (hdigits hasked v table hview hkey')
  · have hnone : out.rows = [] := by
      split_ifs at h with hnullable hscope hidentifier
      · obtain rfl := Except.ok.inj h
        rfl
      · obtain rfl := Except.ok.inj h
        rfl
      · obtain rfl := Except.ok.inj h
        rfl
      · exact absurd ⟨hnullable, by omega, hidentifier⟩ hasked
    rw [hnone]
    exact iff_of_true (by simp) fun h => absurd h hasked

end SpecialColumnsMetadataQuery

/-! ### Rows of texts and constants -/

theorem DataCountQuery.execute_fits {conn : Connection} (hrange : conn.InRange) {q : DmqlQuery}
    {out : Execution} (h : execute conn q = .ok out) :
    ∀ row ∈ out.rows, RowFits (bulkResultSet .default columns) row := by
  intro row hrow
  unfold execute at h
  split_ifs at h
  · obtain ⟨session, hsession, h⟩ := bind_eq_ok.mp h
    rcases hsearch : session.search (searchRequest conn q) with e | results <;> rw [hsearch] at h
    · obtain rfl := Except.ok.inj h
      cases hrow
    · obtain rfl := Except.ok.inj h
      obtain rfl := List.mem_singleton.mp hrow
      have hopen := Connection.session_eq_ok_iff.mp hsession
      have hcount := hrange.count session hopen _ _ hsearch
      exact rowFits_iff.mpr (.cons (.integer_intText _ hcount) .nil)
  · obtain rfl := Except.ok.inj h
    cases hrow

theorem EzLookupQuery.execute_fits {conn : Connection} {q : LookupQuery} {out : Execution}
    (h : execute conn q = .ok out) :
    ∀ row ∈ out.rows, RowFits (bulkResultSet .default columns) row := by
  intro row hrow
  obtain ⟨v, -, h⟩ := bind_eq_ok.mp h
  obtain ⟨ltlist, -, h⟩ := bind_eq_ok.mp h
  obtain rfl := Except.ok.inj h
  obtain ⟨lt, -, rfl⟩ := List.mem_map.mp hrow
  exact rowFits_iff.mpr (.cons (.text _ _) <| .cons (.text _ _) <| .cons (.text _ _) .nil)

theorem EzLookupColumnsQuery.execute_fits {conn : Connection} {q : LookupColumnsQuery}
    {out : Execution} (h : execute conn q = .ok out) :
    ∀ row ∈ out.rows, RowFits (bulkResultSet .default columns) row := by
  intro row hrow
  obtain ⟨v, -, h⟩ := bind_eq_ok.mp h
  rcases hclass : v.getClass q.getResource q.getClass with _ | clazz <;> rw [hclass] at h
  · cases h
  · obtain rfl := Except.ok.inj h
    obtain ⟨table, -, rfl⟩ := List.mem_map.mp hrow
    exact rowFits_iff.mpr (.cons (.text _ _) <| .cons (.text _ _) .nil)

theorem TableMetadataQuery.execute_fits {conn : Connection}
    {mCatalog mSchema mTable mTableType : Str} {out : Execution}
    (h : execute conn mCatalog mSchema mTable mTableType = .ok out) :
    ∀ row ∈ out.rows, RowFits (bulkResultSet .default columns) row := by
  intro row hrow
  obtain ⟨rows, rfl, hrows⟩ | ⟨e, rfl⟩ := execute_cases h
  · obtain ⟨a, b, c, d, e, rfl⟩ := hrows row hrow
    exact rowFits_iff.mpr (.cons (.text _ _) <| .cons (.text _ _) <| .cons (.text _ _) <|
      .cons (.text _ _) <| .cons (.text _ _) .nil)
  · exact absurd hrow List.not_mem_nil

theorem PrimaryKeysMetadataQuery.execute_fits {conn : Connection} {mTable : Str} {out : Execution}
    (h : execute conn mTable = .ok out) :
    ∀ row ∈ out.rows, RowFits (bulkResultSet .default columns) row := by
  intro row hrow
  obtain ⟨v, -, h⟩ := bind_eq_ok.mp h
  obtain rfl := Except.ok.inj h
  obtain ⟨table, -, rfl⟩ := List.mem_map.mp hrow
  exact rowFits_iff.mpr (.cons (.nil _) <| .cons (.nil _) <| .cons (.text _ _) <|
    .cons (.text _ _) <| .cons (.smallint _ (by decide)) <| .cons (.nil _) .nil)

namespace TypeInfoMetadataQuery

/-- A row fits when its type code, its radix and its attribute do. -/
theorem typeInfoRow_fits {dtype : Int} {percRadix unsignedAtt : String}
    (htype : -2 ^ 15 ≤ dtype ∧ dtype < 2 ^ 15)
    (hradix : (lexicalCastSigned 32 percRadix.toList).isSome = true)
    (hunsigned : CellFits .default (.faux "UNSIGNED_ATTRIBUTE" sqlSmallint) unsignedAtt.toList)
    (before after : String) :
    RowFits (bulkResultSet .default columns)
      (typeInfoRow dtype percRadix unsignedAtt before after) := by
  refine rowFits_iff.mpr ?_
  refine .cons (.text _ _) <| .cons (.smallint_intText _ htype) <| .cons ?_ <| .cons (.text _ _) <|
    .cons (.text _ _) <| .cons (.nil _) <| .cons (.smallint _ (by decide)) <|
    .cons (.smallint _ (by decide)) <| .cons (.smallint _ (by decide)) <| .cons hunsigned <|
    .cons (.smallint _ (by decide)) <| .cons (.nil _) <| .cons (.nil _) <| .cons (.nil _) <|
    .cons (.nil _) <| .cons ?_ <| .cons ?_ <| .cons (.integer _ hradix) <| .cons (.nil _) .nil
  · split_ifs
    · exact .integer _ (by decide)
    · exact .integer_intText _ (DataTranslator.getOdbcTypeLength_inRange _ _)
  · split_ifs
    · exact .smallint_intText _ (by decide)
    · exact .smallint_intText _ htype
  · split_ifs
    · exact .smallint_intText _ htype
    · exact .nil _

theorem execute_fits (mDataType : Int) (stored : Nat) :
    ∀ row ∈ (execute mDataType stored).rows, RowFits (bulkResultSet .default columns) row := by
  have hall : ∀ p ∈ allRows, RowFits (bulkResultSet .default columns) p.2 := by
    have hnone : CellFits .default (.faux "UNSIGNED_ATTRIBUTE" sqlSmallint) "".toList := .nil _
    have hfalse : CellFits .default (.faux "UNSIGNED_ATTRIBUTE" sqlSmallint) "0".toList :=
      .smallint _ (by decide)
    unfold allRows
    simp only [List.forall_mem_cons]
    refine ⟨?_, ?_, ?_, ?_, ?_, ?_, ?_, ?_, ?_, ?_, ?_, ?_, by simp⟩
    all_goals
      exact typeInfoRow_fits (by decide) (by decide) (by first | exact hnone | exact hfalse) _ _
  intro row hrow
  have hmem : row ∈ (allRows.filter fun p => mDataType = 0 ∨ mDataType = p.1).map Prod.snd := by
    unfold execute at hrow
    dsimp only at hrow
    split_ifs at hrow
    · cases hrow
    · exact hrow
  obtain ⟨p, hp, rfl⟩ := List.mem_map.mp hmem
  exact hall p (List.mem_filter.mp hp).1

end TypeInfoMetadataQuery

/-! ## All bulk queries -/

namespace Query

/-- The precisions that a bulk query shows are small integers. -/
def PrecisionsFit (conn : Connection) : QueryKind → Prop
  | .columnMetadata mTable mColumn => ∀ v rcp table, conn.getMetadataView = some v →
      ColumnMetadataQuery.IsListed conn v mTable mColumn rcp table →
        DigitsFit 0 conn.mDataSource table
  | .specialColumns mIdentifierType mTable mScope mNullable =>
    SpecialColumnsMetadataQuery.IsAsked mIdentifierType mScope mNullable →
      ∀ v table, conn.getMetadataView = some v → keyTable v mTable = some table →
        DigitsFit (-2 ^ 15) conn.mDataSource table
  | _ => True

theorem prepareChecked_eq_ok {columns : List Column} {check : Except Fault (Option Exn)}
    {rs : ResultSet} (h : check.map (prepareChecked columns) = .ok (.ok rs)) :
    rs = bulkResultSet .default columns := by
  obtain ⟨checked, -, h⟩ := map_eq_ok.mp h
  rcases checked with _ | e
  · exact (Except.ok.inj h).symm
  · cases h

/-- The result set and the rows of one bulk query. -/
theorem bulk_fits_iff {conn : Connection} (hrange : conn.InRange) {kind : QueryKind}
    {rs : ResultSet} {stored : Nat} {out : Execution}
    (hprepare : prepareResultSet conn kind = .ok (.ok rs))
    (hexecute : bulkExecution conn stored kind = some (.ok out)) :
    (∀ column ∈ rs.mColumns, column.isCatalog = true) ∧
      ((∀ row ∈ out.rows, RowFits rs row) ↔ PrecisionsFit conn kind) := by
  have hdecide : ∀ {columns : List Column}, columns.all Column.isCatalog = true →
      ∀ column ∈ columns, column.isCatalog = true := fun h => List.all_eq_true.mp h
  rcases kind
  case null => cases hexecute
  case onDemandData => cases hexecute
  case onDemandObject => cases hexecute
  case dataCount q =>
    obtain rfl := prepareChecked_eq_ok hprepare
    have hfits := DataCountQuery.execute_fits hrange (Option.some.inj hexecute)
    exact ⟨hdecide (by decide), iff_of_true hfits trivial⟩
  case lookup q =>
    obtain rfl := prepareChecked_eq_ok hprepare
    have hfits := EzLookupQuery.execute_fits (Option.some.inj hexecute)
    exact ⟨hdecide (by decide), iff_of_true hfits trivial⟩
  case lookupColumns q =>
    obtain rfl := prepareChecked_eq_ok hprepare
    have hfits := EzLookupColumnsQuery.execute_fits (Option.some.inj hexecute)
    exact ⟨hdecide (by decide), iff_of_true hfits trivial⟩
  case tableMetadata mCatalog mSchema mTable mTableType =>
    obtain rfl := Except.ok.inj (Except.ok.inj hprepare)
    have hfits := TableMetadataQuery.execute_fits (Option.some.inj hexecute)
    exact ⟨hdecide (by decide), iff_of_true hfits trivial⟩
  case columnMetadata mTable mColumn =>
    obtain rfl := Except.ok.inj (Except.ok.inj hprepare)
    have hfits := ColumnMetadataQuery.execute_fits_iff hrange (Option.some.inj hexecute)
    have hcolumns : ColumnMetadataQuery.columns.all Column.isCatalog = true := by decide
    exact ⟨hdecide hcolumns, hfits⟩
  case typeInfo mDataType =>
    obtain rfl := Except.ok.inj (Except.ok.inj hprepare)
    obtain rfl := Except.ok.inj (Option.some.inj hexecute)
    have hfits := TypeInfoMetadataQuery.execute_fits mDataType stored
    exact ⟨hdecide (by decide), iff_of_true hfits trivial⟩
  case specialColumns mIdentifierType mTable mScope mNullable =>
    obtain rfl := Except.ok.inj (Except.ok.inj hprepare)
    have hfits := SpecialColumnsMetadataQuery.execute_fits_iff hrange (Option.some.inj hexecute)
    exact ⟨hdecide (by decide), hfits⟩
  case statistics =>
    obtain rfl := Except.ok.inj (Except.ok.inj hprepare)
    obtain rfl := Except.ok.inj (Option.some.inj hexecute)
    exact ⟨hdecide (by decide), iff_of_true (fun row hrow => by cases hrow) trivial⟩
  case primaryKeys mTable =>
    obtain rfl := Except.ok.inj (Except.ok.inj hprepare)
    have hfits := PrimaryKeysMetadataQuery.execute_fits (Option.some.inj hexecute)
    exact ⟨hdecide (by decide), iff_of_true hfits trivial⟩

/-- The rows of an execution fit the columns, and so they are fetched with default types. -/
def RowsFit (rs : ResultSet) (out : Execution) : Prop :=
  ∀ row ∈ out.rows, RowFits rs row ∧ FetchesByDefault rs row

/-- **The rows of a catalog fit its columns** exactly when the precisions do. -/
theorem rowsFit_iff {conn : Connection} (hrange : conn.InRange) {kind : QueryKind} {rs : ResultSet}
    {stored : Nat} {out : Execution} (hprepare : prepareResultSet conn kind = .ok (.ok rs))
    (hexecute : bulkExecution conn stored kind = some (.ok out)) :
    RowsFit rs out ↔ PrecisionsFit conn kind := by
  obtain ⟨hcatalog, hfits⟩ := bulk_fits_iff hrange hprepare hexecute
  rw [← hfits]
  constructor
  · exact fun h row hrow => (h row hrow).1
  · exact fun h row hrow => ⟨h row hrow, (h row hrow).fetches hcatalog⟩

/-! ### A price with more decimals than there is room for -/

/-- The column `ListPrice` with a precision of its own. -/
def priced (precision : Int) : MetadataTable :=
  { ColumnMetadataQuery.listPrice with precision := precision }

/-- The class `RES` with that column. -/
def pricedView (precision : Int) : MetadataView where
  mStandardNames := false
  mMetadata :=
    { getAllResources := [⟨1, "Property".toList, "Property".toList, "ListingID".toList⟩]
      getAllClasses := fun _ => [ColumnMetadataQuery.residential]
      getAllTables := fun _ => [priced precision]
      getAllLookupTypes := fun _ _ => []
      getLookup := fun _ _ => none
      getLookupType := fun _ _ _ => none
      nodup_resources := nodup_property
      nodup_classes := fun _ => List.nodup_singleton _ }

/-- A connection that describes decimals as such. -/
def pricedConnection (precision : Int) : Connection :=
  ColumnMetadataQuery.viewing (pricedView precision)

/-- The row of the column in `SQLColumns`. -/
def pricedRow (precision : Int) : List Str :=
  ColumnMetadataQuery.row (pricedConnection precision) (pricedView precision)
    "data:Property:RES".toList "ListPrice".toList (priced precision)

theorem bulkExecution_priced (precision : Int) :
    bulkExecution (pricedConnection precision) 0 (.columnMetadata [] []) =
      some (.ok (.success [pricedRow precision])) := by
  have hall := @ColumnMetadataQuery.execute_all (pricedConnection precision) (pricedView precision)
    rfl [] (by decide)
  have hsorted : ColumnMetadataQuery.sortedTables (pricedConnection precision)
      (pricedView precision) ColumnMetadataQuery.residential = [priced precision] :=
    List.mergeSort_singleton _
  show some (ColumnMetadataQuery.execute (pricedConnection precision) [] []) = _
  rw [hall]
  show some (Except.ok (Execution.success (ColumnMetadataQuery.rowsOf _ _ _
    (ColumnMetadataQuery.sortedTables _ _ ColumnMetadataQuery.residential) ++ []))) = _
  rw [hsorted]
  rfl

theorem priced_inRange {precision : Int} (h : -2 ^ 31 ≤ precision ∧ precision < 2 ^ 31) :
    (priced precision).InRange :=
  ⟨⟨show (-2 ^ 31 : Int) ≤ 12 by norm_num, show (12 : Int) < 2 ^ 31 by norm_num⟩, h⟩

theorem pricedConnection_inRange {precision : Int} (h : -2 ^ 31 ≤ precision ∧ precision < 2 ^ 31) :
    (pricedConnection precision).InRange where
  tables v hv clazz table htable := by
    obtain rfl := Option.some.inj hv
    obtain rfl := List.mem_singleton.mp htable
    exact priced_inRange h
  count session hsession := by cases hsession

theorem rowsFit_priced :
    RowsFit (bulkResultSet (.factory DataSource.init) ColumnMetadataQuery.columns)
      (.success [pricedRow 2]) := by
  refine (rowsFit_iff (pricedConnection_inRange (by norm_num)) rfl
    (bulkExecution_priced 2)).mpr ?_
  intro v rcp table hview hlisted _ _ _
  obtain rfl := Option.some.inj hview
  have hmem := ColumnMetadataQuery.mem_getAllTables_of_candidate hlisted.candidate
  obtain rfl := List.mem_singleton.mp hmem
  exact ⟨show (0 : Int) ≤ 2 by norm_num, show (2 : Int) < 2 ^ 15 by norm_num⟩

/-- `DECIMAL_DIGITS` is declared as a small integer. -/
theorem not_rowsFit_priced :
    bulkExecution (pricedConnection 40000) 0 (.columnMetadata [] []) =
        some (.ok (.success [pricedRow 40000])) ∧
      ¬ RowsFit (bulkResultSet (.factory DataSource.init) ColumnMetadataQuery.columns)
        (.success [pricedRow 40000]) := by
  refine ⟨bulkExecution_priced 40000, fun h => ?_⟩
  have hrow := (h (pricedRow 40000) (List.mem_singleton.mpr rfl)).1
  have hrange : (priced 40000).InRange := priced_inRange (by norm_num)
  have hfits := @ColumnMetadataQuery.row_fits_iff (pricedConnection 40000) _ hrange
    (pricedView 40000) "data:Property:RES".toList "ListPrice".toList
  have hdigits := hfits.mp hrow
  have hbound : (40000 : Int) < 2 ^ 15 := (hdigits rfl rfl rfl).2
  omega

end Query

end EzRets
