import EzRets.ColumnListing
import EzRets.GetData

/-!
# EzRets.ColumnDescriptions — what is said about a column, and where

An application learns the type, the size and the decimal digits of a column from `SQLDescribeCol`,
from the rows of `SQLColumns` and, for a key field, from `SQLSpecialColumns`.  Each computes them in
its own way: `getColumnSize` and `getDecimalDigits`, `getMaximumLength` and `getPrecision`, and the
bare metadata.
-/

namespace EzRets

open FaultRun

/-! ## Numbers of a description -/

/-- librets returns both as `int`. -/
structure MetadataTable.InRange (table : MetadataTable) : Prop where
  maximumLength : -2 ^ 31 ≤ table.maximumLength ∧ table.maximumLength < 2 ^ 31
  precision : -2 ^ 31 ≤ table.precision ∧ table.precision < 2 ^ 31

section Numbers

variable {n : Int} (h : -2 ^ 31 ≤ n ∧ n < 2 ^ 31)

include h

/-- An `int` survives the way through `SQLULEN` and back. -/
theorem toSqlInteger_toSize : toSqlInteger (toSize n) = n := by
  have hw : ((2 ^ 32 : Nat) : Int) = 4294967296 := by norm_num
  have hsize : (toSize n : Int) = n % 18446744073709551616 := by
    unfold toSize
    omega
  unfold toSqlInteger
  rw [Int.bmod_def, hw, hsize]
  split_ifs <;> omega

theorem toSize_eq_self_iff : (toSize n : Int) = n ↔ 0 ≤ n := by
  unfold toSize
  omega

theorem toSize_eq_zero_iff : toSize n = 0 ↔ n = 0 := by
  unfold toSize
  omega

/-- A count below 2^31 that comes from an `int`. -/
theorem toSize_eq_iff {k : Nat} (hk : k < 2 ^ 31) : toSize n = k ↔ n = k := by
  unfold toSize
  omega

/-- A size that is assumed where the metadata has to give the same. -/
theorem assumed_iff {k : Nat} (hk : k < 2 ^ 31) : toSqlInteger k = toSize n ↔ n = k := by
  rw [toSqlInteger_of_lt (by omega) (by omega)]
  rw [← toSize_eq_iff h hk]
  omega

/-- A size that is assumed where the metadata gives none. -/
theorem defaulted_iff {k : Nat} (hpos : 0 < k) (hk : k < 2 ^ 31) :
    toSqlInteger ((if toSize n = 0 then k else toSize n : Nat) : Int) = toSize n ↔ 0 < n := by
  have hzero := toSize_eq_zero_iff h
  have hself := toSize_eq_self_iff h
  split_ifs with hn
  · rw [assumed_iff h hk]
    omega
  · rw [toSqlInteger_toSize h]
    omega

theorem toSqlSmallint_eq_toSize_iff : (toSize n : Int) = toSqlSmallint n ↔ 0 ≤ n ∧ n < 2 ^ 15 := by
  have hw : ((2 ^ 16 : Nat) : Int) = 65536 := by norm_num
  have hsize : (toSize n : Int) = n % 18446744073709551616 := by
    unfold toSize
    omega
  unfold toSqlSmallint
  rw [Int.bmod_def, hw, hsize]
  split_ifs <;> omega

end Numbers

/-- A cell with the number `n`; an empty one counts as 0. -/
def ReadsAs (cell : Option Str) (n : Int) : Prop := cell = some (intText n) ∨ cell = some [] ∧ n = 0

theorem readsAs_intText {m n : Int} : ReadsAs (some (intText m)) n ↔ m = n := by
  constructor
  · rintro (h | ⟨h, -⟩)
    · exact intText_injective (Option.some.inj h)
    · exact absurd (Option.some.inj h) (intText_ne_nil m)
  · rintro rfl
    exact .inl rfl

theorem readsAs_nil {n : Int} : ReadsAs (some []) n ↔ n = 0 := by
  constructor
  · rintro (h | ⟨-, h⟩)
    · exact absurd (Option.some.inj h).symm (intText_ne_nil n)
    · exact h
  · exact fun h => .inr ⟨rfl, h⟩

/-- What a description says. -/
structure Description where
  dataType : Int
  columnSize : Nat
  decimalDigits : Int

/-- The row has the description in the cells with these indices. -/
structure Description.ListedIn (d : Description) (row : List Str)
    (dataType columnSize decimalDigits : Nat) : Prop where
  dataType : ReadsAs row[dataType]? d.dataType
  columnSize : ReadsAs row[columnSize]? d.columnSize
  decimalDigits : ReadsAs row[decimalDigits]? d.decimalDigits

/-! ## When they agree -/

/-- The sizes of `getColumnSize` and `getMaximumLength` are the same: decoded lookups have one size,
dates and timestamps have a fixed one as long as types count, a boolean, date or time that is
described as text needs the length that `getMaximumLength` assumes, and other columns need a length
of their own.  A typed time column never agrees. -/
def LengthAgrees (d : DataSource) (table : MetadataTable) : Prop :=
  Column.isDecoded table (d.bool .useCompactFormat) = true ∨
    match table.dataType with
    | .boolean => table.maximumLength = 5
    | .date => d.bool .ignoreMetadataType = false ∨ table.maximumLength = 10
    | .dateTime => d.bool .ignoreMetadataType = false ∨ table.maximumLength = 19
    | .time => d.bool .ignoreMetadataType = true ∧ table.maximumLength = 12
    | _ => 0 < table.maximumLength

/-- The precision is one of a decimal column, or the one that the type has. -/
def DigitsAgree (d : DataSource) (table : MetadataTable) : Prop :=
  match table.dataType with
  | .decimal =>
    if d.bool .ignoreMetadataType || d.bool .treatDecimalAsString then
      toSqlSmallint table.precision = 0
    else 0 ≤ table.precision ∧ table.precision < 2 ^ 15
  | .dateTime => toSqlSmallint table.precision = if d.bool .ignoreMetadataType then 0 else 3
  | _ => toSqlSmallint table.precision = 0

/-- The bare metadata of a key field are what the other two make of them. -/
structure KeyAgrees (d : DataSource) (table : MetadataTable) : Prop where
  lookup : MetadataView.isLookupColumn table = true →
    d.bool .ignoreMetadataType = true ∨ table.dataType = .character ∨
      (table.dataType = .decimal ∧ d.bool .treatDecimalAsString = true)
  decoded : Column.isDecoded table (d.bool .useCompactFormat) = true →
    table.maximumLength = if table.interpretation = .lookup then 129 else 2561
  date : Column.isDecoded table (d.bool .useCompactFormat) = false →
    d.bool .ignoreMetadataType = false → table.dataType = .date → table.maximumLength = 10
  dateTime : Column.isDecoded table (d.bool .useCompactFormat) = false →
    d.bool .ignoreMetadataType = false → table.dataType = .dateTime → table.maximumLength = 19

namespace Column

/-- What `SQLDescribeCol` asks a column for. -/
def description (dt : DataTranslator) (col : Column) : Description :=
  ⟨col.getDataType dt, col.getColumnSize dt, col.getDecimalDigits⟩

theorem getPreferedOdbcType_factory (d : DataSource) (type : RetsType) :
    (DataTranslator.factory d).getPreferedOdbcType type =
      if d.bool .ignoreMetadataType then sqlVarchar
      else DataTranslator.rets2Odbc (d.bool .treatDecimalAsString) type := by
  unfold DataTranslator.factory
  split_ifs <;> rfl

/-- Only the types of dates and times have a column size of their own, and only where types
count. -/
theorem columnSizeHelper_of_ne {type : RetsType} (hdate : type ≠ .date) (hdateTime : type ≠ .dateTime)
    (htime : type ≠ .time) (d : DataSource) (n : Nat) :
    columnSizeHelper ((DataTranslator.factory d).getPreferedOdbcType type) n = n := by
  rw [getPreferedOdbcType_factory]
  split_ifs
  · rfl
  cases type with
  | date => exact absurd rfl hdate
  | dateTime => exact absurd rfl hdateTime
  | time => exact absurd rfl htime
  | decimal => cases d.bool .treatDecimalAsString <;> rfl
  | _ => rfl

variable {d : DataSource} {col : Column} {v : MetadataView} {table : MetadataTable}

section OfTable

variable (hkind : col.kind = .rets v table (d.bool .useCompactFormat)) (hrange : table.InRange)

include hkind hrange

/-- **Sizes**: `SQLColumns` and `SQLDescribeCol`. -/
theorem size_iff_lengthAgrees :
    toSqlInteger col.getMaximumLength = col.getColumnSize (DataTranslator.factory d) ↔
      LengthAgrees d table := by
  have hsmall : ∀ k : Nat, k < 2 ^ 31 → toSqlInteger k = k := fun k hk =>
    toSqlInteger_of_lt (by omega) (by omega)
  have hassumed : ∀ k : Nat, k < 2 ^ 31 → (toSqlInteger k = toSize table.maximumLength ↔
      table.maximumLength = k) := fun k => assumed_iff hrange.maximumLength
  have hdefaulted : ∀ type, 0 < defaultLength type → defaultLength type < 2 ^ 31 →
      (toSqlInteger ((if toSize table.maximumLength = 0 then defaultLength type
        else toSize table.maximumLength : Nat) : Int) = toSize table.maximumLength ↔
      0 < table.maximumLength) := fun type => defaulted_iff hrange.maximumLength
  have hplain := @columnSizeHelper_of_ne table.dataType
  unfold getMaximumLength getColumnSize LengthAgrees
  rw [hkind]
  dsimp only
  by_cases hdecoded : isDecoded table (d.bool .useCompactFormat) = true
  · rw [if_pos hdecoded, if_pos hdecoded]
    refine ⟨fun _ => .inl hdecoded, fun _ => ?_⟩
    unfold lookupSizeHelper
    split_ifs <;> rfl
  rw [if_neg hdecoded, if_neg hdecoded, or_iff_right hdecoded]
  rcases htype : table.dataType
  case date =>
    rw [getPreferedOdbcType_factory]
    rcases d.bool .ignoreMetadataType with _ | _
    · exact ⟨fun _ => .inl rfl, fun _ => hsmall 10 (by norm_num)⟩
    · exact (hassumed 10 (by norm_num)).trans (or_iff_right (by simp)).symm
  case dateTime =>
    rw [getPreferedOdbcType_factory]
    rcases d.bool .ignoreMetadataType with _ | _
    · exact ⟨fun _ => .inl rfl, fun _ => hsmall 19 (by norm_num)⟩
    · exact (hassumed 19 (by norm_num)).trans (or_iff_right (by simp)).symm
  case time =>
    rw [getPreferedOdbcType_factory]
    rcases d.bool .ignoreMetadataType with _ | _
    · -- the column size is 92, the type code
      have h12 : toSqlInteger (12 : Nat) ≠ (92 : Nat) := by
        rw [hsmall 12 (by norm_num)]
        decide
      exact ⟨fun h => absurd h h12, fun h => absurd h.1 (by decide)⟩
    · exact (hassumed 12 (by norm_num)).trans (and_iff_right rfl).symm
  case boolean =>
    rw [htype] at hplain
    rw [hplain (by simp) (by simp) (by simp)]
    exact hassumed 5 (by norm_num)
  all_goals
    rw [htype] at hplain
    rw [hplain (by simp) (by simp) (by simp)]
    exact hdefaulted _ (by decide) (by decide)

/-- **Decimal digits**: `SQLColumns` and `SQLDescribeCol`. -/
theorem precision_iff_digitsAgree :
    (col.getPrecision (DataTranslator.factory d) : Int) = col.getDecimalDigits ↔
      DigitsAgree d table := by
  have hdecimal := toSqlSmallint_eq_toSize_iff hrange.precision
  unfold getPrecision getDecimalDigits DigitsAgree
  rw [hkind]
  dsimp only
  rw [getPreferedOdbcType_factory]
  rcases htype : table.dataType
  case decimal =>
    rcases d.bool .ignoreMetadataType with _ | _
    · rcases d.bool .treatDecimalAsString with _ | _
      · exact hdecimal
      · exact eq_comm
    · exact eq_comm
  case dateTime =>
    rcases d.bool .ignoreMetadataType with _ | _
    · exact eq_comm
    · exact eq_comm
  all_goals
    rcases d.bool .ignoreMetadataType with _ | _
    · exact eq_comm
    · exact eq_comm

omit hrange in
/-- The type of `SQLSpecialColumns` does not know lookups. -/
theorem keyType_iff :
    (DataTranslator.factory d).getPreferedOdbcType table.dataType =
        col.getDataType (DataTranslator.factory d) ↔
      (MetadataView.isLookupColumn table = true →
        d.bool .ignoreMetadataType = true ∨ table.dataType = .character ∨
          (table.dataType = .decimal ∧ d.bool .treatDecimalAsString = true)) := by
  unfold getDataType
  rw [hkind]
  dsimp only
  by_cases hlookup : MetadataView.isLookupColumn table = true
  · rw [if_pos hlookup, getPreferedOdbcType_factory, forall_prop_of_true hlookup]
    rcases d.bool .ignoreMetadataType with _ | _
    · rcases table.dataType with _ | _ | _ | _ | _ | _ | _ | _ | _ | _
      all_goals
        rcases d.bool .treatDecimalAsString with _ | _ <;> decide
    · exact iff_of_true rfl (.inl rfl)
  · rw [if_neg hlookup]
    exact iff_of_true rfl fun h => absurd h hlookup

/-- Where the other two agree, `SQLSpecialColumns` has their size for a plain column. -/
theorem keySize_iff (hlength : LengthAgrees d table) :
    table.maximumLength = col.getColumnSize (DataTranslator.factory d) ↔
      (isDecoded table (d.bool .useCompactFormat) = true →
        table.maximumLength = if table.interpretation = .lookup then 129 else 2561) ∧
      (isDecoded table (d.bool .useCompactFormat) = false → d.bool .ignoreMetadataType = false →
        (table.dataType = .date → table.maximumLength = 10) ∧
          (table.dataType = .dateTime → table.maximumLength = 19)) := by
  have hself := toSize_eq_self_iff hrange.maximumLength
  have hplain := @columnSizeHelper_of_ne table.dataType
  unfold getColumnSize
  unfold LengthAgrees at hlength
  rw [hkind]
  dsimp only
  by_cases hdecoded : isDecoded table (d.bool .useCompactFormat) = true
  · have hsize : (lookupSizeHelper table : Int) =
        if table.interpretation = .lookup then 129 else 2561 := by
      unfold lookupSizeHelper
      split_ifs <;> rfl
    rw [if_pos hdecoded, hsize]
    simp only [hdecoded, forall_const, Bool.true_eq_false, false_imp_iff, and_true]
  rw [or_iff_right hdecoded] at hlength
  rw [if_neg hdecoded]
  simp only [hdecoded, Bool.false_eq_true, false_imp_iff, true_and, forall_const]
  have hnonneg : 0 ≤ table.maximumLength →
      table.maximumLength = toSize table.maximumLength := fun h => (hself.mpr h).symm
  rcases htype : table.dataType <;> rw [htype] at hlength hplain <;> dsimp only at hlength
  case date =>
    rw [getPreferedOdbcType_factory]
    rcases hignore : d.bool .ignoreMetadataType with _ | _
    · exact ⟨fun h _ => ⟨fun _ => h, fun h' => (by cases h')⟩, fun h => (h rfl).1 rfl⟩
    · have hlength' := hlength.resolve_left (by simp [hignore])
      exact iff_of_true (hnonneg (by omega)) fun h => (by cases h)
  case dateTime =>
    rw [getPreferedOdbcType_factory]
    rcases hignore : d.bool .ignoreMetadataType with _ | _
    · exact ⟨fun h _ => ⟨fun h' => (by cases h'), fun _ => h⟩, fun h => (h rfl).2 rfl⟩
    · have hlength' := hlength.resolve_left (by simp [hignore])
      exact iff_of_true (hnonneg (by omega)) fun h => (by cases h)
  case time =>
    rw [getPreferedOdbcType_factory, hlength.1]
    exact iff_of_true (hnonneg (by omega)) fun h => (by cases h)
  all_goals
    rw [hplain (by simp) (by simp) (by simp)]
    exact iff_of_true (hnonneg (by omega)) fun _ => ⟨fun h => (by cases h), fun h => (by cases h)⟩

/-- Where the other two agree, `SQLSpecialColumns` has their digits. -/
theorem keyDigits (hdigits : DigitsAgree d table) :
    ReadsAs
      (some (if (DataTranslator.factory d).getPreferedOdbcType table.dataType = sqlDecimal ∨
          (DataTranslator.factory d).getPreferedOdbcType table.dataType = sqlDouble then
          intText table.precision
        else if (DataTranslator.factory d).getPreferedOdbcType table.dataType = sqlTypeTimestamp then
          "3".toList
        else []))
      col.getDecimalDigits := by
  have hdecimal := toSqlSmallint_eq_toSize_iff hrange.precision
  have hself := toSize_eq_self_iff hrange.precision
  unfold getDecimalDigits
  unfold DigitsAgree at hdigits
  rw [hkind, getPreferedOdbcType_factory]
  dsimp only
  rcases htype : table.dataType <;> rw [htype] at hdigits <;> dsimp only at hdigits
  case decimal =>
    rcases hignore : d.bool .ignoreMetadataType with _ | _
    · rcases hstring : d.bool .treatDecimalAsString with _ | _
      · rw [hignore, hstring] at hdigits
        have hrange' : 0 ≤ table.precision ∧ table.precision < 2 ^ 15 := hdigits
        exact readsAs_intText.mpr ((hself.mpr hrange'.1).symm.trans (hdecimal.mpr hrange'))
      · rw [hstring, Bool.or_true] at hdigits
        exact readsAs_nil.mpr hdigits
    · rw [hignore] at hdigits
      exact readsAs_nil.mpr hdigits
  case dateTime =>
    rcases hignore : d.bool .ignoreMetadataType with _ | _
    · rw [hignore] at hdigits
      rw [hdigits]
      exact .inl rfl
    · rw [hignore] at hdigits
      exact readsAs_nil.mpr hdigits
  all_goals
    rcases d.bool .ignoreMetadataType with _ | _
    · exact readsAs_nil.mpr hdigits
    · exact readsAs_nil.mpr hdigits

end OfTable

end Column

/-! ## Where the descriptions come from -/

/-- The columns of a prepared query are those of metadata tables. -/
theorem OnDemandDataQuery.prepared_column {conn : Connection} {useCompactFormat : Bool}
    {q : DmqlQuery} {rs : ResultSet} (h : prepareResultSet conn useCompactFormat q = .ok (.ok rs))
    {c : Nat} {column : Column} (hcolumn : rs.getColumn c = some column) :
    rs.mTranslator = .factory conn.mDataSource ∧
      ∃ v table, conn.metadata = .ok v ∧ column.kind = .rets v table useCompactFormat := by
  simp only [prepareResultSet, bind_eq_ok] at h
  obtain ⟨v, hv, h⟩ := h
  rcases hclass : v.getClass q.getResource q.getClass with _ | clazz <;> rw [hclass] at h
  · cases h
  dsimp only at h
  split at h
  · cases h
  rename_i tables _
  obtain ⟨_, -, h⟩ := bind_eq_ok.mp h
  cases h
  refine ⟨rfl, v, ?_⟩
  obtain ⟨table, -, rfl⟩ := List.mem_map.mp
    (List.mem_of_getElem? (ResultSet.getColumn_eq_some hcolumn).2)
  exact ⟨table, hv, rfl⟩

/-- Every row of `SQLColumns` describes a metadata table. -/
theorem ColumnMetadataQuery.execute_row {conn : Connection} {mTable mColumn : Str} {out : Execution}
    (h : execute conn mTable mColumn = .ok out) {r : List Str} (hr : r ∈ out.rows) :
    ∃ v sqlTableName table, conn.metadata = .ok v ∧
      r = row conn v sqlTableName (conn.tableName table) table := by
  obtain ⟨v, rcp, table, hview, -, rfl⟩ := (mem_rows_iff h).mp hr
  exact ⟨v, _, table, Connection.metadata_eq_ok_iff.mpr hview, rfl⟩

/-- Every row of `SQLSpecialColumns` describes the key field of the data table. -/
theorem SpecialColumnsMetadataQuery.execute_row {conn : Connection} {mIdentifierType : Nat}
    {mTable : Str} {mScope mNullable : Nat} {out : Execution}
    (h : execute conn mIdentifierType mTable mScope mNullable = .ok out) {r : List Str}
    (hr : r ∈ out.rows) :
    ∃ v table, conn.metadata = .ok v ∧ keyTable v mTable = some table ∧ r = row conn table := by
  unfold execute at h
  split_ifs at h
  · cases h
    cases hr
  · cases h
    cases hr
  · cases h
    cases hr
  obtain ⟨v, hv, h⟩ := bind_eq_ok.mp h
  cases h
  obtain ⟨table, htable, rfl⟩ := List.mem_map.mp hr
  exact ⟨v, table, hv, Option.mem_toList.mp htable, rfl⟩

/-! ## The three descriptions -/

namespace RetsSTMT

variable {ctx : CallContext} {stmt : RetsSTMT} {v : MetadataView} {table : MetadataTable} {c : Nat}

/-- Column `c` of the statement's query shows the metadata table. -/
def Selects (ctx : CallContext) (v : MetadataView) (table : MetadataTable) (c : Nat)
    (stmt : RetsSTMT) : Prop :=
  ∃ rs column, stmt.mQuery.mResultSet = some rs ∧
    rs.mTranslator = .factory ctx.conn.mDataSource ∧ rs.getColumn c = some column ∧
    column.kind = .rets v table (ctx.conn.mDataSource.bool .useCompactFormat)

/-- `SQLDescribeCol` succeeds and stores the description wherever the application asks for it. -/
def Describes (ctx : CallContext) (stmt : RetsSTMT) (c : Nat) (d : Description) : Prop :=
  ∀ a : DescribeColArgs, a.nullable ≠ 0 → ∃ r, stmt.call ctx (.describeCol c a) = .ok r ∧
    r.result = .success ∧
    (a.dataType ≠ 0 → ⟨a.dataType, .smallint d.dataType⟩ ∈ r.writes) ∧
    (a.columnSize ≠ 0 → ⟨a.columnSize, .ulen d.columnSize⟩ ∈ r.writes) ∧
    (a.decimalDigits ≠ 0 → ⟨a.decimalDigits, .smallint d.decimalDigits⟩ ∈ r.writes)

/-- The metadata table is the key field of a data table. -/
def IsKey (v : MetadataView) (table : MetadataTable) : Prop := ∃ mTable, keyTable v mTable = some table

/-- `SQLDescribeCol`, `SQLColumns` and, for a key field, `SQLSpecialColumns` say the same. -/
def DescriptionsAgree (ctx : CallContext) (v : MetadataView) (table : MetadataTable) (c : Nat)
    (stmt : RetsSTMT) : Prop :=
  ∃ d, Describes ctx stmt c d ∧
    (∀ sqlTableName, d.ListedIn (ColumnMetadataQuery.row ctx.conn v sqlTableName
      (ctx.conn.tableName table) table) 4 6 8) ∧
    (IsKey v table → d.ListedIn (SpecialColumnsMetadataQuery.row ctx.conn table) 2 4 6)

/-- The stores of a `SQLDescribeCol` for a column `name` with the description `d`. -/
def describeStores (a : DescribeColArgs) (name : Str) (d : Description) : List Write :=
  let copied := copyString name a.columnName (toSize a.bufferLength)
  copied.1 ++ storeIf a.nameLength (.smallint (toSqlSmallint copied.2)) ++
    storeIf a.columnSize (.ulen d.columnSize) ++ storeIf a.dataType (.smallint d.dataType) ++
    storeIf a.decimalDigits (.smallint d.decimalDigits) ++ [⟨a.nullable, .smallint 1⟩]

theorem call_describeCol {rs : ResultSet} {column : Column} (ctx : CallContext)
    (hrs : stmt.mQuery.mResultSet = some rs) (hcolumn : rs.getColumn c = some column)
    {a : DescribeColArgs} (hnullable : a.nullable ≠ 0) :
    stmt.call ctx (.describeCol c a) = .ok ⟨stmt.clearErrors, .success,
      describeStores a column.mName (column.description rs.mTranslator)⟩ := by
  have hbad : stmt.clearErrors.isBadColumn c = .ok false := isBadColumn_of_some hrs c
  have hrs' : stmt.clearErrors.resultSet = .ok rs := (resultSet_eq_ok _).mpr hrs
  have huncaught : stmt.uncaught ctx (.describeCol c a) = .ok ⟨stmt.clearErrors, .ok .success,
      describeStores a column.mName (column.description rs.mTranslator)⟩ := by
    show stmt.sqlDescribeCol c a = _
    simp only [sqlDescribeCol, hbad, bind, Except.bind, Bool.false_eq_true, if_false, hrs', hcolumn]
    rw [if_neg hnullable]
    rfl
  rw [call_of_uncaught rfl huncaught]
  rfl

/-- `SQLDescribeCol` stores the column's own description, and no other. -/
theorem describes_iff {rs : ResultSet} {column : Column} (hrs : stmt.mQuery.mResultSet = some rs)
    (hcolumn : rs.getColumn c = some column) {d : Description} :
    Describes ctx stmt c d ↔ d = column.description rs.mTranslator := by
  constructor
  · intro hd
    -- four different pointers tell the stores apart
    obtain ⟨r, hr, -, htype, hsize, hdigits⟩ := hd ⟨0, 0, 0, 1, 2, 3, 4⟩ (by decide)
    rw [call_describeCol ctx hrs hcolumn (by decide)] at hr
    obtain rfl := Except.ok.inj hr
    have htype' := htype (by decide)
    have hsize' := hsize (by decide)
    have hdigits' := hdigits (by decide)
    obtain ⟨dataType, columnSize, decimalDigits⟩ := d
    simp [describeStores, copyString, storeIf] at htype' hsize' hdigits'
    rw [htype', hsize', hdigits']
  · rintro rfl a hnullable
    refine ⟨_, call_describeCol ctx hrs hcolumn hnullable, rfl, fun h => ?_, fun h => ?_, fun h => ?_⟩
    · simp [describeStores, storeIf, h]
    · simp [describeStores, storeIf, h]
    · simp [describeStores, storeIf, h]

/-- Only the kind of a column counts. -/
theorem description_congr {column column' : Column} (h : column.kind = column'.kind)
    (dt : DataTranslator) : column.description dt = column'.description dt := by
  unfold Column.description Column.getDataType Column.getColumnSize Column.getDecimalDigits
  rw [h]

section Rows

variable {conn : Connection} {column : Column}
  (hkind : column.kind = .rets v table (conn.mDataSource.bool .useCompactFormat))
  (hrange : table.InRange)

include hkind hrange

/-- The row of `SQLColumns`, whose made-up column differs from `column` in its name at most. -/
theorem listedIn_columns_iff (sqlTableName : Str) :
    (column.description (.factory conn.mDataSource)).ListedIn
        (ColumnMetadataQuery.row conn v sqlTableName (conn.tableName table) table) 4 6 8 ↔
      LengthAgrees conn.mDataSource table ∧ DigitsAgree conn.mDataSource table := by
  have hdummy : (⟨conn.tableName table, .rets v table (conn.mDataSource.bool .useCompactFormat),
    none⟩ : Column).kind = .rets v table (conn.mDataSource.bool .useCompactFormat) := rfl
  rw [description_congr (hkind.trans hdummy.symm)]
  have hlength := Column.size_iff_lengthAgrees hdummy hrange
  have hdigits := Column.precision_iff_digitsAgree hdummy hrange
  rw [← hlength, ← hdigits]
  constructor
  · rintro ⟨-, hs, hg⟩
    exact ⟨readsAs_intText.mp hs, readsAs_intText.mp hg⟩
  · rintro ⟨hs, hg⟩
    exact ⟨readsAs_intText.mpr rfl, readsAs_intText.mpr hs, readsAs_intText.mpr hg⟩

/-- The row of `SQLSpecialColumns`, where the other two agree. -/
theorem listedIn_specialColumns_iff (hl : LengthAgrees conn.mDataSource table)
    (hg : DigitsAgree conn.mDataSource table) :
    (column.description (.factory conn.mDataSource)).ListedIn
        (SpecialColumnsMetadataQuery.row conn table) 2 4 6 ↔
      KeyAgrees conn.mDataSource table := by
  have htype := Column.keyType_iff hkind
  have hsize := Column.keySize_iff hkind hrange hl
  have hdigits := Column.keyDigits hkind hrange hg
  constructor
  · rintro ⟨ht, hs, -⟩
    obtain ⟨hdecoded, htyped⟩ := hsize.mp (readsAs_intText.mp hs)
    exact ⟨htype.mp (readsAs_intText.mp ht), hdecoded, fun h h' => (htyped h h').1,
      fun h h' => (htyped h h').2⟩
  · rintro ⟨ht, hdecoded, hdate, hdateTime⟩
    have hs := hsize.mpr ⟨hdecoded, fun h h' => ⟨hdate h h', hdateTime h h'⟩⟩
    exact ⟨readsAs_intText.mpr (htype.mpr ht), readsAs_intText.mpr hs, hdigits⟩

end Rows

/-- **All descriptions of a column agree** exactly when its length, its digits and, for a key field,
its bare metadata are what the special cases of the three computations expect. -/
theorem descriptionsAgree_iff (hselects : Selects ctx v table c stmt) (hrange : table.InRange) :
    DescriptionsAgree ctx v table c stmt ↔
      LengthAgrees ctx.conn.mDataSource table ∧ DigitsAgree ctx.conn.mDataSource table ∧
        (IsKey v table → KeyAgrees ctx.conn.mDataSource table) := by
  obtain ⟨rs, column, hrs, htranslator, hcolumn, hkind⟩ := hselects
  have hlisted := listedIn_columns_iff hkind hrange
  have hkey := listedIn_specialColumns_iff hkind hrange
  constructor
  · rintro ⟨d, hd, hcolumns, hspecial⟩
    obtain rfl := (describes_iff hrs hcolumn).mp hd
    rw [htranslator] at hcolumns hspecial
    obtain ⟨hl, hg⟩ := (hlisted []).mp (hcolumns [])
    exact ⟨hl, hg, fun h => (hkey hl hg).mp (hspecial h)⟩
  · rintro ⟨hl, hg, hk⟩
    refine ⟨_, (describes_iff hrs hcolumn).mpr rfl, ?_, fun h => ?_⟩
    · rw [htranslator]
      exact fun sqlTableName => (hlisted sqlTableName).mpr ⟨hl, hg⟩
    · rw [htranslator]
      exact (hkey hl hg).mpr (hk h)

/-! ### A column that agrees and one that does not -/

/-- A metadata view of no resources. -/
def noResources : MetadataView where
  mStandardNames := false
  mMetadata :=
    { getAllResources := []
      getAllClasses := fun _ => []
      getAllTables := fun _ => []
      getAllLookupTypes := fun _ _ => []
      getLookup := fun _ _ => none
      getLookupType := fun _ _ _ => none
      nodup_resources := List.nodup_nil
      nodup_classes := fun _ => List.nodup_nil }

/-- A metadata table of eight characters. -/
def eightWide (name : String) (dataType : RetsType) : MetadataTable :=
  ⟨1, name.toList, [], [], dataType, .other, 8, 0, [], [], false, true⟩

theorem eightWide_inRange (name : String) (dataType : RetsType) : (eightWide name dataType).InRange :=
  ⟨⟨show (-2 ^ 31 : Int) ≤ 8 by norm_num, show (8 : Int) < 2 ^ 31 by norm_num⟩,
    ⟨show (-2 ^ 31 : Int) ≤ 0 by norm_num, show (0 : Int) < 2 ^ 31 by norm_num⟩⟩

/-- A statement whose query selects one column. -/
def selecting (table : MetadataTable) : RetsSTMT :=
  new.setQuery ⟨.onDemandData false ⟨"Property".toList, "RES".toList, none, none, 0, 0, false⟩,
    some ⟨.factory idleContext.conn.mDataSource, [⟨table.systemName, .rets noResources table
      (idleContext.conn.mDataSource.bool .useCompactFormat), none⟩], .onDemand none⟩⟩

theorem selects_selecting (table : MetadataTable) :
    Selects idleContext noResources table 1 (selecting table) := ⟨_, _, rfl, rfl, rfl, rfl⟩

/-- An integer column agrees with itself. -/
theorem descriptionsAgree_rooms :
    DescriptionsAgree idleContext noResources (eightWide "Rooms" .int) 1
      (selecting (eightWide "Rooms" .int)) := by
  refine (descriptionsAgree_iff (selects_selecting _) (eightWide_inRange _ _)).mpr ⟨.inr ?_, ?_, ?_⟩
  · show (0 : Int) < 8
    norm_num
  · show toSqlSmallint 0 = 0
    rfl
  · exact fun _ => ⟨fun h => (by cases h), fun h => (by cases h), fun _ _ h => (by cases h),
      fun _ _ h => (by cases h)⟩

/-- A time column has the column size 92 for `SQLDescribeCol` and 12 for `SQLColumns`. -/
theorem not_descriptionsAgree_time :
    ¬ DescriptionsAgree idleContext noResources (eightWide "OpenHouse" .time) 1
      (selecting (eightWide "OpenHouse" .time)) := by
  rintro ⟨d, hd, hcolumns, -⟩
  obtain rfl := (describes_iff rfl rfl).mp hd
  have hsize : ReadsAs (some (intText (toSqlInteger (12 : Nat)))) (92 : Nat) :=
    (hcolumns []).columnSize
  have h12 := readsAs_intText.mp hsize
  rw [toSqlInteger_of_lt (by omega) (by omega)] at h12
  omega

end RetsSTMT

end EzRets
