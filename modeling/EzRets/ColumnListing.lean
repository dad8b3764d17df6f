import EzRets.Query
import EzRets.TableCache

/-!
# EzRets.ColumnListing — the columns of all classes, and those of one name

`SQLColumns` without a column name lists the columns of every class, sorted by name; with a name it
looks the name up in each class.  The two agree about a class that has exactly one column of that
name.
-/

namespace EzRets

open FaultRun

namespace ColumnMetadataQuery

variable (conn : Connection) (v : MetadataView)

/-- `processColumn` skips a column without a standard name in that mode. -/
def isNamed (table : MetadataTable) : Bool :=
  !(conn.mDataSource.bool .standardNames && table.standardName.isEmpty)

/-- The rows of the columns `tables` of a class. -/
def rowsOf (rcp : MetadataResource × MetadataClass) (tables : List MetadataTable) :
    List (List Str) :=
  if (v.makeSQLDataTableName rcp.1 rcp.2).isEmpty then []
  else (tables.filter (isNamed conn)).map fun table =>
    row conn v (v.makeSQLDataTableName rcp.1 rcp.2) (conn.tableName table) table

/-- The columns of a class in the order of their names. -/
def sortedTables (clazz : MetadataClass) : List MetadataTable :=
  (v.getTablesForClass clazz).mergeSort (tableNameLe conn)

variable {conn v} {rcp : MetadataResource × MetadataClass}

theorem processColumn_some (table : MetadataTable) :
    processColumn conn v rcp.1 rcp.2 (some table) = .ok (rowsOf conn v rcp [table]) := by
  unfold processColumn rowsOf
  dsimp only
  by_cases hname : (v.makeSQLDataTableName rcp.1 rcp.2).isEmpty = true
  · rw [if_pos hname, if_pos hname]
  · rw [if_neg hname, if_neg hname]
    by_cases hskip : (conn.mDataSource.bool .standardNames && table.standardName.isEmpty) = true
    · have hnamed : isNamed conn table = false := by
        unfold isNamed
        rw [hskip]
        rfl
      rw [if_pos hskip, List.filter_singleton, hnamed]
      rfl
    · have hnamed : isNamed conn table = true := by
        unfold isNamed
        rw [Bool.eq_false_iff.mpr hskip]
        rfl
      rw [if_neg hskip, List.filter_singleton, hnamed]
      rfl

theorem rowsOf_cons (table : MetadataTable) (tables : List MetadataTable) :
    rowsOf conn v rcp (table :: tables) =
      rowsOf conn v rcp [table] ++ rowsOf conn v rcp tables := by
  unfold rowsOf
  split_ifs
  · rfl
  · rw [← List.map_append, ← List.filter_append, List.singleton_append]

theorem processClass_all :
    processClass conn v [] rcp = .ok (rowsOf conn v rcp (sortedTables conn v rcp.2)) := by
  have hrows : ∀ tables : List MetadataTable, ∃ rows,
      (tables.mapM fun table => processColumn conn v rcp.1 rcp.2 (some table)) = .ok rows ∧
        rows.flatten = rowsOf conn v rcp tables := by
    intro tables
    refine ⟨tables.map fun table => rowsOf conn v rcp [table], ?_, ?_⟩
    · induction tables with
      | nil => rfl
      | cons table tables ih =>
        rw [List.mapM_cons, processColumn_some, ih]
        rfl
    · induction tables with
      | nil =>
        unfold rowsOf
        split_ifs <;> rfl
      | cons table tables ih =>
        rw [List.map_cons, List.flatten_cons, ih, ← rowsOf_cons]
  obtain ⟨rows, hrows, hflatten⟩ := hrows (sortedTables conn v rcp.2)
  show (List.mapM (fun table => processColumn conn v rcp.1 rcp.2 (some table))
    (sortedTables conn v rcp.2) >>= fun rows => pure rows.flatten) = _
  rw [hrows, ← hflatten]
  rfl

/-! ## One name -/

variable (conn v) in
/-- The columns of a class with the name `c`. -/
def tablesNamed (clazz : MetadataClass) (c : Str) : List MetadataTable :=
  (v.getTablesForClass clazz).filter fun table => conn.tableName table = c

/-- The row's `COLUMN_NAME` is `c`. -/
def hasColumnName (c : Str) (row : List Str) : Bool := row[3]? = some c

variable {c : Str}

theorem isNamed_of_tableName (hc : c ≠ []) {table : MetadataTable} (h : conn.tableName table = c) :
    isNamed conn table = true := by
  unfold Connection.tableName at h
  unfold isNamed
  split_ifs at h with hmode
  · have hempty : table.standardName.isEmpty = false := by
      rw [h]
      simpa using hc
    rw [hempty, Bool.and_false]
    rfl
  · rw [Bool.eq_false_iff.mpr hmode]
    rfl

theorem filter_rowsOf (tables : List MetadataTable) :
    (rowsOf conn v rcp tables).filter (hasColumnName c) =
      rowsOf conn v rcp (tables.filter fun table => conn.tableName table = c) := by
  unfold rowsOf
  split_ifs
  · rfl
  · have hrow : ∀ table, hasColumnName c (row conn v (v.makeSQLDataTableName rcp.1 rcp.2)
        (conn.tableName table) table) = decide (conn.tableName table = c) := by
      intro table
      show decide (some (conn.tableName table) = some c) = _
      simp only [Option.some.injEq]
    rw [List.filter_map, List.filter_filter, List.filter_filter]
    congr 1
    refine List.filter_congr fun table _ => ?_
    rw [Function.comp_apply, hrow, Bool.and_comm]

theorem length_rowsOf (hname : v.makeSQLDataTableName rcp.1 rcp.2 ≠ [])
    {tables : List MetadataTable} (h : ∀ table ∈ tables, isNamed conn table = true) :
    (rowsOf conn v rcp tables).length = tables.length := by
  unfold rowsOf
  rw [if_neg (by simpa using hname), List.length_map, List.filter_eq_self.mpr h]

/-- The rows of the full listing with the name `c` are those of the columns with that name. -/
theorem length_filter_rowsOf (hc : c ≠ []) (hname : v.makeSQLDataTableName rcp.1 rcp.2 ≠ []) :
    ((rowsOf conn v rcp (sortedTables conn v rcp.2)).filter (hasColumnName c)).length =
      (tablesNamed conn v rcp.2 c).length := by
  have hnamed : ∀ table ∈ (sortedTables conn v rcp.2).filter fun table => conn.tableName table = c,
      isNamed conn table = true := by
    intro table htable
    exact isNamed_of_tableName hc (by simpa using (List.mem_filter.mp htable).2)
  rw [filter_rowsOf, length_rowsOf hname hnamed]
  exact ((List.mergeSort_perm _ _).filter _).length_eq

variable (hmode : v.mStandardNames = conn.mDataSource.bool .standardNames)

include hmode in
theorem tableName_eq_columnName : conn.tableName = v.columnName := by
  ext1 table
  unfold MetadataView.columnName Connection.tableName
  rw [hmode]

include hmode in
/-- The class's columns are searched by the names that the listing shows. -/
theorem foundLast_getTable (clazz : MetadataClass) :
    TableCache.FoundLast conn.tableName (v.getTablesForClass clazz) c (v.getTable clazz c) := by
  rw [tableName_eq_columnName hmode]
  exact TableCache.getTable_foundLast v clazz c

theorem processClass_named (hc : c ≠ []) :
    processClass conn v c rcp = processColumn conn v rcp.1 rcp.2 (v.getTable rcp.2 c) :=
  if_neg (by simpa using hc)

include hmode in
theorem getTable_mem (hc : c ≠ []) {clazz : MetadataClass} {table : MetadataTable}
    (h : v.getTable clazz c = some table) :
    table ∈ tablesNamed conn v clazz c ∧ isNamed conn table = true := by
  have hfound := foundLast_getTable (c := c) hmode clazz
  rw [h] at hfound
  obtain ⟨-, hname, hlast⟩ := hfound
  refine ⟨List.mem_filter.mpr ⟨hlast.mem, by simpa using hname⟩, isNamed_of_tableName hc hname⟩

include hmode in
/-- A lookup adds no more rows than the listing has. -/
theorem length_processClass_le (hc : c ≠ []) {rows : List (List Str)}
    (h : processClass conn v c rcp = .ok rows) :
    rows.length ≤
      ((rowsOf conn v rcp (sortedTables conn v rcp.2)).filter (hasColumnName c)).length := by
  rw [processClass_named hc] at h
  by_cases hname : v.makeSQLDataTableName rcp.1 rcp.2 = []
  · unfold processColumn at h
    rw [hname] at h
    cases h
    exact Nat.zero_le _
  · rw [length_filter_rowsOf hc hname]
    rcases hfound : v.getTable rcp.2 c with _ | table
    · rw [hfound] at h
      unfold processColumn at h
      rw [if_neg (by simpa using hname)] at h
      cases h
    · rw [hfound, processColumn_some] at h
      obtain ⟨hmem, hnamed⟩ := getTable_mem hmode hc hfound
      have hone : (rowsOf conn v rcp [table]).length = 1 :=
        length_rowsOf hname fun t ht => by rwa [List.mem_singleton.mp ht]
      rw [← Except.ok.inj h, hone]
      exact List.length_pos_of_mem hmem

include hmode in
/-- **A class is looked up right** exactly when it has one column of that name, or is not listed. -/
theorem processClass_eq_filter_iff (hc : c ≠ []) :
    processClass conn v c rcp =
        .ok ((rowsOf conn v rcp (sortedTables conn v rcp.2)).filter (hasColumnName c)) ↔
      (v.makeSQLDataTableName rcp.1 rcp.2 ≠ [] → (tablesNamed conn v rcp.2 c).length = 1) := by
  rw [processClass_named hc]
  by_cases hname : v.makeSQLDataTableName rcp.1 rcp.2 = []
  · refine iff_of_true ?_ fun h => absurd hname h
    unfold processColumn rowsOf
    rw [hname]
    rfl
  · rw [forall_prop_of_true hname]
    rcases hfound : v.getTable rcp.2 c with _ | table
    · have hlookup := foundLast_getTable (c := c) hmode rcp.2
      rw [hfound] at hlookup
      have hnone : tablesNamed conn v rcp.2 c = [] := by
        refine List.filter_eq_nil_iff.mpr fun table htable => ?_
        simpa using hlookup.resolve_left hc table htable
      refine iff_of_false ?_ ?_
      · intro h
        unfold processColumn at h
        rw [if_neg (by simpa using hname)] at h
        cases h
      · rw [hnone]
        decide
    · obtain ⟨hmem, hnamed⟩ := getTable_mem hmode hc hfound
      have hone : (rowsOf conn v rcp [table]).length = 1 :=
        length_rowsOf hname fun t ht => by rwa [List.mem_singleton.mp ht]
      rw [processColumn_some]
      constructor
      · intro h
        have hlength := congrArg List.length (Except.ok.inj h)
        rw [length_filter_rowsOf hc hname, hone] at hlength
        exact hlength.symm
      · intro h
        obtain ⟨table', hsingle⟩ := List.length_eq_one_iff.mp h
        obtain rfl : table = table' := by
          rw [hsingle] at hmem
          exact List.mem_singleton.mp hmem
        have hsorted : ((sortedTables conn v rcp.2).filter fun table => conn.tableName table = c) =
            [table] := by
          have hperm := (List.mergeSort_perm (v.getTablesForClass rcp.2) (tableNameLe conn)).filter
            fun table => decide (conn.tableName table = c)
          exact List.perm_singleton.mp (hperm.trans (List.Perm.of_eq hsingle))
        rw [filter_rowsOf, hsorted]

/-! ## The two listings -/

variable {t : Str}

/-- `SQLColumns(t, c)` returns, and its rows are the rows of `SQLColumns(t, "")` with the
`COLUMN_NAME` `c`. -/
def NamedIsFilter (conn : Connection) (t c : Str) : Prop :=
  ∃ out full, execute conn (unpattern t) (unpattern c) = .ok out ∧
    execute conn (unpattern t) [] = .ok full ∧ out.rows = full.rows.filter (hasColumnName c)

/-- Each listed class among those that `mTable` names has exactly one column of the name `c`. -/
def OneOfEach (conn : Connection) (v : MetadataView) (mTable c : Str) : Prop :=
  ∀ rcp ∈ resourceClassPairs v mTable, v.makeSQLDataTableName rcp.1 rcp.2 ≠ [] →
    (tablesNamed conn v rcp.2 c).length = 1

theorem execute_of_pattern {mTable : Str} (h : '%' ∈ mTable) (mColumn : Str) :
    ∃ out, execute conn mTable mColumn = .ok out ∧ out.rows = [] := by
  unfold execute
  rw [if_pos h]
  exact ⟨_, rfl, rfl⟩

theorem execute_of_not_pattern (hview : conn.getMetadataView = some v) {mTable mColumn : Str}
    (ht : '%' ∉ mTable) (hc : '%' ∉ mColumn) :
    execute conn mTable mColumn =
      ((resourceClassPairs v mTable).mapM (processClass conn v mColumn)).map
        fun rows => .success rows.flatten := by
  have hmetadata := Connection.metadata_eq_ok_iff.mpr hview
  unfold execute
  rw [if_neg ht, if_neg hc, hmetadata]
  show ((resourceClassPairs v mTable).mapM (processClass conn v mColumn) >>= fun rows =>
    pure (Execution.success rows.flatten)) = _
  rcases (resourceClassPairs v mTable).mapM (processClass conn v mColumn) with _ | rows <;> rfl

/-- The full listing. -/
theorem execute_all (hview : conn.getMetadataView = some v) {mTable : Str} (ht : '%' ∉ mTable) :
    execute conn mTable [] = .ok (.success ((resourceClassPairs v mTable).flatMap fun rcp =>
      rowsOf conn v rcp (sortedTables conn v rcp.2))) := by
  obtain ⟨rows, hrows, hflatten⟩ := (mapM_flatten_eq_iff
    (g := fun rcp => rowsOf conn v rcp (sortedTables conn v rcp.2))
    (l := resourceClassPairs v mTable) (f := processClass conn v []) fun rcp _ rows hrows => by
      rw [processClass_all] at hrows
      rw [Except.ok.inj hrows]).mpr fun rcp _ => processClass_all
  rw [execute_of_not_pattern hview ht (by simp), hrows, ← hflatten]
  rfl

/-- **A column name filters the listing** exactly when every listed class has one column of that
name. -/
theorem namedIsFilter_iff (hview : conn.getMetadataView = some v)
    (hmode : v.mStandardNames = conn.mDataSource.bool .standardNames) (hc : c ≠ [])
    (hpattern : '%' ∉ c) (t : Str) :
    NamedIsFilter conn t c ↔ '%' ∈ unpattern t ∨ OneOfEach conn v (unpattern t) c := by
  have hcolumn := unpattern_of_not_mem hpattern
  unfold NamedIsFilter
  rw [hcolumn]
  by_cases ht : '%' ∈ unpattern t
  · obtain ⟨out, hout, houtRows⟩ := @execute_of_pattern conn _ ht c
    obtain ⟨full, hfull, hfullRows⟩ := @execute_of_pattern conn _ ht []
    refine iff_of_true ⟨out, full, hout, hfull, ?_⟩ (.inl ht)
    rw [houtRows, hfullRows]
    rfl
  · have hclass := mapM_flatten_eq_iff (f := processClass conn v c)
      (g := fun rcp => (rowsOf conn v rcp (sortedTables conn v rcp.2)).filter (hasColumnName c))
      (l := resourceClassPairs v (unpattern t)) fun rcp _ rows hrows =>
        length_processClass_le hmode hc hrows
    rw [or_iff_right ht, execute_of_not_pattern hview ht hpattern, execute_all hview ht]
    constructor
    · rintro ⟨out, full, hout, hfull, hrows⟩ rcp hrcp
      obtain ⟨rows, hrows', rfl⟩ := map_eq_ok.mp hout
      obtain rfl := Except.ok.inj hfull
      refine (processClass_eq_filter_iff hmode hc).mp (hclass.mp ⟨rows, hrows', ?_⟩ rcp hrcp)
      rw [← List.filter_flatMap]
      exact hrows
    · intro hone
      obtain ⟨rows, hrows, hflatten⟩ := hclass.mpr fun rcp hrcp =>
        (processClass_eq_filter_iff hmode hc).mpr (hone rcp hrcp)
      refine ⟨.success rows.flatten, _, ?_, rfl, ?_⟩
      · rw [hrows]
        rfl
      · exact hflatten.trans List.filter_flatMap.symm

/-! ### A column that only one of two classes has -/

/-- The column `ListPrice`. -/
def listPrice : MetadataTable :=
  ⟨1, "ListPrice".toList, "ListPrice".toList, [], .decimal, .other, 12, 2, [], [], false, true⟩

/-- A resource with the classes `classes`, the first of which has the column `ListPrice`. -/
def propertyView (classes : List MetadataClass) (hnodup : classes.Nodup) : MetadataView where
  mStandardNames := false
  mMetadata :=
    { getAllResources := [⟨1, "Property".toList, "Property".toList, "ListingID".toList⟩]
      getAllClasses := fun _ => classes
      getAllTables := fun clazz => if clazz.oid = 1 then [listPrice] else []
      getAllLookupTypes := fun _ _ => []
      getLookup := fun _ _ => none
      getLookupType := fun _ _ _ => none
      nodup_resources := nodup_property
      nodup_classes := fun _ => hnodup }

/-- A connection that has only a metadata view. -/
def viewing (v : MetadataView) : Connection :=
  ⟨DataSource.init, some v, none, fun _ => .error (.retsSql [])⟩

def residential : MetadataClass := ⟨1, "RES".toList, "RES".toList, []⟩

def land : MetadataClass := ⟨2, "LND".toList, "LND".toList, []⟩

theorem namedIsFilter_residential :
    NamedIsFilter (viewing (propertyView [residential] (by decide))) [] "ListPrice".toList :=
  (namedIsFilter_iff rfl rfl (by decide) (by decide) []).mpr (.inr fun _ hrcp _ => by
    obtain rfl := List.mem_singleton.mp hrcp
    rfl)

/-- The class without the column is given a null column. -/
theorem not_namedIsFilter_land :
    ¬ NamedIsFilter (viewing (propertyView [residential, land] (by decide))) []
      "ListPrice".toList := by
  rintro ⟨out, full, hout, -⟩
  have hfault : execute (viewing (propertyView [residential, land] (by decide))) (unpattern [])
      (unpattern "ListPrice".toList) = .error .nullTable := rfl
  rw [hfault] at hout
  cases hout

/-! ## The rows of a listing -/

/-- The columns that a class contributes: all, or the one of the name. -/
def candidates (v : MetadataView) (mColumn : Str) (clazz : MetadataClass) : List MetadataTable :=
  if mColumn.isEmpty then v.getTablesForClass clazz else (v.getTable clazz mColumn).toList

/-- The metadata table has a row in the listing of `mTable` and `mColumn`. -/
structure IsListed (conn : Connection) (v : MetadataView) (mTable mColumn : Str)
    (rcp : MetadataResource × MetadataClass) (table : MetadataTable) : Prop where
  noPattern : '%' ∉ mTable ∧ '%' ∉ mColumn
  ofClass : rcp ∈ resourceClassPairs v mTable
  hasName : v.makeSQLDataTableName rcp.1 rcp.2 ≠ []
  candidate : table ∈ candidates v mColumn rcp.2
  isNamed : isNamed conn table = true

theorem mem_rowsOf_iff {tables : List MetadataTable} {r : List Str} :
    r ∈ rowsOf conn v rcp tables ↔ v.makeSQLDataTableName rcp.1 rcp.2 ≠ [] ∧
      ∃ table ∈ tables, isNamed conn table = true ∧
        r = row conn v (v.makeSQLDataTableName rcp.1 rcp.2) (conn.tableName table) table := by
  unfold rowsOf
  split_ifs with hname
  · refine iff_of_false (by simp) fun h => h.1 (by simpa using hname)
  · rw [and_iff_right (by simpa using hname), List.mem_map]
    constructor
    · rintro ⟨table, htable, rfl⟩
      obtain ⟨hmem, hnamed⟩ := List.mem_filter.mp htable
      exact ⟨table, hmem, hnamed, rfl⟩
    · rintro ⟨table, hmem, hnamed, rfl⟩
      exact ⟨table, List.mem_filter.mpr ⟨hmem, hnamed⟩, rfl⟩

/-- The rows of a class. -/
theorem processClass_rows {mColumn : Str} {rows : List (List Str)}
    (h : processClass conn v mColumn rcp = .ok rows) (r : List Str) :
    r ∈ rows ↔ r ∈ rowsOf conn v rcp (candidates v mColumn rcp.2) := by
  unfold candidates
  by_cases hall : mColumn.isEmpty = true
  · obtain rfl : mColumn = [] := by simpa using hall
    rw [processClass_all] at h
    obtain rfl := Except.ok.inj h
    rw [if_pos hall, mem_rowsOf_iff, mem_rowsOf_iff]
    have hsorted : ∀ table, table ∈ sortedTables conn v rcp.2 ↔ table ∈ v.getTablesForClass rcp.2 :=
      fun table => (List.mergeSort_perm _ _).mem_iff
    simp only [hsorted]
  · rw [processClass_named (by simpa using hall)] at h
    rw [if_neg hall]
    rcases hfound : v.getTable rcp.2 mColumn with _ | table
    · rw [hfound] at h
      unfold processColumn at h
      dsimp only at h
      split_ifs at h
      · obtain rfl := Except.ok.inj h
        refine iff_of_false (by simp) fun hr => ?_
        obtain ⟨-, table, htable, -⟩ := mem_rowsOf_iff.mp hr
        cases htable
    · rw [hfound, processColumn_some] at h
      obtain rfl := Except.ok.inj h
      rfl

/-- **The rows of `SQLColumns`** are those of the listed columns. -/
theorem mem_rows_iff {mTable mColumn : Str} {out : Execution}
    (h : execute conn mTable mColumn = .ok out) {r : List Str} :
    r ∈ out.rows ↔ ∃ v rcp table, conn.getMetadataView = some v ∧
      IsListed conn v mTable mColumn rcp table ∧
        r = row conn v (v.makeSQLDataTableName rcp.1 rcp.2) (conn.tableName table) table := by
  by_cases htable : '%' ∈ mTable
  · obtain ⟨out', hout', hrows⟩ := @execute_of_pattern conn _ htable mColumn
    obtain rfl := Except.ok.inj (h.symm.trans hout')
    rw [hrows]
    refine iff_of_false (by simp) ?_
    rintro ⟨v, rcp, table, -, hlisted, -⟩
    exact hlisted.noPattern.1 htable
  by_cases hcolumn : '%' ∈ mColumn
  · unfold execute at h
    rw [if_neg htable, if_pos hcolumn] at h
    obtain rfl := Except.ok.inj h
    refine iff_of_false (by simp) ?_
    rintro ⟨v, rcp, table, -, hlisted, -⟩
    exact hlisted.noPattern.2 hcolumn
  rcases hview : conn.getMetadataView with _ | v
  · unfold execute Connection.metadata at h
    rw [if_neg htable, if_neg hcolumn, hview] at h
    cases h
  rw [execute_of_not_pattern hview htable hcolumn] at h
  obtain ⟨rows, hrows, rfl⟩ := map_eq_ok.mp h
  show r ∈ rows.flatten ↔ _
  rw [List.mem_flatten]
  constructor
  · rintro ⟨ofClass, hclass, hr⟩
    obtain ⟨rcp, hrcp, hprocess⟩ := (mem_mapM_iff hrows).mp hclass
    obtain ⟨hname, table, hmem, hnamed, rfl⟩ :=
      mem_rowsOf_iff.mp ((processClass_rows hprocess r).mp hr)
    exact ⟨v, rcp, table, rfl, ⟨⟨htable, hcolumn⟩, hrcp, hname, hmem, hnamed⟩, rfl⟩
  · rintro ⟨v', rcp, table, hv, hlisted, rfl⟩
    obtain rfl := Option.some.inj hv
    obtain ⟨ofClass, hprocess⟩ := exists_of_mapM hrows hlisted.ofClass
    refine ⟨ofClass, (mem_mapM_iff hrows).mpr ⟨rcp, hlisted.ofClass, hprocess⟩, ?_⟩
    rw [processClass_rows hprocess, mem_rowsOf_iff]
    exact ⟨hlisted.hasName, table, hlisted.candidate, hlisted.isNamed, rfl⟩

end ColumnMetadataQuery

end EzRets
