import EzRets.SelectLists
import EzRets.TableListing

/-!
# EzRets.ColumnAgreement — the columns of one data table, as four queries name them

`SQLColumns`, `SELECT *`, `SQLPrimaryKeys` and `SQLSpecialColumns` each name columns of the class
behind a data table, and each has its own test for columns without a name.  In system names
`SQLColumns` has none; in standard names the two key queries have none.
-/

namespace EzRets

open LastWins FaultRun

/-- The `COLUMN_NAME` of a row, which stands at index `i`. -/
def columnNameAt (i : Nat) (row : List Str) : Str := (row[i]?).getD []

/-- A selection from a part of a list is all of the part's when it leaves nothing out. -/
theorem perm_map_filter_iff {α β : Type*} {p q : α → Bool} {f : α → β} {l : List α}
    (h : ∀ a ∈ l, q a = true → p a = true) :
    ((l.filter p).map f).Perm ((l.filter q).map f) ↔ ∀ a ∈ l, p a = true → q a = true := by
  have hsub : (l.filter p).filter q = l.filter q := by
    rw [List.filter_filter]
    refine List.filter_congr fun a ha => ?_
    by_cases hq : q a = true
    · rw [h a ha hq, Bool.and_true]
    · rw [Bool.eq_false_iff.mpr hq, Bool.false_and]
  constructor
  · intro hperm a ha hp
    have hlength := hperm.length_eq
    rw [List.length_map, List.length_map, ← hsub] at hlength
    have hall := List.length_filter_eq_length_iff.mp hlength.symm
    exact hall a (List.mem_filter.mpr ⟨ha, hp⟩)
  · intro hall
    rw [List.filter_congr fun a ha => Bool.eq_iff_iff.mpr ⟨hall a ha, h a ha⟩]

namespace ColumnMetadataQuery

variable {conn : Connection} {v : MetadataView} {rcp : MetadataResource × MetadataClass} {t : Str}

theorem columnNames_rowsOf (hname : v.makeSQLDataTableName rcp.1 rcp.2 ≠ [])
    (tables : List MetadataTable) :
    (rowsOf conn v rcp tables).map (columnNameAt 3) =
      (tables.filter (isNamed conn)).map conn.tableName := by
  unfold rowsOf
  rw [if_neg (by simpa using hname), List.map_map]
  rfl

/-- A name that leads to a class leads to one that is listed. -/
theorem listed_of_resolved (h : v.getResourceClassPairBySQLTable t = some rcp) : v.Listed rcp := by
  obtain ⟨res, clazz⟩ := rcp
  obtain ⟨hres, hclazz⟩ := MetadataView.getResourceClassPairBySQLTable_eq_some_iff.mp h
  obtain ⟨hr, hrne, -⟩ := MetadataView.getResource_eq_some_iff.mp hres
  obtain ⟨-, -, hc, hcne, -⟩ := MetadataView.getClass_eq_some_iff.mp hclazz
  exact ⟨hr ▸ hrne, hc ▸ hcne⟩

theorem ne_nil_of_resolved (h : v.getResourceClassPairBySQLTable t = some rcp) : t ≠ [] := by
  rintro rfl
  cases h

/-- `SQLColumns` of a data table. -/
theorem execute_dataTable (hview : conn.getMetadataView = some v) (hpattern : '%' ∉ t)
    (hdata : t.take 5 = "data:".toList) (h : v.getResourceClassPairBySQLTable t = some rcp) :
    ∃ out, execute conn (unpattern t) [] = .ok out ∧ out.rows.map (columnNameAt 3) =
      ((sortedTables conn v rcp.2).filter (isNamed conn)).map conn.tableName := by
  have hname := MetadataView.makeSQLDataTableName_ne_nil_iff.mpr (listed_of_resolved h)
  have hpairs : resourceClassPairs v t = [rcp] := by
    unfold resourceClassPairs
    rw [if_neg (by simpa using ne_nil_of_resolved h), if_pos hdata, h]
    rfl
  rw [unpattern_of_not_mem hpattern, execute_all hview hpattern, hpairs]
  refine ⟨_, rfl, ?_⟩
  rw [List.flatMap_singleton]
  exact columnNames_rowsOf hname _

end ColumnMetadataQuery

/-! ## `SELECT *` -/

namespace OnDemandDataQuery

open ColumnMetadataQuery

variable {conn : Connection} {v : MetadataView} {res : MetadataResource} {clazz : MetadataClass}
variable {useCompactFormat : Bool} {q : DmqlQuery} {t : Str}

/-- `SQLColumns` of the table `t` returns the column names of the query `q`, in some order. -/
def ListsSelected (conn : Connection) (t : Str) (useCompactFormat : Bool) (q : DmqlQuery) : Prop :=
  ∃ out rs, ColumnMetadataQuery.execute conn (unpattern t) [] = .ok out ∧
    prepareResultSet conn useCompactFormat q = .ok (.ok rs) ∧
    (out.rows.map (columnNameAt 3)).Perm (rs.mColumns.map (·.mName))

theorem listsSelected_iff_perm {out : Execution} {rs : ResultSet}
    (hout : ColumnMetadataQuery.execute conn (unpattern t) [] = .ok out)
    (hprepare : prepareResultSet conn useCompactFormat q = .ok (.ok rs)) :
    ListsSelected conn t useCompactFormat q ↔
      (out.rows.map (columnNameAt 3)).Perm (rs.mColumns.map (·.mName)) := by
  refine ⟨?_, fun hperm => ⟨out, rs, hout, hprepare, hperm⟩⟩
  rintro ⟨out', rs', hout', hprepare', hperm⟩
  obtain rfl := Except.ok.inj (hout.symm.trans hout')
  obtain rfl := Except.ok.inj (Except.ok.inj (hprepare.symm.trans hprepare'))
  exact hperm

variable (conn v) in
/-- In system names every column of the class has one.  Of a table name with a `'%'`, which
`SQLColumns` takes for a pattern, no column may have a name. -/
def AllNamed (t : Str) (clazz : MetadataClass) : Prop :=
  if '%' ∈ t then ∀ table ∈ v.getTablesForClass clazz, conn.tableName table = []
  else conn.mDataSource.bool .standardNames = true ∨
    ∀ table ∈ v.getTablesForClass clazz, table.systemName ≠ []

theorem prepareResultSet_all (hview : conn.getMetadataView = some v)
    (hclass : v.getClass q.getResource q.getClass = some clazz)
    (hfields : q.getFields.getD [] = []) :
    ∃ rs, prepareResultSet conn useCompactFormat q = .ok (.ok rs) ∧ rs.mColumns.map (·.mName) =
      ((v.getTablesForClass clazz).filter fun table => !(conn.tableName table).isEmpty).map
        conn.tableName := by
  rw [prepareResultSet_of_getClass hview hclass, hfields]
  refine ⟨_, rfl, ?_⟩
  exact List.map_map

/-- The two tests for a name agree on the columns. -/
theorem namesAgree_iff {tables : List MetadataTable} :
    (∀ table ∈ tables, isNamed conn table = true → (!(conn.tableName table).isEmpty) = true) ↔
      conn.mDataSource.bool .standardNames = true ∨ ∀ table ∈ tables, table.systemName ≠ [] := by
  unfold isNamed Connection.tableName
  cases conn.mDataSource.bool .standardNames <;> simp

/-- **`SQLColumns` lists what `SELECT *` returns** exactly when the table's name is no pattern and
no column lacks the system name that it is listed under. -/
theorem listsSelected_iff (hview : conn.getMetadataView = some v)
    (hname : v.makeSQLDataTableName res clazz = t)
    (hself : v.getResourceClassPairBySQLTable t = some (res, clazz))
    (hclass : v.getClass q.getResource q.getClass = some clazz)
    (hfields : q.getFields.getD [] = []) :
    ListsSelected conn t useCompactFormat q ↔ AllNamed conn v t clazz := by
  obtain ⟨rs, hprepare, hnames⟩ :=
    @prepareResultSet_all conn v clazz useCompactFormat q hview hclass hfields
  have hdata : t.take 5 = "data:".toList := by
    rw [← hname]
    exact MetadataView.take_makeSQLDataTableName (listed_of_resolved hself)
  unfold AllNamed
  by_cases hpattern : '%' ∈ t
  · have hraw : unpattern t = t := by
      refine if_neg ?_
      rintro rfl
      cases hdata
    obtain ⟨out, hout, hrows⟩ := @execute_of_pattern conn t hpattern []
    rw [if_pos hpattern, listsSelected_iff_perm (by rw [hraw, hout]) hprepare, hrows, hnames]
    constructor
    · intro hperm
      have hnone := List.map_eq_nil_iff.mp (List.nil_perm.mp hperm)
      intro table htable
      simpa using List.filter_eq_nil_iff.mp hnone table htable
    · intro hnone
      have hempty : ((v.getTablesForClass clazz).filter fun table =>
          !(conn.tableName table).isEmpty) = [] := by
        refine List.filter_eq_nil_iff.mpr fun table htable => ?_
        simp [hnone table htable]
      rw [hempty]
      exact .nil
  · obtain ⟨out, hout, hrows⟩ := execute_dataTable hview hpattern hdata hself
    have hsorted := ((List.mergeSort_perm (v.getTablesForClass clazz) (tableNameLe conn)).filter
      (isNamed conn)).map conn.tableName
    have hnamed : ∀ table ∈ v.getTablesForClass clazz,
        (!(conn.tableName table).isEmpty) = true → isNamed conn table = true := fun table _ h =>
      isNamed_of_tableName (by simpa using h) rfl
    have hagree := @perm_map_filter_iff _ _ (isNamed conn)
      (fun table => !(conn.tableName table).isEmpty) conn.tableName _ hnamed
    rw [if_neg hpattern, listsSelected_iff_perm hout hprepare, hrows, hnames]
    constructor
    · intro hperm
      exact namesAgree_iff.mp (hagree.mp (hsorted.symm.trans hperm))
    · intro h
      exact hsorted.trans (hagree.mpr (namesAgree_iff.mpr h))

def property : MetadataResource :=
  ⟨1, "Property".toList, "Property".toList, "ListingID".toList⟩

/-- A resource with one class, of the columns `tables`. -/
def classView (standardNames : Bool) (tables : List MetadataTable) : MetadataView where
  mStandardNames := standardNames
  mMetadata :=
    { getAllResources := [property]
      getAllClasses := fun _ => [residential]
      getAllTables := fun _ => tables
      getAllLookupTypes := fun _ _ => []
      getLookup := fun _ _ => none
      getLookupType := fun _ _ _ => none
      nodup_resources := by decide
      nodup_classes := fun _ => by decide }

/-- `SELECT *` of the class. -/
def selectAll : DmqlQuery := ⟨"Property".toList, "RES".toList, none, none, 0, 0, false⟩

/-- The table of the class. -/
def residentialTable : Str := "data:Property:RES".toList

theorem listsSelected_listPrice :
    ListsSelected (viewing (classView false [listPrice])) residentialTable false selectAll := by
  have hview : (viewing (classView false [listPrice])).getMetadataView =
      some (classView false [listPrice]) := rfl
  have hnamed : AllNamed (viewing (classView false [listPrice])) (classView false [listPrice])
      residentialTable residential := .inr fun table htable => by
    obtain rfl := List.mem_singleton.mp htable
    decide
  exact (@listsSelected_iff _ _ property residential false selectAll residentialTable hview rfl rfl
    rfl rfl).mpr hnamed

/-- The column `ListPrice` without a system name. -/
def namelessColumn : MetadataTable := { listPrice with systemName := [] }

/-- A column with a standard name only is listed without a name, and not selected. -/
theorem not_listsSelected_nameless :
    ¬ ListsSelected (viewing (classView false [namelessColumn])) residentialTable false
      selectAll := by
  rintro ⟨out, rs, hout, hrs, hperm⟩
  have hview : (viewing (classView false [namelessColumn])).getMetadataView =
      some (classView false [namelessColumn]) := rfl
  obtain ⟨out', hout', hnames⟩ :=
    @execute_dataTable _ _ _ residentialTable hview (by decide) rfl rfl
  rw [hout] at hout'
  obtain rfl := Except.ok.inj hout'
  obtain rfl := Except.ok.inj (Except.ok.inj hrs)
  have hsorted : sortedTables (viewing (classView false [namelessColumn]))
      (classView false [namelessColumn]) residential = [namelessColumn] :=
    List.mergeSort_singleton ..
  have hlength := hperm.length_eq
  rw [hnames, hsorted] at hlength
  cases hlength

end OnDemandDataQuery

/-! ## Keys -/

namespace PrimaryKeysMetadataQuery

open ColumnMetadataQuery

variable {conn : Connection} {v : MetadataView} {table : MetadataTable} {t : Str}

/-- `name` is a name, and one of those that the execution of `SQLColumns` lists. -/
def IsListedName (listing : Execution) (name : Str) : Prop :=
  name ≠ [] ∧ name ∈ listing.rows.map (columnNameAt 3)

/-- The columns that `SQLPrimaryKeys` and `SQLSpecialColumns` return for the table `t`, whatever
else they are asked, are columns of `SQLColumns` for it. -/
def KeysAreColumns (conn : Connection) (t : Str) : Prop :=
  ∃ listing keys, ColumnMetadataQuery.execute conn (unpattern t) [] = .ok listing ∧
    execute conn t = .ok keys ∧ (∀ r ∈ keys.rows, IsListedName listing (columnNameAt 3 r)) ∧
    ∀ identifierType scope nullable, ∃ special,
      SpecialColumnsMetadataQuery.execute conn identifierType t scope nullable = .ok special ∧
      ∀ r ∈ special.rows, IsListedName listing (columnNameAt 1 r)

/-- The key column is one of its class, and has a system name. -/
theorem keyTable_eq_some (h : keyTable v t = some table) :
    ∃ rcp, v.getResourceClassPairBySQLTable t = some rcp ∧
      table ∈ v.getTablesForClass rcp.2 ∧ table.systemName ≠ [] := by
  obtain ⟨rcp, hrcp, hkey⟩ := Option.bind_eq_some_iff.mp h
  have hfound := TableCache.getKeyFieldTable_foundLast v rcp.2 rcp.1.keyField
  rw [hkey] at hfound
  obtain ⟨hne, hname, hlast⟩ := hfound
  exact ⟨rcp, hrcp, hlast.mem, fun hempty => hne (hname.symm.trans hempty)⟩

/-- `SQLColumns` without a column name returns. -/
theorem execute_listing (hview : conn.getMetadataView = some v) (mTable : Str) :
    ∃ listing, ColumnMetadataQuery.execute conn mTable [] = .ok listing := by
  by_cases hpattern : '%' ∈ mTable
  · obtain ⟨out, hout, -⟩ := @execute_of_pattern conn mTable hpattern []
    exact ⟨out, hout⟩
  · exact ⟨_, execute_all hview hpattern⟩

/-- A listing with rows is one of a name that is no pattern and begins like a data table's. -/
theorem dataTable_of_listing (hview : conn.getMetadataView = some v) {rcp : MetadataResource ×
    MetadataClass} (hresolved : v.getResourceClassPairBySQLTable t = some rcp)
    {listing : Execution} (h : ColumnMetadataQuery.execute conn (unpattern t) [] = .ok listing)
    (hrows : listing.rows ≠ []) : t.take 5 = "data:".toList ∧ '%' ∉ t := by
  have hraw : unpattern t = t := by
    refine if_neg ?_
    rintro rfl
    cases hresolved
  rw [hraw] at h
  have hpattern : '%' ∉ t := by
    intro hpattern
    obtain ⟨out, hout, hnone⟩ := @execute_of_pattern conn t hpattern []
    rw [h] at hout
    obtain rfl := Except.ok.inj hout
    exact hrows hnone
  refine ⟨?_, hpattern⟩
  by_contra hdata
  have hpairs : resourceClassPairs v t = [] := by
    unfold resourceClassPairs
    rw [if_neg (by simpa using ne_nil_of_resolved hresolved), if_neg hdata]
  rw [execute_all hview hpattern, hpairs] at h
  obtain rfl := Except.ok.inj h
  exact hrows rfl

/-- `SQLPrimaryKeys` returns the name of the key column. -/
theorem execute_keys (hview : conn.getMetadataView = some v) :
    ∃ keys, execute conn t = .ok keys ∧
      keys.rows.map (columnNameAt 3) = (keyTable v t).toList.map conn.tableName := by
  unfold execute
  rw [Connection.metadata_eq_ok_iff.mpr hview]
  exact ⟨_, rfl, List.map_map⟩

/-- `SQLSpecialColumns` returns no other name. -/
theorem execute_special (hview : conn.getMetadataView = some v)
    (identifierType scope nullable : Nat) :
    ∃ special, SpecialColumnsMetadataQuery.execute conn identifierType t scope nullable =
      .ok special ∧ ∀ r ∈ special.rows, ∃ table, keyTable v t = some table ∧
        columnNameAt 1 r = conn.tableName table := by
  unfold SpecialColumnsMetadataQuery.execute
  split_ifs
  · exact ⟨_, rfl, fun r hr => nomatch hr⟩
  · exact ⟨_, rfl, fun r hr => nomatch hr⟩
  · exact ⟨_, rfl, fun r hr => nomatch hr⟩
  · rw [Connection.metadata_eq_ok_iff.mpr hview]
    refine ⟨_, rfl, fun r hr => ?_⟩
    obtain ⟨table, htable, rfl⟩ := List.mem_map.mp hr
    exact ⟨table, Option.mem_toList.mp htable, rfl⟩

/-- A key column with a name in the current mode is listed. -/
theorem isListedName_of_key (hview : conn.getMetadataView = some v)
    (hkey : keyTable v t = some table)
    (hnamed : conn.mDataSource.bool .standardNames = true → table.standardName ≠ [])
    (hdata : t.take 5 = "data:".toList) (hpattern : '%' ∉ t) {listing : Execution}
    (h : ColumnMetadataQuery.execute conn (unpattern t) [] = .ok listing) :
    IsListedName listing (conn.tableName table) := by
  obtain ⟨rcp, hresolved, hmem, hsystem⟩ := keyTable_eq_some hkey
  have hne : conn.tableName table ≠ [] := by
    unfold Connection.tableName
    split_ifs with hmode
    · exact hnamed hmode
    · exact hsystem
  obtain ⟨out, hout, hnames⟩ := execute_dataTable hview hpattern hdata hresolved
  rw [h] at hout
  obtain rfl := Except.ok.inj hout
  refine ⟨hne, ?_⟩
  have hsorted : table ∈ sortedTables conn v rcp.2 := List.mem_mergeSort.mpr hmem
  rw [hnames]
  exact List.mem_map_of_mem (List.mem_filter.mpr ⟨hsorted, isNamed_of_tableName hne rfl⟩)

/-- **The keys are real columns** exactly when the key column of the table, if it has one, has a
standard name where these are used, and the table's name begins like a data table's and is no
pattern. -/
theorem keysAreColumns_iff (hview : conn.getMetadataView = some v) :
    KeysAreColumns conn t ↔ ∀ table, keyTable v t = some table →
      (conn.mDataSource.bool .standardNames = true → table.standardName ≠ []) ∧
        t.take 5 = "data:".toList ∧ '%' ∉ t := by
  constructor
  · rintro ⟨listing, keys, hlisting, hkeys, hlisted, -⟩ table hkey
    obtain ⟨keys', hkeys', hnames⟩ := @execute_keys conn v t hview
    rw [hkeys] at hkeys'
    obtain rfl := Except.ok.inj hkeys'
    have hreported : conn.tableName table ∈ keys.rows.map (columnNameAt 3) := by
      rw [hnames, hkey]
      exact List.mem_singleton.mpr rfl
    obtain ⟨r, hr, hname⟩ := List.mem_map.mp hreported
    obtain ⟨hne, hmem⟩ := hlisted r hr
    rw [hname] at hne hmem
    obtain ⟨rcp, hresolved, -⟩ := keyTable_eq_some hkey
    refine ⟨fun hmode => ?_, dataTable_of_listing hview hresolved hlisting ?_⟩
    · unfold Connection.tableName at hne
      rwa [if_pos hmode] at hne
    · rintro hnone
      rw [hnone] at hmem
      cases hmem
  · intro h
    obtain ⟨listing, hlisting⟩ := @execute_listing conn v hview (unpattern t)
    obtain ⟨keys, hkeys, hnames⟩ := @execute_keys conn v t hview
    have hlisted : ∀ table, keyTable v t = some table →
        IsListedName listing (conn.tableName table) := by
      intro table hkey
      obtain ⟨hnamed, hdata, hpattern⟩ := h table hkey
      exact isListedName_of_key hview hkey hnamed hdata hpattern hlisting
    refine ⟨listing, keys, hlisting, hkeys, fun r hr => ?_, fun identifierType scope nullable => ?_⟩
    · have hname := List.mem_map_of_mem (f := columnNameAt 3) hr
      rw [hnames] at hname
      obtain ⟨table, htable, hname⟩ := List.mem_map.mp hname
      rw [← hname]
      exact hlisted table (Option.mem_toList.mp htable)
    · obtain ⟨special, hspecial, hrows⟩ :=
        @execute_special conn v t hview identifierType scope nullable
      refine ⟨special, hspecial, fun r hr => ?_⟩
      obtain ⟨table, hkey, hname⟩ := hrows r hr
      rw [hname]
      exact hlisted table hkey

/-- The key column of `classView`, with the standard name `standardName`. -/
def listingID (standardName : Str) : MetadataTable :=
  ⟨2, "ListingID".toList, standardName, [], .character, .other, 10, 0, [], [], false, true⟩

/-- A connection that has only the view `v`, in standard names. -/
def viewingStandard (v : MetadataView) : Connection :=
  { viewing v with mDataSource :=
      { DataSource.init with bool := fun setting => setting = .standardNames } }

open OnDemandDataQuery in
theorem keysAreColumns_listingID :
    KeysAreColumns (viewingStandard (classView true [listingID "ListingID".toList]))
      residentialTable := by
  have hview : (viewingStandard (classView true [listingID "ListingID".toList])).getMetadataView =
      some (classView true [listingID "ListingID".toList]) := rfl
  refine (keysAreColumns_iff hview).mpr fun table hkey => ?_
  have hfound : keyTable (classView true [listingID "ListingID".toList]) residentialTable =
      some (listingID "ListingID".toList) := rfl
  rw [hfound] at hkey
  obtain rfl := Option.some.inj hkey
  exact ⟨fun _ => by decide, by decide, by decide⟩

open OnDemandDataQuery in
/-- A key field without a standard name is returned without a name. -/
theorem not_keysAreColumns_nameless :
    ¬ KeysAreColumns (viewingStandard (classView true [listingID []])) residentialTable := by
  rintro ⟨listing, keys, -, hkeys, hlisted, -⟩
  have hreported : execute (viewingStandard (classView true [listingID []])) residentialTable =
      .ok (.success [[[], [], residentialTable, [], "1".toList, []]]) := rfl
  rw [hreported] at hkeys
  obtain rfl := Except.ok.inj hkeys
  exact (hlisted _ (List.mem_singleton.mpr rfl)).1 rfl

end PrimaryKeysMetadataQuery

end EzRets
