import EzRets.ColumnListing
import EzRets.TableNames

/-!
# EzRets.TableListing — the table names of the listing, and those that are found

`SQLTables` lists the names that the metadata gives rise to; asked for one name it takes the name
apart and looks the pieces up.  The two need not agree: the lookup does not look at all pieces, and
the names of object tables are made of resource IDs but found by the names of the current mode.
-/

namespace EzRets

open FaultRun LastWins

namespace MetadataView

variable (v : MetadataView)

/-- The `i`-th piece of a table name, empty where there is none. -/
def piece (t : Str) (i : Nat) : Str := ((t.splitOn ':')[i]?).getD []

/-- Some resource of the name `rn` has a class of the name `cn`. -/
def SomeHasClass (rn cn : Str) : Prop :=
  ∃ res ∈ v.mMetadata.getAllResources, v.resName res = rn ∧ rn ≠ [] ∧
    ∃ clazz ∈ v.mMetadata.getAllClasses res.resourceID, v.className clazz = cn ∧ cn ≠ []

/-- The last resource of the name `rn` has a class of the name `cn`. -/
def LastHasClass (rn cn : Str) : Prop :=
  ∃ res, IsLastNamed v.resName v.mMetadata.getAllResources res ∧ v.resName res = rn ∧ rn ≠ [] ∧
    ∃ clazz ∈ v.mMetadata.getAllClasses res.resourceID, v.className clazz = cn ∧ cn ≠ []

/-- `t` is the data table name of a resource and a class. -/
def IsDataName (t : Str) : Prop :=
  ∃ p ∈ v.getResourceClassPairs, v.Listed p ∧ v.makeSQLDataTableName p.1 p.2 = t

/-- `t` is an object table name of a resource. -/
def IsObjectName (t : Str) : Prop :=
  ∃ res ∈ v.mMetadata.getAllResources, res.resourceID ≠ [] ∧
    ∃ type, makeSQLObjectTableName res type = t

variable {v}

theorem mem_getResourceClassPairs {res : MetadataResource} {clazz : MetadataClass} :
    (res, clazz) ∈ v.getResourceClassPairs ↔
      res ∈ v.mMetadata.getAllResources ∧ clazz ∈ v.mMetadata.getAllClasses res.resourceID := by
  simp [getResourceClassPairs]

/-! ## Data tables -/

/-- The lookup of a data table sees the second and the third piece of the name. -/
theorem isSome_getResourceClassPairBySQLTable {t : Str} :
    (v.getResourceClassPairBySQLTable t).isSome = true ↔
      v.LastHasClass (piece t 1) (piece t 2) := by
  rw [Option.isSome_iff_exists]
  constructor
  · rintro ⟨⟨res, clazz⟩, h⟩
    obtain ⟨hres, hclazz⟩ := getResourceClassPairBySQLTable_eq_some_iff.mp h
    obtain ⟨hname, hne, hlast⟩ := getResource_eq_some_iff.mp hres
    obtain ⟨res', hres', hclassName, hclassNe, hclassLast⟩ := getClass_eq_some_iff.mp hclazz
    obtain rfl : res = res' := Option.some.inj (hres.symm.trans hres')
    exact ⟨res, hlast, hname, hne, clazz, hclassLast.mem, hclassName, hclassNe⟩
  · rintro ⟨res, hlast, hname, hne, clazz, hclazz, hclassName, hclassNe⟩
    obtain ⟨clazz', hclassLast, hclassName'⟩ := @exists_isLastNamed _ _ v.className _ _ hclazz
    have hres : v.getResource (piece t 1) = some res :=
      getResource_eq_some_iff.mpr ⟨hname, hne, hlast⟩
    refine ⟨(res, clazz'), getResourceClassPairBySQLTable_eq_some_iff.mpr ⟨hres, ?_⟩⟩
    exact getClass_eq_some_iff.mpr
      ⟨res, hres, hclassName'.trans hclassName, hclassNe, hclassLast⟩

theorem getSQLDataTableMetadataOf_ne_nil_iff {t : Str} :
    v.getSQLDataTableMetadataOf t ≠ [] ↔ v.LastHasClass (piece t 1) (piece t 2) := by
  rw [← isSome_getResourceClassPairBySQLTable]
  unfold getSQLDataTableMetadataOf
  rcases v.getResourceClassPairBySQLTable t with _ | ⟨res, clazz⟩ <;> simp

/-- The pieces of a data table name. -/
theorem splitOn_data {rest : Str} :
    ("data:".toList ++ rest).splitOn ':' = "data".toList :: rest.splitOn ':' := by
  have hsplit : "data:".toList ++ rest = "data".toList ++ ':' :: rest := rfl
  rw [hsplit, List.splitOn_append_cons_self_of_not_mem (by decide)]

/-- **With three pieces at most** the listed names are those of the classes that have the two names
of the pieces. -/
theorem isDataName_iff {t : Str} (ht : t.take 5 = "data:".toList)
    (hpieces : (t.splitOn ':').length ≤ 3) :
    v.IsDataName t ↔ v.SomeHasClass (piece t 1) (piece t 2) := by
  obtain ⟨rest, rfl⟩ : ∃ rest, t = "data:".toList ++ rest := ⟨t.drop 5, by
    rw [← ht, List.take_append_drop]⟩
  constructor
  · rintro ⟨⟨res, clazz⟩, hmem, hlisted, hname⟩
    obtain ⟨hres, hclazz⟩ := mem_getResourceClassPairs.mp hmem
    have hsplit := splitOn_makeSQLDataTableName hlisted
    rw [hname] at hsplit
    rw [hsplit, List.length_cons, List.length_append] at hpieces
    have hr := List.length_pos_iff.mpr (List.splitOn_ne_nil ':' (v.resName res))
    have hc := List.length_pos_iff.mpr (List.splitOn_ne_nil ':' (v.className clazz))
    have hrlength : ((v.resName res).splitOn ':').length ≤ 1 := by omega
    have hclength : ((v.className clazz).splitOn ':').length ≤ 1 := by omega
    rw [Split.splitOn_of_length_le_one hrlength, Split.splitOn_of_length_le_one hclength] at hsplit
    have hone : piece ("data:".toList ++ rest) 1 = v.resName res := by
      unfold piece
      rw [hsplit]
      rfl
    have htwo : piece ("data:".toList ++ rest) 2 = v.className clazz := by
      unfold piece
      rw [hsplit]
      rfl
    rw [hone, htwo]
    exact ⟨res, hres, rfl, hlisted.1, clazz, hclazz, rfl, hlisted.2⟩
  · rintro ⟨res, hres, hrn, hrne, clazz, hclazz, hcn, hcne⟩
    have hlisted : v.Listed (res, clazz) := ⟨hrn ▸ hrne, hcn ▸ hcne⟩
    refine ⟨(res, clazz), mem_getResourceClassPairs.mpr ⟨hres, hclazz⟩, hlisted, ?_⟩
    unfold piece at hrn hcn hcne
    rw [splitOn_data] at hpieces hrn hcn hcne
    obtain ⟨x, xs, hrest⟩ := List.exists_cons_of_ne_nil (List.splitOn_ne_nil ':' rest)
    rw [hrest] at hpieces hrn hcn hcne
    rcases xs with _ | ⟨y, ys⟩
    · exact absurd rfl hcne
    · obtain rfl : ys = [] := by
        rw [List.length_cons, List.length_cons, List.length_cons] at hpieces
        exact List.length_eq_zero_iff.mp (by omega)
      have hrestEq := Split.eq_of_splitOn_pair hrest
      have hr : v.resName res = x := hrn
      have hc : v.className clazz = y := hcn
      unfold makeSQLDataTableName
      dsimp only
      obtain ⟨hrne', hcne'⟩ := hlisted
      rw [hr] at hrne' ⊢
      rw [hc] at hcne' ⊢
      rw [hrestEq]
      simp [hrne', hcne']

theorem mem_dataNames {t : Str} :
    t ∈ v.getSQLDataTableMetadata.map Prod.fst ↔ v.IsDataName t := by
  rw [getSQLDataTableMetadata_names, List.mem_map]
  constructor
  · rintro ⟨⟨res, clazz⟩, hp, hname⟩
    obtain ⟨hmem, hne⟩ := List.mem_filter.mp hp
    refine ⟨(res, clazz), hmem, makeSQLDataTableName_ne_nil_iff.mp (by simpa using hne), hname⟩
  · rintro ⟨⟨res, clazz⟩, hmem, hlisted, hname⟩
    have hne := makeSQLDataTableName_ne_nil_iff.mpr hlisted
    exact ⟨(res, clazz), List.mem_filter.mpr ⟨hmem, by simpa using hne⟩, hname⟩

/-! ## Object tables -/

theorem mem_objectNames {t : Str} (ht : t ≠ []) :
    t ∈ v.getSQLObjectTableMetadata.map Prod.fst ↔ v.IsObjectName t := by
  unfold getSQLObjectTableMetadata IsObjectName
  simp only [List.map_flatMap, List.mem_flatMap, List.map_cons, List.map_nil, List.mem_cons,
    List.not_mem_nil, or_false]
  refine exists_congr fun res => and_congr_right fun _ => ?_
  have hid : ∀ type, makeSQLObjectTableName res type = t → res.resourceID ≠ [] := by
    rintro type hname hid
    unfold makeSQLObjectTableName at hname
    rw [hid] at hname
    exact ht hname.symm
  constructor
  · rintro (h | h)
    · exact ⟨hid .location h.symm, .location, h.symm⟩
    · exact ⟨hid .binary h.symm, .binary, h.symm⟩
  · rintro ⟨-, type, h⟩
    cases type
    · exact .inl h.symm
    · exact .inr h.symm

/-- A name has one of the two beginnings at most. -/
theorem take_of_isObjectName {t : Str} (h : v.IsObjectName t) : t.take 5 ≠ "data:".toList := by
  obtain ⟨res, -, hid, type, rfl⟩ := h
  have hne : (!res.resourceID.isEmpty) = true := by simpa using hid
  unfold makeSQLObjectTableName
  rw [if_pos hne]
  have hstart : ∀ s : Str, ("object:".toList ++ s).take 5 = "objec".toList := fun s => rfl
  rw [List.append_assoc, List.append_assoc, hstart]
  decide

theorem take_makeSQLDataTableName {res : MetadataResource} {clazz : MetadataClass}
    (h : v.Listed (res, clazz)) :
    (v.makeSQLDataTableName res clazz).take 5 = "data:".toList := by
  obtain ⟨hr, hc⟩ := h
  have hname : v.makeSQLDataTableName res clazz =
      "data:".toList ++ (v.resName res ++ (":".toList ++ v.className clazz)) := by
    simp [makeSQLDataTableName, hr, hc]
  rw [hname]
  rfl

theorem take_of_isDataName {t : Str} (h : v.IsDataName t) : t.take 5 = "data:".toList := by
  obtain ⟨⟨res, clazz⟩, -, hlisted, rfl⟩ := h
  exact take_makeSQLDataTableName hlisted

/-- A resource is known by a name when some resource has it. -/
theorem isSome_getResource {name : Str} (hname : name ≠ []) :
    (v.getResource name).isSome = true ↔
      ∃ res ∈ v.mMetadata.getAllResources, v.resName res = name := by
  rw [Option.isSome_iff_exists]
  constructor
  · rintro ⟨res, hres⟩
    obtain ⟨hresName, -, hlast⟩ := getResource_eq_some_iff.mp hres
    exact ⟨res, hlast.mem, hresName⟩
  · rintro ⟨res, hmem, rfl⟩
    obtain ⟨res', hlast, hname'⟩ := @exists_isLastNamed _ _ v.resName _ _ hmem
    exact ⟨res', getResource_eq_some_iff.mpr ⟨hname', hname, hlast⟩⟩

/-- The lookup of an object table sees the third piece of the name. -/
theorem getSQLObjectTableMetadataOf_eq (t : Str) :
    v.getSQLObjectTableMetadataOf t =
      if piece t 2 = [] then .ok []
      else match v.getResource (piece t 2) with
        | some res => .ok [(t, objectTableDescription res)]
        | none => .error .nullResource := by
  unfold getSQLObjectTableMetadataOf
  by_cases hpiece : piece t 2 = []
  · rw [if_pos hpiece]
    exact if_neg (by simpa [piece] using hpiece)
  · rw [if_neg hpiece]
    exact if_pos (by simpa [piece] using hpiece)

variable (v) in
/-- The lookup of the name `t` and the listing agree. -/
def FoundAsListed (t : Str) : Prop :=
  if t.take 5 = "data:".toList then
    if (t.splitOn ':').length ≤ 3 then
      v.SomeHasClass (piece t 1) (piece t 2) → v.LastHasClass (piece t 1) (piece t 2)
    else v.LastHasClass (piece t 1) (piece t 2) ↔ v.IsDataName t
  else if piece t 2 = [] then ¬ v.IsObjectName t
  else v.IsObjectName t ∧ ∃ res ∈ v.mMetadata.getAllResources, v.resName res = piece t 2

theorem LastHasClass.some {rn cn : Str} (h : v.LastHasClass rn cn) : v.SomeHasClass rn cn := by
  obtain ⟨res, hlast, hname⟩ := h
  exact ⟨res, hlast.mem, hname⟩

end MetadataView

namespace TableMetadataQuery

variable {conn : Connection} {v : MetadataView} {session : RetsSession} {mTable tableType : Str}

/-- The row of a table. -/
def tableRow (table : Str × Str) : List Str := [[], [], table.1, "TABLE".toList, table.2]

theorem execute_tables (hview : conn.getMetadataView = some v)
    (hsession : conn.getRetsSession = some session)
    (htype : tableType = [] ∨ icontains tableType "TABLE".toList = true) (hpattern : '%' ∉ mTable) :
    execute conn [] [] mTable tableType =
      (tables conn v mTable).map fun names => .success (names.map tableRow) := by
  have hmetadata := Connection.metadata_eq_ok_iff.mpr hview
  have hopen := Connection.session_eq_ok_iff.mpr hsession
  have hall : ([] : Str) ≠ all := by decide
  have htypeAll : tableType ≠ all := by
    rintro rfl
    revert htype
    decide
  have hasked : (!tableType.isEmpty && !icontains tableType "TABLE".toList) = false := by
    rcases htype with rfl | h
    · rfl
    · rw [h]
      exact Bool.and_false _
  unfold execute
  rw [if_neg (by tauto), if_neg (by tauto), hasked, hopen, hmetadata]
  show (if '%' ∈ mTable then _ else (tables conn v mTable >>= fun myTables =>
    pure (Execution.success (myTables.map tableRow)))) = _
  rw [if_neg hpattern]
  rcases tables conn v mTable with _ | names <;> rfl

/-- `SQLTables(t)` returns, and it returns a row exactly when the listing of all tables has a row of
the name `t`. -/
def NamedIsListed (conn : Connection) (t tableType : Str) : Prop :=
  ∃ out full, execute conn [] [] (unpattern t) tableType = .ok out ∧
    execute conn [] [] [] tableType = .ok full ∧
    (out.rows ≠ [] ↔ ∃ row ∈ full.rows, row[2]? = some t)

theorem exists_tableRow {names : List (Str × Str)} {t : Str} :
    (∃ row ∈ names.map tableRow, row[2]? = some t) ↔ t ∈ names.map Prod.fst := by
  constructor
  · rintro ⟨row, hrow, hname⟩
    obtain ⟨table, htable, rfl⟩ := List.mem_map.mp hrow
    have hfst : table.1 = t := Option.some.inj hname
    exact List.mem_map.mpr ⟨table, htable, hfst⟩
  · intro h
    obtain ⟨table, htable, rfl⟩ := List.mem_map.mp h
    exact ⟨tableRow table, List.mem_map_of_mem htable, rfl⟩

/-- What the lookup of one name finds. -/
theorem tables_named {t : Str} (ht : t ≠ []) :
    (∃ names, tables conn v t = .ok names ∧ (names.map tableRow ≠ [] ↔
      v.IsDataName t ∨ v.IsObjectName t)) ↔ v.FoundAsListed t := by
  have hrows : ∀ {names : List (Str × Str)}, tables conn v t = .ok names →
      ((∃ names, tables conn v t = .ok names ∧ (names.map tableRow ≠ [] ↔
        v.IsDataName t ∨ v.IsObjectName t)) ↔
          (names ≠ [] ↔ v.IsDataName t ∨ v.IsObjectName t)) := by
    intro names hnames
    have hmap : names.map tableRow ≠ [] ↔ names ≠ [] := not_congr List.map_eq_nil_iff
    constructor
    · rintro ⟨names', hnames', h⟩
      obtain rfl := Except.ok.inj (hnames.symm.trans hnames')
      exact hmap.symm.trans h
    · exact fun h => ⟨names, hnames, hmap.trans h⟩
  have hempty : ¬ t.isEmpty = true := by simpa using ht
  unfold MetadataView.FoundAsListed
  by_cases hdata : t.take 5 = "data:".toList
  · have hobject : ¬ v.IsObjectName t := fun h => MetadataView.take_of_isObjectName h hdata
    have htables : tables conn v t = .ok (v.getSQLDataTableMetadataOf t) := by
      unfold tables
      rw [if_neg hempty, if_pos hdata]
    rw [hrows htables, MetadataView.getSQLDataTableMetadataOf_ne_nil_iff, or_iff_left hobject,
      if_pos hdata]
    split_ifs with hpieces
    · rw [MetadataView.isDataName_iff hdata hpieces]
      exact ⟨Iff.mpr, fun h => ⟨MetadataView.LastHasClass.some, h⟩⟩
    · rfl
  · have hnotData : ¬ v.IsDataName t := fun h => hdata (MetadataView.take_of_isDataName h)
    have htables : tables conn v t = v.getSQLObjectTableMetadataOf t := by
      unfold tables
      rw [if_neg hempty, if_neg hdata]
    rw [MetadataView.getSQLObjectTableMetadataOf_eq] at htables
    rw [if_neg hdata]
    by_cases hpiece : MetadataView.piece t 2 = []
    · rw [if_pos hpiece] at htables ⊢
      rw [hrows htables, or_iff_right hnotData]
      simp
    · have hsome := MetadataView.isSome_getResource (v := v) hpiece
      rw [if_neg hpiece] at htables ⊢
      rcases hres : v.getResource (MetadataView.piece t 2) with _ | res
      · rw [hres] at htables hsome
        refine iff_of_false ?_ fun h => by simpa using hsome.mpr h.2
        rintro ⟨names, hnames, -⟩
        rw [htables] at hnames
        cases hnames
      · rw [hres] at htables hsome
        rw [hrows htables, or_iff_right hnotData, and_iff_left (hsome.mp rfl)]
        simp

/-- **A table name filters the listing** exactly when the lookup of its pieces agrees with the names
that are listed. -/
theorem namedIsListed_iff (hview : conn.getMetadataView = some v)
    (hsession : conn.getRetsSession = some session)
    (hobjects : conn.mDataSource.bool .disableGetObjectMetadata = false)
    (htype : tableType = [] ∨ tableType = "TABLE".toList) {t : Str} (ht : t ≠ [])
    (hpattern : '%' ∉ t) : NamedIsListed conn t tableType ↔ v.FoundAsListed t := by
  have htable := unpattern_of_not_mem hpattern
  have hasked : tableType = [] ∨ icontains tableType "TABLE".toList = true :=
    htype.imp id fun h => by
      rw [h]
      decide
  have hlisting : tables conn v [] =
      .ok (v.getSQLDataTableMetadata ++ v.getSQLObjectTableMetadata) := by
    show (if conn.mDataSource.bool .disableGetObjectMetadata then _ else _) = _
    rw [hobjects]
    rfl
  have hfull : (∃ row ∈ (v.getSQLDataTableMetadata ++ v.getSQLObjectTableMetadata).map tableRow,
      row[2]? = some t) ↔ v.IsDataName t ∨ v.IsObjectName t := by
    rw [exists_tableRow, List.map_append, List.mem_append, MetadataView.mem_dataNames,
      MetadataView.mem_objectNames ht]
  unfold NamedIsListed
  rw [htable, execute_tables hview hsession hasked hpattern,
    execute_tables hview hsession hasked (by simp), hlisting, ← tables_named ht]
  constructor
  · rintro ⟨out, full, hout, hall, hrows⟩
    obtain ⟨names, hnames, rfl⟩ := map_eq_ok.mp hout
    obtain rfl := Except.ok.inj hall
    exact ⟨names, hnames, hrows.trans hfull⟩
  · rintro ⟨names, hnames, hrows⟩
    refine ⟨.success (names.map tableRow), _, ?_, rfl, hrows.trans hfull.symm⟩
    rw [hnames]
    rfl

/-! ### An object table of a resource with a system name of its own -/

/-- The resource `1` with the standard name `Agent`. -/
def agentView (mStandardNames : Bool) : MetadataView where
  mStandardNames := mStandardNames
  mMetadata :=
    { getAllResources := [⟨1, "1".toList, "Agent".toList, "AgentID".toList⟩]
      getAllClasses := fun _ => []
      getAllTables := fun _ => []
      getAllLookupTypes := fun _ _ => []
      getLookup := fun _ _ => none
      getLookupType := fun _ _ _ => none
      nodup_resources := by decide
      nodup_classes := fun _ => List.nodup_nil }

/-- A connection with no flag set and a session, of which the listing asks only the login URL. -/
def listing (v : MetadataView) : Connection :=
  ⟨⟨fun _ => [], fun _ => false⟩, some v, some ⟨[], fun _ => .error (.retsSql []),
    fun _ => .error (.retsSql [])⟩, fun _ => .error (.retsSql [])⟩

theorem namedIsListed_agent :
    NamedIsListed (listing (agentView false)) "object:location:1".toList [] := by
  refine (namedIsListed_iff rfl rfl rfl (.inl rfl) (by decide) (by decide)).mpr ?_
  have hlisted : (agentView false).IsObjectName "object:location:1".toList :=
    ⟨_, List.mem_singleton.mpr rfl, by decide, .location, rfl⟩
  exact ⟨hlisted, _, List.mem_singleton.mpr rfl, rfl⟩

/-- With standard names the listing still shows the resource's ID, which the lookup dereferences as
a null resource. -/
theorem not_namedIsListed_agent :
    ¬ NamedIsListed (listing (agentView true)) "object:location:1".toList [] := by
  rintro ⟨out, full, hout, -⟩
  have hfault : execute (listing (agentView true)) [] [] (unpattern "object:location:1".toList) [] =
      .error .nullResource := rfl
  rw [hfault] at hout
  cases hout

end TableMetadataQuery

end EzRets
