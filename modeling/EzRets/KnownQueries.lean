import EzRets.NullResultSet

/-!
# EzRets.KnownQueries — what the queries follow without a look

A query reads the session and the view of its connection, and what the metadata lists under the
names that it is made of, and only some of these are looked at first.  A query whose names are known
prepares or is refused, and once prepared it executes, as often as it is asked to.
-/

namespace EzRets

open AbstractHandle FaultRun

/-! ## What the queries rely on -/

/-- The connection has a session and the view `v`. -/
structure Connection.Shows (conn : Connection) (v : MetadataView) : Prop where
  view : conn.getMetadataView = some v
  session : conn.getRetsSession.isSome

namespace QueryKind

/-- The resource of the object table `name`, if the name has one, is known. -/
def KnownObjectTable (v : MetadataView) (name : Str) : Prop :=
  name.take 5 = "data:".toList ∨ ((name.splitOn ':')[2]?).getD [] = [] ∨
    v.getResource (((name.splitOn ':')[2]?).getD []) ≠ none

/-- The column that `SQLColumns` is asked for is one of every class that it lists. -/
def KnownColumn (v : MetadataView) (mTable mColumn : Str) : Prop :=
  mColumn = [] ∨ ∀ rcp ∈ ColumnMetadataQuery.resourceClassPairs v mTable,
    v.getTable rcp.2 mColumn ≠ none

/-- What a query of this kind follows without a look: the field list of librets, and what the
metadata lists under its names. -/
def Known (v : MetadataView) : QueryKind → Prop
  | .onDemandData _ q => q.getFields ≠ none
  | .lookup q => v.getResource q.getResource ≠ none
  | .tableMetadata _ _ mTable _ => KnownObjectTable v mTable
  | .columnMetadata mTable mColumn => KnownColumn v mTable mColumn
  | _ => True

/-- The same of a query that is prepared: its class has been looked up. -/
structure Executable (v : MetadataView) (kind : QueryKind) : Prop where
  known : kind.Known v
  clazz : ∀ q, kind = .lookupColumns q → v.getClass q.getResource q.getClass ≠ none

end QueryKind

section Queries

variable {conn : Connection} {v : MetadataView}

theorem Connection.Shows.metadata (h : conn.Shows v) : conn.metadata = .ok v :=
  Connection.metadata_eq_ok_iff.mpr h.view

theorem Connection.Shows.returns_session (h : conn.Shows v) :
    Returns (fun _ => True) conn.session := by
  obtain ⟨session, hsession⟩ := Option.isSome_iff_exists.mp h.session
  exact ⟨session, Connection.session_eq_ok_iff.mpr hsession, trivial⟩

theorem returns_getLookupTypes {resName lookup : Str} (h : v.getResource resName ≠ none) :
    Returns (fun _ => True) (v.getLookupTypes resName lookup) := by
  obtain ⟨res, hres⟩ := Option.ne_none_iff_exists'.mp h
  unfold MetadataView.getLookupTypes
  rw [hres]
  exact returns_ok trivial

theorem returns_getLookup {resName lookup : Str} (h : v.getResource resName ≠ none) :
    Returns (fun _ => True) (v.getLookup resName lookup) := by
  obtain ⟨res, hres⟩ := Option.ne_none_iff_exists'.mp h
  unfold MetadataView.getLookup
  rw [hres]
  exact returns_ok trivial

/-- A class is looked up in its resource. -/
theorem getResource_of_getClass {resName className : Str} {clazz : MetadataClass}
    (h : v.getClass resName className = some clazz) : v.getResource resName ≠ none := by
  obtain ⟨res, hres, -⟩ := Option.bind_eq_some_iff.mp h
  rw [hres]
  exact Option.some_ne_none res

theorem returns_loadLookups {q : DmqlQuery} {tables : List MetadataTable}
    (h : v.getResource q.getResource ≠ none) :
    Returns (fun _ => True) (OnDemandDataQuery.loadLookups conn v q tables) := by
  refine returns_forM fun table _ => ?_
  split
  · exact (returns_getLookupTypes h).map fun _ _ _ => trivial
  · exact returns_ok trivial

/-! ### Preparing -/

theorem returns_dataCount_check (hshows : conn.Shows v) (q : DmqlQuery) :
    Returns (fun _ => True) (DataCountQuery.check conn q) := by
  unfold DataCountQuery.check
  rw [hshows.metadata]
  dsimp only [bind, Except.bind]
  split <;> exact returns_ok trivial

theorem returns_lookup_check (hshows : conn.Shows v) {q : LookupQuery}
    (hknown : v.getResource q.getResource ≠ none) :
    Returns (fun _ => True) (EzLookupQuery.check conn q) := by
  unfold EzLookupQuery.check
  rw [hshows.metadata]
  refine (returns_getLookup hknown).bind fun found _ _ => ?_
  split <;> exact returns_ok trivial

/-- A class that the check lets pass is known. -/
theorem returns_lookupColumns_check (hshows : conn.Shows v) (q : LookupColumnsQuery) :
    Returns (fun check => check = none → v.getClass q.getResource q.getClass ≠ none)
      (EzLookupColumnsQuery.check conn q) := by
  unfold EzLookupColumnsQuery.check
  rw [hshows.metadata]
  dsimp only [bind, Except.bind]
  split
  · rename_i clazz hclazz
    refine returns_ok fun _ => ?_
    rw [hclazz]
    exact Option.some_ne_none clazz
  · refine returns_ok fun h => ?_
    cases h

theorem returns_onDemandData_prepare (hshows : conn.Shows v) (useCompactFormat : Bool)
    (q : DmqlQuery) :
    Returns (fun _ => True) (OnDemandDataQuery.prepareResultSet conn useCompactFormat q) := by
  unfold OnDemandDataQuery.prepareResultSet
  rw [hshows.metadata]
  dsimp only [bind, Except.bind]
  split
  · exact returns_ok trivial
  · rename_i clazz hclazz
    split
    · exact returns_ok trivial
    · exact (returns_loadLookups (getResource_of_getClass hclazz)).bind
        fun _ _ _ => returns_ok trivial

/-- **A query that is known prepares, or is refused, and can be executed once prepared.** -/
theorem returns_prepareResultSet {kind : QueryKind} (hshows : conn.Shows v)
    (hknown : kind.Known v) :
    Returns (fun prepared => ∀ rs, prepared = .ok rs → kind.Executable v)
      (Query.prepareResultSet conn kind) := by
  cases kind with
  | dataCount q =>
    exact (returns_dataCount_check hshows q).map fun _ _ _ _ _ => ⟨hknown, fun _ h => nomatch h⟩
  | onDemandData useCompactFormat q =>
    exact (returns_onDemandData_prepare hshows useCompactFormat q).mono
      fun _ _ _ _ => ⟨hknown, fun _ h => nomatch h⟩
  | lookup q =>
    exact (returns_lookup_check hshows hknown).map fun _ _ _ _ _ => ⟨hknown, fun _ h => nomatch h⟩
  | lookupColumns q =>
    refine (returns_lookupColumns_check hshows q).map fun check _ hclass rs hrs => ?_
    have hcheck : check = none := by
      rcases check with _ | e
      · rfl
      · cases hrs
    refine ⟨trivial, fun q' h => ?_⟩
    cases h
    exact hclass hcheck
  | null | onDemandObject _ | tableMetadata _ _ _ _ | columnMetadata _ _ | typeInfo _
  | specialColumns _ _ _ _ | statistics | primaryKeys _ =>
    exact returns_ok fun _ _ => ⟨hknown, fun _ h => nomatch h⟩

/-! ### Executing -/

theorem returns_dataCount_execute (hshows : conn.Shows v) (q : DmqlQuery) :
    Returns (fun _ => True) (DataCountQuery.execute conn q) := by
  unfold DataCountQuery.execute
  split
  · refine hshows.returns_session.bind fun session _ _ => ?_
    split <;> exact returns_ok trivial
  · exact returns_ok trivial

theorem returns_lookup_execute (hshows : conn.Shows v) {q : LookupQuery}
    (hknown : v.getResource q.getResource ≠ none) :
    Returns (fun _ => True) (EzLookupQuery.execute conn q) := by
  unfold EzLookupQuery.execute
  rw [hshows.metadata]
  exact (returns_getLookupTypes hknown).bind fun _ _ _ => returns_ok trivial

theorem returns_lookupColumns_execute (hshows : conn.Shows v) {q : LookupColumnsQuery}
    (hclass : v.getClass q.getResource q.getClass ≠ none) :
    Returns (fun _ => True) (EzLookupColumnsQuery.execute conn q) := by
  obtain ⟨clazz, hclazz⟩ := Option.ne_none_iff_exists'.mp hclass
  unfold EzLookupColumnsQuery.execute
  rw [hshows.metadata]
  dsimp only [bind, Except.bind]
  rw [hclazz]
  exact returns_ok trivial

theorem returns_tables {mTable : Str} (hknown : QueryKind.KnownObjectTable v mTable) :
    Returns (fun _ => True) (TableMetadataQuery.tables conn v mTable) := by
  unfold TableMetadataQuery.tables
  split_ifs with hempty hall hdata
  · exact returns_ok trivial
  · exact returns_ok trivial
  · exact returns_ok trivial
  · unfold MetadataView.getSQLObjectTableMetadataOf
    dsimp only
    split
    · rename_i hname
      have hres : v.getResource (((mTable.splitOn ':')[2]?).getD []) ≠ none := by
        rcases hknown with h | h | h
        · exact absurd h hdata
        · rw [h] at hname
          cases hname
        · exact h
      obtain ⟨res, hres⟩ := Option.ne_none_iff_exists'.mp hres
      rw [hres]
      exact returns_ok trivial
    · exact returns_ok trivial

theorem returns_tableMetadata_execute (hshows : conn.Shows v) {catalog schema table tableType : Str}
    (hknown : QueryKind.KnownObjectTable v table) :
    Returns (fun _ => True) (TableMetadataQuery.execute conn catalog schema table tableType) := by
  unfold TableMetadataQuery.execute
  split
  · exact returns_ok trivial
  split
  · exact returns_ok trivial
  split
  · exact returns_ok trivial
  refine hshows.returns_session.bind fun session _ _ => ?_
  split
  · exact returns_ok trivial
  split
  · exact returns_ok trivial
  split
  · exact returns_ok trivial
  rw [hshows.metadata]
  exact (returns_tables hknown).bind fun _ _ _ => returns_ok trivial

theorem returns_processColumn (res : MetadataResource) (clazz : MetadataClass)
    {rTable : Option MetadataTable} (htable : rTable ≠ none) :
    Returns (fun _ => True) (ColumnMetadataQuery.processColumn conn v res clazz rTable) := by
  obtain ⟨table, rfl⟩ := Option.ne_none_iff_exists'.mp htable
  unfold ColumnMetadataQuery.processColumn
  dsimp only
  split_ifs <;> exact returns_ok trivial

theorem returns_processClass {mTable mColumn : Str}
    (hknown : QueryKind.KnownColumn v mTable mColumn)
    {rcp : MetadataResource × MetadataClass}
    (hrcp : rcp ∈ ColumnMetadataQuery.resourceClassPairs v mTable) :
    Returns (fun _ => True) (ColumnMetadataQuery.processClass conn v mColumn rcp) := by
  unfold ColumnMetadataQuery.processClass
  split
  · refine Returns.bind (returns_mapM fun rTable _ => ?_) fun _ _ _ => returns_ok trivial
    exact returns_processColumn rcp.1 rcp.2 (Option.some_ne_none rTable)
  · rename_i hcolumn
    rcases hknown with rfl | hknown
    · exact absurd rfl hcolumn
    · exact returns_processColumn rcp.1 rcp.2 (hknown rcp hrcp)

theorem returns_columnMetadata_execute (hshows : conn.Shows v) {table column : Str}
    (hknown : QueryKind.KnownColumn v table column) :
    Returns (fun _ => True) (ColumnMetadataQuery.execute conn table column) := by
  unfold ColumnMetadataQuery.execute
  split
  · exact returns_ok trivial
  split
  · exact returns_ok trivial
  refine Returns.bind ⟨v, hshows.metadata, rfl⟩ ?_
  rintro _ - rfl
  refine Returns.bind (returns_mapM fun rcp hrcp => ?_) fun _ _ _ => returns_ok trivial
  exact returns_processClass hknown hrcp

theorem returns_bulkExecution (hshows : conn.Shows v) {stored : Nat} {kind : QueryKind}
    (hexecutable : kind.Executable v) {execution : Except Fault Execution}
    (h : Query.bulkExecution conn stored kind = some execution) :
    Returns (fun _ => True) execution := by
  have hknown := hexecutable.known
  cases kind with
  | null | onDemandData _ _ | onDemandObject _ => cases h
  | dataCount q =>
    cases h
    exact returns_dataCount_execute hshows q
  | lookup q =>
    cases h
    exact returns_lookup_execute hshows hknown
  | lookupColumns q =>
    cases h
    exact returns_lookupColumns_execute hshows (hexecutable.clazz q rfl)
  | tableMetadata _ _ _ _ =>
    cases h
    exact returns_tableMetadata_execute hshows hknown
  | columnMetadata _ _ =>
    cases h
    exact returns_columnMetadata_execute hshows hknown
  | typeInfo _ | statistics =>
    cases h
    exact returns_ok trivial
  | specialColumns _ _ _ _ =>
    cases h
    unfold SpecialColumnsMetadataQuery.execute
    rw [hshows.metadata]
    split_ifs <;> exact returns_ok trivial
  | primaryKeys _ =>
    cases h
    unfold PrimaryKeysMetadataQuery.execute
    rw [hshows.metadata]
    exact returns_ok trivial

theorem returns_executeOnDemand {α : Type} {q : Query} {rs : ResultSet} {answer : Except Exn α}
    {store : α → RowSource} (hrs : q.mResultSet = some rs) :
    Returns (fun _ => True) (q.executeOnDemand answer store) := by
  unfold Query.executeOnDemand
  split
  · exact returns_ok trivial
  · rw [hrs]
    exact returns_ok trivial

/-- **A prepared query executes.** -/
theorem returns_execute {q : Query} (hq : q.WellFormed) (hshows : conn.Shows v)
    (hexecutable : q.kind.Executable v) : Returns (fun _ => True) (q.execute conn) := by
  unfold Query.execute
  split
  · exact returns_ok trivial
  · rename_i useCompactFormat dmqlQuery hkind
    obtain ⟨rs, hrs⟩ := hq.exists_resultSet (by simp [hkind])
    have hfields : dmqlQuery.getFields ≠ none := by
      have hknown := hexecutable.known
      rw [hkind] at hknown
      exact hknown
    obtain ⟨fields, hfields⟩ := Option.ne_none_iff_exists'.mp hfields
    split
    · unfold OnDemandDataQuery.doRetsQuery
      rw [hfields]
      have hanswer : Returns (fun _ => True) (conn.session >>= fun session =>
          (pure (session.search (OnDemandDataQuery.searchRequest conn dmqlQuery fields)) :
            Except Fault _)) :=
        hshows.returns_session.bind fun _ _ _ => returns_ok trivial
      exact hanswer.bind fun _ _ _ => returns_executeOnDemand hrs
    · exact returns_ok trivial
  · rename_i objectQuery hkind
    obtain ⟨rs, hrs⟩ := hq.exists_resultSet (by simp [hkind])
    have hresponse : Returns (fun _ => True) (OnDemandObjectQuery.response conn objectQuery) := by
      unfold OnDemandObjectQuery.response
      split
      · exact returns_ok trivial
      · exact hshows.returns_session.bind fun _ _ _ => returns_ok trivial
    exact hresponse.bind fun _ _ _ => returns_executeOnDemand hrs
  · rename_i hnull hdata hobject
    have hbulk : q.kind.resultSetType = some .bulk := by
      cases hkind : q.kind with
      | null => exact (hnull hkind).elim
      | onDemandData b d => exact (hdata b d hkind).elim
      | onDemandObject o => exact (hobject o hkind).elim
      | _ => rfl
    obtain ⟨dt, columns, rows, hrs⟩ := exists_bulk hq hbulk
    simp only [hrs]
    split
    · rename_i hexecution
      exact (returns_bulkExecution hshows hexecutable hexecution).map fun _ _ _ => trivial
    · exact returns_ok trivial

end Queries

end EzRets
