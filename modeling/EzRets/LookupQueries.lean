import EzRets.TableListing

/-!
# EzRets.LookupQueries — lookups that the metadata does not have

A lookup query is checked when it is prepared: the resource is looked up in the current mode and
asked for the lookup.  Only the lookup is checked for null, not the resource.
-/

namespace EzRets

open FaultRun

namespace MetadataView

variable {v : MetadataView} {resName lookup : Str}

theorem getLookup_of_getResource {res : MetadataResource} (h : v.getResource resName = some res) :
    v.getLookup resName lookup = .ok (v.mMetadata.getLookup res.resourceID lookup) := by
  unfold getLookup
  rw [h]

/-- The names of the resources that are found. -/
theorem exists_getResource_iff : (∃ res, v.getResource resName = some res) ↔
    resName ≠ [] ∧ ∃ res ∈ v.getResources, v.resName res = resName := by
  rw [← Option.isSome_iff_exists]
  constructor
  · intro h
    obtain ⟨res, hres⟩ := Option.isSome_iff_exists.mp h
    have hne := (getResource_eq_some_iff.mp hres).2.1
    exact ⟨hne, (isSome_getResource hne).mp h⟩
  · rintro ⟨hne, h⟩
    exact (isSome_getResource hne).mpr h

theorem getLookup_of_unknown (h : v.getResource resName = none) :
    v.getLookup resName lookup = .error .nullResource := by
  unfold getLookup
  rw [h]

end MetadataView

namespace EzLookupQuery

variable (conn : Connection) (v : MetadataView) (q : LookupQuery)

/-- The resource has a lookup of the name. -/
def LookupExists : Prop :=
  ∃ res, v.getResource q.getResource = some res ∧
    ∃ lookup, v.mMetadata.getLookup res.resourceID q.getLookup = some lookup

/-- The exception of a resource or a lookup that does not exist. -/
def unknownLookup : Exn := invalidName "Invalid Resource or Lookup name"

/-- A lookup query is refused with 42S02 when its resource or its lookup does not exist, and is
prepared otherwise; a prepared query then executes, on any connection with the same metadata and
whatever rows it holds, without undefined behaviour. -/
structure Checks : Prop where
  refused : ¬ LookupExists v q →
    Query.prepareResultSet conn (.lookup q) = .ok (.error unknownLookup)
  prepared : LookupExists v q → ∃ rs, Query.prepareResultSet conn (.lookup q) = .ok (.ok rs)
  executes : ∀ rs, Query.prepareResultSet conn (.lookup q) = .ok (.ok rs) →
    ∀ conn', conn'.getMetadataView = some v → ∀ rows : BulkRows,
      ∃ out, (⟨.lookup q, some { rs with rows := .bulk rows }⟩ : Query).execute conn' = .ok out

variable {conn v q}

theorem prepareResultSet_of_getResource (hview : conn.getMetadataView = some v)
    {res : MetadataResource} (hres : v.getResource q.getResource = some res) :
    Query.prepareResultSet conn (.lookup q) =
      match v.mMetadata.getLookup res.resourceID q.getLookup with
      | some _ => .ok (.ok (bulkResultSet .default columns))
      | none => .ok (.error unknownLookup) := by
  unfold Query.prepareResultSet check
  simp only [Connection.metadata_eq_ok_iff.mpr hview, bind, Except.bind,
    MetadataView.getLookup_of_getResource hres]
  rcases v.mMetadata.getLookup res.resourceID q.getLookup with _ | lookup <;> rfl

/-- The dereference of the null resource. -/
theorem prepareResultSet_of_unknown (hview : conn.getMetadataView = some v)
    (hres : v.getResource q.getResource = none) :
    Query.prepareResultSet conn (.lookup q) = .error .nullResource := by
  unfold Query.prepareResultSet check
  simp only [Connection.metadata_eq_ok_iff.mpr hview, bind, Except.bind,
    MetadataView.getLookup_of_unknown hres]
  rfl

theorem execute_of_getResource (hview : conn.getMetadataView = some v) {res : MetadataResource}
    (hres : v.getResource q.getResource = some res) : ∃ out, execute conn q = .ok out := by
  unfold execute
  simp only [Connection.metadata_eq_ok_iff.mpr hview, bind, Except.bind,
    MetadataView.getLookupTypes_of_getResource hres]
  exact ⟨_, rfl⟩

/-- **Unknown lookups are refused and no more** exactly when the resource exists: the name is not
empty and is that of some resource in the current mode. -/
theorem checks_iff (hview : conn.getMetadataView = some v) : Checks conn v q ↔
    q.getResource ≠ [] ∧ ∃ res ∈ v.getResources, v.resName res = q.getResource := by
  rw [← MetadataView.exists_getResource_iff]
  constructor
  · intro h
    rcases hres : v.getResource q.getResource with _ | res
    · have hunknown : ¬ LookupExists v q := by
        rintro ⟨res, hres', -⟩
        rw [hres] at hres'
        cases hres'
      have hfault := @prepareResultSet_of_unknown conn v q hview hres
      rw [h.refused hunknown] at hfault
      cases hfault
    · exact ⟨res, rfl⟩
  · rintro ⟨res, hres⟩
    have hprepare := @prepareResultSet_of_getResource conn v q hview res hres
    constructor
    · intro hunknown
      rcases hlookup : v.mMetadata.getLookup res.resourceID q.getLookup with _ | lookup
      · rw [hprepare, hlookup]
      · exact absurd ⟨res, hres, lookup, hlookup⟩ hunknown
    · rintro ⟨res', hres', lookup, hlookup⟩
      obtain rfl : res = res' := Option.some.inj (hres.symm.trans hres')
      rw [hprepare, hlookup]
      exact ⟨_, rfl⟩
    · intro rs _ conn' hview' rows
      obtain ⟨execution, hexecution⟩ := @execute_of_getResource conn' v q hview' res hres
      unfold Query.execute
      dsimp only [Query.bulkExecution]
      rw [hexecution]
      exact ⟨_, rfl⟩

/-- A resource with the lookup `Status`. -/
def statusView : MetadataView where
  mStandardNames := false
  mMetadata :=
    { getAllResources := [⟨1, "Property".toList, "Property".toList, "ListingID".toList⟩]
      getAllClasses := fun _ => []
      getAllTables := fun _ => []
      getAllLookupTypes := fun _ _ => [⟨"A".toList, "Act".toList, "Active".toList⟩]
      getLookup := fun _ lookupName =>
        if lookupName = "Status".toList then some ⟨1, "Status".toList⟩ else none
      getLookupType := fun _ _ _ => none
      nodup_resources := nodup_property
      nodup_classes := fun _ => List.nodup_nil }

/-- A connection to the metadata with the lookup `Status`. -/
def statusConnection : Connection :=
  ⟨DataSource.init, some statusView, none, fun _ => .error (.retsSql [])⟩

theorem checks_status :
    Checks statusConnection statusView ⟨"Property".toList, "Status".toList⟩ := by
  have hview : statusConnection.getMetadataView = some statusView := rfl
  refine (checks_iff hview).mpr ⟨by decide, _, List.mem_singleton.mpr rfl, rfl⟩

/-- A resource that the metadata does not have is dereferenced. -/
theorem not_checks_unknown :
    ¬ Checks statusConnection statusView ⟨"Agent".toList, "Status".toList⟩ := by
  intro h
  have hunknown : ¬ LookupExists statusView ⟨"Agent".toList, "Status".toList⟩ := by
    rintro ⟨res, hres, -⟩
    cases hres
  have hfault : Query.prepareResultSet statusConnection
      (.lookup ⟨"Agent".toList, "Status".toList⟩) = .error .nullResource := rfl
  rw [h.refused hunknown] at hfault
  cases hfault

end EzLookupQuery

end EzRets
