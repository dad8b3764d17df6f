import EzRets.MetadataView

/-!
# EzRets.TableNames — which data table names lead back to their class

A listed name is split at every `':'` and looked up in maps that keep the last object of a name.
The lemmas say what the two lookups find; from them follows when every listed name identifies
the resource and the class it was made from.
-/

namespace EzRets

open LastWins

namespace MetadataView

variable {v : MetadataView}

/-! ## The maps -/

theorem isKey_iff {name : Str} : isKey name = true ↔ name ≠ [] := by
  cases name <;> simp [isKey]

theorem resName_eq (v : MetadataView) :
    v.resName = if v.mStandardNames then (·.standardName) else (·.resourceID) := by
  unfold resName
  split_ifs <;> rfl

theorem className_eq (v : MetadataView) :
    v.className = if v.mStandardNames then (·.standardName) else (·.className) := by
  unfold className
  split_ifs <;> rfl

/-- A resource is found under its name unless a later resource has the same one. -/
theorem getResource_eq_some_iff {name : Str} {res : MetadataResource} :
    v.getResource name = some res ↔
      v.resName res = name ∧ name ≠ [] ∧ IsLastNamed v.resName v.mMetadata.getAllResources res := by
  unfold getResource mResourceByStdName mResourceBySysName
  rw [resName_eq]
  split_ifs
  · rw [index_eq_some_iff, isKey_iff]
  · rw [index_eq_some_iff, isKey_iff]

/-- Of a resource that is found the lookups are read. -/
theorem getLookupTypes_of_getResource {name lookup : Str} {res : MetadataResource}
    (h : v.getResource name = some res) :
    v.getLookupTypes name lookup = .ok (v.mMetadata.getAllLookupTypes res.resourceID lookup) := by
  unfold getLookupTypes
  rw [h]

theorem assign_classAssignments (name : MetadataClass → Str) {res : MetadataResource}
    (hres : res ∈ v.mMetadata.getAllResources) (n : Str) :
    assign (v.classAssignments name) (res, n) =
      index name isKey (v.mMetadata.getAllClasses res.resourceID) n := by
  have h := assign_flatMap_owner v.mMetadata.nodup_resources
    (fun res => ((v.mMetadata.getAllClasses res.resourceID).filter fun c => isKey (name c)).map
      fun c => (name c, c)) res n
  rw [if_pos hres] at h
  simpa [classAssignments, index, List.map_map, Function.comp_def] using h

/-- A class is found under its resource's and its own name unless a later class of the resource
has the same one. -/
theorem getClass_eq_some_iff {rn cn : Str} {clazz : MetadataClass} :
    v.getClass rn cn = some clazz ↔
      ∃ res, v.getResource rn = some res ∧ v.className clazz = cn ∧ cn ≠ [] ∧
        IsLastNamed v.className (v.mMetadata.getAllClasses res.resourceID) clazz := by
  unfold getClass
  rw [Option.bind_eq_some_iff]
  refine exists_congr fun res => and_congr_right fun hres => ?_
  have hmem := (getResource_eq_some_iff.mp hres).2.2.mem
  unfold mClassStdMap mClassSysMap
  rw [className_eq, assign_classAssignments _ hmem, assign_classAssignments _ hmem]
  split_ifs
  · rw [index_eq_some_iff, isKey_iff]
  · rw [index_eq_some_iff, isKey_iff]

/-! ## One name -/

/-- The pair is listed: both of its names are non-empty in the current mode. -/
def Listed (v : MetadataView) (p : MetadataResource × MetadataClass) : Prop :=
  v.resName p.1 ≠ [] ∧ v.className p.2 ≠ []

theorem makeSQLDataTableName_ne_nil_iff {res : MetadataResource} {clazz : MetadataClass} :
    v.makeSQLDataTableName res clazz ≠ [] ↔ v.Listed (res, clazz) := by
  unfold makeSQLDataTableName Listed
  cases v.resName res <;> cases v.className clazz <;> simp

/-- The pieces of a listed name. -/
theorem splitOn_makeSQLDataTableName {res : MetadataResource} {clazz : MetadataClass}
    (h : v.Listed (res, clazz)) :
    (v.makeSQLDataTableName res clazz).splitOn ':' =
      "data".toList :: ((v.resName res).splitOn ':' ++ (v.className clazz).splitOn ':') := by
  obtain ⟨hr, hc⟩ := h
  have hname : v.makeSQLDataTableName res clazz =
      "data".toList ++ ':' :: (v.resName res ++ ':' :: v.className clazz) := by
    simp [makeSQLDataTableName, hr, hc]
  rw [hname, List.splitOn_append_cons_self_of_not_mem (by decide), List.splitOn_append_cons_self]

theorem getResourceClassPairBySQLTable_eq_some_iff {name : Str} {res : MetadataResource}
    {clazz : MetadataClass} :
    v.getResourceClassPairBySQLTable name = some (res, clazz) ↔
      v.getResource (((name.splitOn ':')[1]?).getD []) = some res ∧
        v.getClass (((name.splitOn ':')[1]?).getD []) (((name.splitOn ':')[2]?).getD []) =
          some clazz := by
  unfold getResourceClassPairBySQLTable
  dsimp only
  generalize ((name.splitOn ':')[1]?).getD [] = rn
  generalize ((name.splitOn ':')[2]?).getD [] = cn
  constructor
  · intro h
    split_ifs at h
    split at h
    · rename_i r c hr hc
      obtain ⟨rfl, rfl⟩ : r = res ∧ c = clazz := by simpa using h
      exact ⟨hr, hc⟩
    · simp at h
  · rintro ⟨hr, hc⟩
    have hrn : rn ≠ [] := (getResource_eq_some_iff.mp hr).2.1
    simp [hr, hc, hrn]

/-- The names of `p` contain no `':'` and are the last of their kind. -/
def Unambiguous (v : MetadataView) (p : MetadataResource × MetadataClass) : Prop :=
  ':' ∉ v.resName p.1 ∧ ':' ∉ v.className p.2 ∧
    IsLastNamed v.resName v.mMetadata.getAllResources p.1 ∧
    IsLastNamed v.className (v.mMetadata.getAllClasses p.1.resourceID) p.2

theorem resolves_iff {res : MetadataResource} {clazz : MetadataClass}
    (h : v.Listed (res, clazz)) :
    v.getResourceClassPairBySQLTable (v.makeSQLDataTableName res clazz) = some (res, clazz) ↔
      v.Unambiguous (res, clazz) := by
  rw [getResourceClassPairBySQLTable_eq_some_iff, splitOn_makeSQLDataTableName h]
  obtain ⟨hr, hc⟩ := h
  obtain ⟨r, rs, hrs⟩ := List.exists_cons_of_ne_nil (List.splitOn_ne_nil ':' (v.resName res))
  obtain ⟨c, cs, hcs⟩ := List.exists_cons_of_ne_nil (List.splitOn_ne_nil ':' (v.className clazz))
  constructor
  · rintro ⟨hres, hclazz⟩
    rw [hrs] at hres hclazz
    obtain ⟨hr1, -, hlast⟩ := getResource_eq_some_iff.mp hres
    -- the resource map found `res` under its own name, so the first piece is that name
    have hr2 : ':' ∉ v.resName res := by
      rw [← Split.head_splitOn_eq_self_iff, hrs]
      simpa using hr1.symm
    have hrs1 : rs = [] := by
      rw [List.splitOn_eq_singleton hr2] at hrs
      simpa using (List.cons.inj hrs).2.symm
    subst hrs1
    obtain ⟨res', hres', hc1, -, hclast⟩ := getClass_eq_some_iff.mp hclazz
    obtain rfl : res = res' := Option.some.inj (hres.symm.trans hres')
    have hc2 : ':' ∉ v.className clazz := by
      rw [hcs] at hc1
      rw [← Split.head_splitOn_eq_self_iff, hcs]
      simpa using hc1.symm
    exact ⟨hr2, hc2, hlast, hclast⟩
  · rintro ⟨hr2, hc2, hlast, hclast⟩
    rw [List.splitOn_eq_singleton hr2, List.splitOn_eq_singleton hc2]
    have hres : v.getResource (v.resName res) = some res :=
      getResource_eq_some_iff.mpr ⟨rfl, hr, hlast⟩
    exact ⟨hres, getClass_eq_some_iff.mpr ⟨res, hres, rfl, hc, hclast⟩⟩

/-! ## All names -/

theorem nodup_getResourceClassPairs (v : MetadataView) : v.getResourceClassPairs.Nodup := by
  unfold getResourceClassPairs
  rw [List.nodup_flatMap]
  constructor
  · intro res _
    exact (v.mMetadata.nodup_classes _).map fun _ _ h => (Prod.mk.inj h).2
  · refine v.mMetadata.nodup_resources.imp fun {r r'} hne => ?_
    intro p hp hp'
    obtain ⟨c, -, rfl⟩ := List.mem_map.mp hp
    obtain ⟨c', -, he⟩ := List.mem_map.mp hp'
    exact hne (Prod.mk.inj he).1.symm

/-- The listed names are distinct, and each is resolved to the pair it was made from. -/
def NamesIdentify (v : MetadataView) : Prop :=
  (v.getSQLDataTableMetadata.map Prod.fst).Nodup ∧
    ∀ res ∈ v.mMetadata.getAllResources,
      ∀ clazz ∈ v.mMetadata.getAllClasses res.resourceID,
        v.makeSQLDataTableName res clazz ≠ [] →
          v.getResourceClassPairBySQLTable (v.makeSQLDataTableName res clazz) = some (res, clazz)

theorem getSQLDataTableMetadata_names (v : MetadataView) :
    v.getSQLDataTableMetadata.map Prod.fst =
      (v.getResourceClassPairs.filter fun p => !(v.makeSQLDataTableName p.1 p.2).isEmpty).map
        fun p => v.makeSQLDataTableName p.1 p.2 := by
  unfold getSQLDataTableMetadata
  induction v.getResourceClassPairs with
  | nil => rfl
  | cons p ps ih =>
    rw [List.filterMap_cons, List.filter_cons]
    split_ifs with h <;> simp_all

/-- **The data table names identify their classes exactly when every listed pair is
unambiguous.** -/
theorem namesIdentify_iff :
    v.NamesIdentify ↔ ∀ p ∈ v.getResourceClassPairs, v.Listed p → v.Unambiguous p := by
  have hmem : ∀ res clazz, (res, clazz) ∈ v.getResourceClassPairs ↔
      res ∈ v.mMetadata.getAllResources ∧ clazz ∈ v.mMetadata.getAllClasses res.resourceID := by
    intro res clazz
    simp [getResourceClassPairs]
  constructor
  · rintro ⟨-, hres⟩ ⟨res, clazz⟩ hp hl
    obtain ⟨hr, hc⟩ := (hmem res clazz).mp hp
    exact (resolves_iff hl).mp (hres res hr clazz hc (makeSQLDataTableName_ne_nil_iff.mpr hl))
  · intro h
    have hback : ∀ res clazz, (res, clazz) ∈ v.getResourceClassPairs →
        v.makeSQLDataTableName res clazz ≠ [] →
        v.getResourceClassPairBySQLTable (v.makeSQLDataTableName res clazz) =
          some (res, clazz) := by
      intro res clazz hp hne
      have hl := makeSQLDataTableName_ne_nil_iff.mp hne
      exact (resolves_iff hl).mpr (h (res, clazz) hp hl)
    refine ⟨?_, fun res hr clazz hc hne => hback res clazz ((hmem res clazz).mpr ⟨hr, hc⟩) hne⟩
    rw [getSQLDataTableMetadata_names]
    refine List.Nodup.map_on ?_ (v.nodup_getResourceClassPairs.filter _)
    rintro ⟨res, clazz⟩ hp ⟨res', clazz'⟩ hq hname
    obtain ⟨hp, hne⟩ := List.mem_filter.mp hp
    obtain ⟨hq, hne'⟩ := List.mem_filter.mp hq
    have hpair := hback res clazz hp (by simpa using hne)
    have hpair' := hback res' clazz' hq (by simpa using hne')
    dsimp only at hname
    rw [hname] at hpair
    exact Option.some.inj (hpair.symm.trans hpair')

/-- Two classes of one resource that share the standard name `RES`. -/
def sharedNameView : MetadataView where
  mStandardNames := true
  mMetadata :=
    { getAllResources := [⟨1, "Property".toList, "Property".toList, "ListingID".toList⟩]
      getAllClasses := fun _ =>
        [⟨2, "RES1".toList, "RES".toList, "Houses".toList⟩,
          ⟨3, "RES2".toList, "RES".toList, "Condos".toList⟩]
      getAllTables := fun _ => []
      getAllLookupTypes := fun _ _ => []
      getLookup := fun _ _ => none
      getLookupType := fun _ _ _ => none
      nodup_resources := by decide
      nodup_classes := fun _ => by decide }

/-- With a shared standard name the two classes are listed under one name. -/
theorem not_namesIdentify_sharedName : ¬ sharedNameView.NamesIdentify := by
  intro h
  have hdup : ¬ (sharedNameView.getSQLDataTableMetadata.map Prod.fst).Nodup := by decide
  exact hdup h.1

end MetadataView

end EzRets
