import EzRets.Column

/-!
# EzRets.MultiLookups — the elements of a multi-valued lookup

A text of codes with commas between them is split, each code is looked up in the metadata and the
long values are joined by commas.  Behind that `modifyData` erases the separators of numbers, which
are commas too.
-/

namespace EzRets

/-- The codes or values of a multi-valued lookup, with commas between them. -/
def commaJoined (elements : List Str) : Str := [','].intercalate elements

namespace MetadataView

variable (v : MetadataView) (table : MetadataTable)

/-- What the metadata has about a code of a lookup column. -/
def lookupTypeOf (code : Str) : Option MetadataLookupType :=
  if table.lookupName.isEmpty then none
  else v.mMetadata.getLookupType (((table.level.splitOn ':')[0]?).getD []) table.lookupName code

/-- The long value of a code, and the code itself where the metadata has none. -/
def longValueOf (code : Str) : Str := ((v.lookupTypeOf table code).map (·.longValue)).getD code

theorem getLookupTypeLongValue_eq (h : isLookupColumn table = true) (code : Str) :
    v.getLookupTypeLongValue table code = v.longValueOf table code := by
  unfold getLookupTypeLongValue longValueOf lookupTypeOf
  rw [h, if_neg (by decide)]
  split_ifs
  · rfl
  · dsimp only
    split
    · rename_i hlookup
      rw [hlookup]
      rfl
    · rename_i hlookup
      rw [hlookup]
      rfl

end MetadataView

namespace Column

/-- The column is a multi-valued lookup whose values are decoded. -/
structure DecodesMulti (col : Column) (v : MetadataView) (table : MetadataTable) : Prop where
  kind : col.kind = .rets v table false
  interpretation : table.interpretation = .lookupMulti

variable {col : Column} {v : MetadataView} {table : MetadataTable}

/-- What the separators of a number leave of a text. -/
def withoutSeparators (table : MetadataTable) (data : Str) : Str :=
  if table.useSeparator then data.filter (· ≠ ',') else data

/-- The pieces of a text are decoded before the separators are erased. -/
theorem DecodesMulti.modifyData_eq (h : DecodesMulti col v table) (data : Str) :
    col.modifyData data =
      withoutSeparators table (commaJoined ((data.splitOn ',').map (v.longValueOf table))) := by
  have hlookup : MetadataView.isLookupColumn table = true := by
    unfold MetadataView.isLookupColumn
    rw [h.interpretation]
    rfl
  have hdecoded : isDecoded table false = true := hlookup
  have hlong : v.getLookupTypeLongValue table = v.longValueOf table :=
    funext (v.getLookupTypeLongValue_eq table hlookup)
  have hmulti : ¬ table.interpretation = .lookup := by
    rw [h.interpretation]
    decide
  unfold modifyData lookupDecoder
  rw [h.kind]
  dsimp only
  rw [if_pos hdecoded, if_neg hmulti, hlong]
  rfl

/-- Joined codes are taken apart as they were put together. -/
theorem DecodesMulti.modifyData_joined (h : DecodesMulti col v table) {codes : List Str}
    (hne : codes ≠ []) (hcodes : ∀ code ∈ codes, ',' ∉ code) :
    col.modifyData (commaJoined codes) =
      withoutSeparators table (commaJoined (codes.map (v.longValueOf table))) := by
  have hsplit : (commaJoined codes).splitOn ',' = codes :=
    List.splitOn_intercalate ',' hcodes hne
  rw [h.modifyData_eq, hsplit]

theorem withoutSeparators_eq_self_iff {data : Str} :
    withoutSeparators table data = data ↔ table.useSeparator = false ∨ ',' ∉ data := by
  unfold withoutSeparators
  rcases table.useSeparator
  · simp
  · rw [if_pos rfl, List.filter_eq_self]
    constructor
    · intro h
      refine .inr fun hmem => ?_
      simpa using h ',' hmem
    · intro h c hc
      rw [decide_eq_true_iff]
      rintro rfl
      exact h.resolve_left (by decide) hc

/-- The text of the codes becomes the text of their long values, and the text of two lists of codes
the texts of both. -/
structure DecodesElements (col : Column) (v : MetadataView) (table : MetadataTable)
    (codes : List Str) : Prop where
  joined : col.modifyData (commaJoined codes) = commaJoined (codes.map (v.longValueOf table))
  appended : ∀ codes₁ codes₂, codes₁ ≠ [] → codes₂ ≠ [] → codes = codes₁ ++ codes₂ →
    col.modifyData (commaJoined codes) =
      col.modifyData (commaJoined codes₁) ++ ',' :: col.modifyData (commaJoined codes₂)

/-- Without separators to erase, decoding distributes over a comma. -/
theorem DecodesMulti.modifyData_append (h : DecodesMulti col v table)
    (hsep : table.useSeparator = false) (data₁ data₂ : Str) :
    col.modifyData (data₁ ++ ',' :: data₂) =
      col.modifyData data₁ ++ ',' :: col.modifyData data₂ := by
  have hself : ∀ data, withoutSeparators table data = data := fun data =>
    withoutSeparators_eq_self_iff.mpr (.inl hsep)
  have hne : ∀ data : Str, (data.splitOn ',').map (v.longValueOf table) ≠ [] := by
    intro data hnil
    exact List.splitOn_ne_nil ',' data (List.map_eq_nil_iff.mp hnil)
  rw [h.modifyData_eq, h.modifyData_eq, h.modifyData_eq, hself, hself, hself,
    List.splitOn_append_cons_self, List.map_append]
  exact Split.intercalate_append (hne data₁) (hne data₂)

/-- **A multi-valued lookup is decoded element by element** exactly when no separators are erased
behind it, or there is one code and its long value has no comma. -/
theorem decodesElements_iff (h : DecodesMulti col v table) {codes : List Str} (hne : codes ≠ [])
    (hcodes : ∀ code ∈ codes, ',' ∉ code) :
    DecodesElements col v table codes ↔
      table.useSeparator = false ∨ ∃ code, codes = [code] ∧ ',' ∉ v.longValueOf table code := by
  have hjoined : col.modifyData (commaJoined codes) = commaJoined (codes.map (v.longValueOf table)) ↔
      table.useSeparator = false ∨ ∃ code, codes = [code] ∧ ',' ∉ v.longValueOf table code := by
    rw [h.modifyData_joined hne hcodes, withoutSeparators_eq_self_iff]
    refine or_congr_right ?_
    unfold commaJoined
    rw [Split.not_mem_intercalate_iff (mt List.map_eq_nil_iff.mp hne)]
    constructor
    · rintro ⟨value, hvalue, hcomma⟩
      obtain ⟨code, rfl, rfl⟩ := List.map_eq_singleton_iff.mp hvalue
      exact ⟨code, rfl, hcomma⟩
    · rintro ⟨code, rfl, hcomma⟩
      exact ⟨_, rfl, hcomma⟩
  constructor
  · intro hdecodes
    exact hjoined.mp hdecodes.joined
  · intro hcondition
    refine ⟨hjoined.mpr hcondition, ?_⟩
    rintro codes₁ codes₂ hne₁ hne₂ rfl
    rcases hcondition with hsep | ⟨code, hcode, -⟩
    · unfold commaJoined
      rw [Split.intercalate_append hne₁ hne₂]
      exact h.modifyData_append hsep _ _
    · have hlength := congrArg List.length hcode
      have h₁ := List.length_pos_of_ne_nil hne₁
      have h₂ := List.length_pos_of_ne_nil hne₂
      rw [List.length_append, List.length_singleton] at hlength
      omega

/-! ### A column of features -/

/-- The column `Features`. -/
def features (useSeparator : Bool) : MetadataTable :=
  ⟨1, "Features".toList, "Features".toList, [], .character, .lookupMulti, 64, 0,
    "Features".toList, "Property:RES".toList, useSeparator, true⟩

/-- Metadata that knows the code `P`. -/
def featuresView : MetadataView where
  mStandardNames := false
  mMetadata :=
    { getAllResources := []
      getAllClasses := fun _ => []
      getAllTables := fun _ => []
      getAllLookupTypes := fun _ _ => []
      getLookup := fun _ _ => none
      getLookupType := fun _ _ code =>
        if code = "P".toList then some ⟨"P".toList, "Pool".toList, "Swimming Pool".toList⟩ else none
      nodup_resources := by decide
      nodup_classes := fun _ => by decide }

def featuresColumn (useSeparator : Bool) : Column :=
  ⟨"Features".toList, .rets featuresView (features useSeparator) false, none⟩

theorem decodesElements_features :
    DecodesElements (featuresColumn false) featuresView (features false) ["P".toList, "S".toList] :=
  (decodesElements_iff ⟨rfl, rfl⟩ (by decide) (by decide)).mpr (.inl rfl)

/-- With separators erased two features are run together. -/
theorem not_decodesElements_features :
    ¬ DecodesElements (featuresColumn true) featuresView (features true)
      ["P".toList, "S".toList] := by
  intro h
  have hvalue : (featuresColumn true).modifyData (commaJoined ["P".toList, "S".toList]) =
      "Swimming PoolS".toList := by decide
  have hjoined := h.joined
  rw [hvalue] at hjoined
  exact absurd hjoined (by decide)

end Column

end EzRets
