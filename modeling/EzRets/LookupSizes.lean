import EzRets.MultiLookups

/-!
# EzRets.LookupSizes — the advertised size of a lookup column

`lookupSizeHelper` counts 128 bytes for a value, 20 values for a multi-valued lookup and one byte
for the terminator.  The commas that `lookupDecoder` joins the values with are not counted.
-/

namespace EzRets

namespace Column

variable {col : Column} {v : MetadataView} {table : MetadataTable} {useCompactFormat : Bool}
  {data : Str}

/-- The codes of a value: a `LOOKUP` has one, a `LOOKUP_MULTI` the pieces between commas. -/
def codesOf (table : MetadataTable) (data : Str) : List Str :=
  if table.interpretation = .lookup then [data] else data.splitOn ','

/-- What `lookupSizeHelper` assumes about a value: no long value, and no code without one, is
longer than 128 characters, and there are at most 20 of them. -/
structure WithinAssumptions (v : MetadataView) (table : MetadataTable) (data : Str) : Prop where
  short : ∀ code ∈ codesOf table data, (v.longValueOf table code).length ≤ 128
  few : (codesOf table data).length ≤ 20

/-- The decoded text and its terminator have room in the advertised length. -/
def DecodedFits (col : Column) (v : MetadataView) (table : MetadataTable) (data : Str) : Prop :=
  (lookupDecoder v table data).length + 1 ≤ col.getMaximumLength

/-- The characters of all the values, and one more for each: a comma behind every value but the
last, and the terminator. -/
def joinedSize (v : MetadataView) (table : MetadataTable) (data : Str) : Nat :=
  ((codesOf table data).map fun code => (v.longValueOf table code).length).sum +
    (codesOf table data).length

theorem codesOf_ne_nil : codesOf table data ≠ [] := by
  unfold codesOf
  split_ifs
  · exact List.cons_ne_nil _ _
  · exact List.splitOn_ne_nil ',' data

/-- Of both kinds of lookup the decoded text is the joined long values of the codes. -/
theorem lookupDecoder_eq (h : MetadataView.isLookupColumn table = true) :
    lookupDecoder v table data = commaJoined ((codesOf table data).map (v.longValueOf table)) := by
  have hlong : v.getLookupTypeLongValue table = v.longValueOf table :=
    funext (v.getLookupTypeLongValue_eq table h)
  unfold lookupDecoder codesOf
  rw [hlong]
  split_ifs
  · exact (List.intercalate_singleton).symm
  · rfl

theorem length_lookupDecoder (h : MetadataView.isLookupColumn table = true) :
    (lookupDecoder v table data).length + 1 = joinedSize v table data := by
  have hne : (codesOf table data).map (v.longValueOf table) ≠ [] :=
    mt List.map_eq_nil_iff.mp codesOf_ne_nil
  rw [lookupDecoder_eq h, commaJoined, Split.length_intercalate hne, List.map_map,
    List.length_map]
  rfl

theorem getMaximumLength_of_decoded (hkind : col.kind = .rets v table useCompactFormat)
    (h : isDecoded table useCompactFormat = true) :
    col.getMaximumLength = if table.interpretation = .lookup then 129 else 2561 := by
  unfold getMaximumLength
  rw [hkind]
  dsimp only
  rw [if_pos h]
  rfl

/-- A single value within the assumptions has room for its terminator. -/
theorem WithinAssumptions.joinedSize_le (h : WithinAssumptions v table data)
    (hlookup : table.interpretation = .lookup) : joinedSize v table data ≤ 129 := by
  have hcodes : codesOf table data = [data] := if_pos hlookup
  have hshort := h.short data (by rw [hcodes]; exact List.mem_singleton_self data)
  unfold joinedSize
  rw [hcodes, List.map_singleton, List.sum_singleton, List.length_singleton]
  omega

/-- **A decoded value within the assumptions fits** exactly when it is a single one, or the commas
between the values have room as well. -/
theorem decodedFits_iff (hkind : col.kind = .rets v table useCompactFormat)
    (hdecoded : isDecoded table useCompactFormat = true) (h : WithinAssumptions v table data) :
    DecodedFits col v table data ↔
      table.interpretation = .lookup ∨ joinedSize v table data ≤ 2561 := by
  have hcolumn : MetadataView.isLookupColumn table = true := by
    unfold isDecoded at hdecoded
    exact (Bool.and_eq_true_iff.mp hdecoded).2
  unfold DecodedFits
  rw [length_lookupDecoder hcolumn, getMaximumLength_of_decoded hkind hdecoded]
  by_cases hlookup : table.interpretation = .lookup
  · rw [if_pos hlookup]
    exact iff_of_true (h.joinedSize_le hlookup) (.inl hlookup)
  · rw [if_neg hlookup]
    exact (or_iff_right hlookup).symm

/-- Two features fit. -/
theorem decodedFits_features :
    DecodedFits (featuresColumn false) featuresView (features false) "P,S".toList :=
  (decodedFits_iff rfl rfl ⟨by decide, by decide⟩).mpr (.inr (by decide))

/-- A value of the greatest length, which is no code of `Features`. -/
def longFeature : Str := List.replicate 128 'x'

theorem length_longFeature : longFeature.length = 128 := List.length_replicate

theorem longValueOf_longFeature :
    featuresView.longValueOf (features false) longFeature = longFeature := by
  have hne : longFeature ≠ "P".toList := by
    intro h
    have hlength := congrArg List.length h
    rw [length_longFeature] at hlength
    exact absurd hlength (by decide)
  have hnone : featuresView.lookupTypeOf (features false) longFeature = none := by
    unfold MetadataView.lookupTypeOf
    rw [if_neg (by decide)]
    simp only [featuresView, if_neg hne]
  unfold MetadataView.longValueOf
  rw [hnone]
  rfl

theorem codesOf_features {codes : List Str} (hne : codes ≠ []) (h : ∀ code ∈ codes, ',' ∉ code) :
    codesOf (features false) (commaJoined codes) = codes :=
  List.splitOn_intercalate ',' h hne

theorem codesOf_longFeatures :
    codesOf (features false) (commaJoined (List.replicate 20 longFeature)) =
      List.replicate 20 longFeature := by
  refine codesOf_features (by simp) ?_
  intro code hcode hcomma
  rw [List.eq_of_mem_replicate hcode] at hcomma
  cases List.eq_of_mem_replicate hcomma

/-- Twenty values of the greatest length leave no room for their commas. -/
theorem not_decodedFits_features :
    WithinAssumptions featuresView (features false)
        (commaJoined (List.replicate 20 longFeature)) ∧
      ¬ DecodedFits (featuresColumn false) featuresView (features false)
        (commaJoined (List.replicate 20 longFeature)) := by
  refine ⟨⟨?_, ?_⟩, ?_⟩
  · intro code hcode
    rw [codesOf_longFeatures] at hcode
    rw [List.eq_of_mem_replicate hcode, longValueOf_longFeature, length_longFeature]
  · rw [codesOf_longFeatures, List.length_replicate]
  · unfold DecodedFits
    rw [length_lookupDecoder rfl, joinedSize, codesOf_longFeatures, List.map_replicate,
      longValueOf_longFeature, length_longFeature, List.sum_replicate_nat,
      List.length_replicate]
    decide

end Column

end EzRets
