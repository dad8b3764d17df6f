import EzRets.CatalogRows
import EzRets.DateTimes
import EzRets.MultiLookups
import EzRets.NumericGrammar

/-!
# EzRets.DefaultTypes — what a column is delivered as by default

`SQL_C_DEFAULT` stands for the type that the translator prefers for the RETS type of a column.  The
type that a column reports is the same but for lookups, which are text, and the values of a decimal
column go to a worker that takes one character.
-/

namespace EzRets

/-! ## Literals -/

/-- Hours, minutes and seconds, maybe with thousandths. -/
structure IsTimeLiteral (s : Str) : Prop where
  exists_parts : ∃ (time : TimeText) (fraction : Str), s = time.text ++ fraction ∧
    (fraction = [] ∨ ∃ digits, IsDigitRun 3 digits ∧ fraction = '.' :: digits)

/-- An integer of `bits` bits. -/
structure IsIntegerLiteral (bits : Nat) (s : Str) : Prop where
  exists_text : ∃ d : IntegerText, s = d.text ∧
    -2 ^ (bits - 1) ≤ d.number ∧ d.number < 2 ^ (bits - 1)

/-- A literal of a RETS data type. -/
def IsLiteral : RetsType → Str → Prop
  | .boolean, s => s = "0".toList ∨ s = "1".toList
  | .character, _ => True
  | .date, s => ∃ d : DateText, s = d.text
  | .dateTime, s => ∃ d : TimestampText, s = d.text
  | .time, s => IsTimeLiteral s
  | .tiny, s => IsIntegerLiteral 8 s
  | .small, s => IsIntegerLiteral 16 s
  | .int, s => IsIntegerLiteral 32 s
  | .long, s => IsIntegerLiteral 64 s
  | .decimal, s => IsDecimal s

namespace TranslationWorker

theorem thrown_translateBit (s : Str) (t : Target) : (translateBit s t).thrown = none := by
  unfold translateBit
  split_ifs <;> rfl

theorem thrown_translateDate {s : Str} {t : Target} (h : search matchDate s ≠ none) :
    (translateDate s t).thrown = none := by
  obtain ⟨⟨⟨year, month, day⟩, rest⟩, hs⟩ := Option.ne_none_iff_exists'.mp h
  unfold translateDate
  rw [hs]
  dsimp only
  split_ifs <;> rfl

theorem thrown_translateTimestamp {s : Str} {t : Target} (h : search matchTimestamp s ≠ none) :
    (translateTimestamp s t).thrown = none := by
  obtain ⟨⟨⟨year, month, day⟩, timeOfDay⟩, hs⟩ := Option.ne_none_iff_exists'.mp h
  unfold translateTimestamp
  rw [hs]
  split_ifs <;> rfl

theorem thrown_translateTime {s : Str} {t : Target} (h : search matchTime s ≠ none) :
    (translateTime s t).thrown = none := by
  obtain ⟨⟨⟨hour, minute, second⟩, rest⟩, hs⟩ := Option.ne_none_iff_exists'.mp h
  unfold translateTime
  rw [hs]
  split_ifs <;> rfl

theorem lexicalCastSigned_literal {bits : Nat} {s : Str} (h : IsIntegerLiteral bits s) :
    (lexicalCastSigned bits s).isSome = true := by
  obtain ⟨d, rfl, hrange⟩ := h.exists_text
  rw [d.lexicalCastSigned_text, if_pos hrange]
  rfl

/-- `TINYINT` is cast to an `int` first, which holds it. -/
theorem thrown_translateTiny {s : Str} {t : Target} (h : IsIntegerLiteral 8 s) :
    (translateTiny s t).thrown = none := by
  obtain ⟨d, rfl, hrange⟩ := h.exists_text
  have hint : -2 ^ (32 - 1) ≤ d.number ∧ d.number < 2 ^ (32 - 1) := by omega
  have htiny : -128 ≤ d.number ∧ d.number < 128 := by omega
  unfold translateTiny
  rw [d.isBlank_text, if_neg Bool.false_ne_true, d.lexicalCastSigned_text, if_pos hint]
  dsimp only
  rw [if_pos htiny]
  rfl

end TranslationWorker

namespace DataTranslator

open TranslationWorker

/-- The worker of the type that is preferred for a RETS type. -/
def preferredWorker : DataTranslator → RetsType → TranslationWorker
  | .charOnly, _ => .character
  | .native _, .boolean => .bit
  | .native _, .character => .character
  | .native _, .date => .date
  | .native _, .dateTime => .timestamp
  | .native _, .time => .time
  | .native _, .tiny => .tiny
  | .native _, .small => .smallInt
  | .native _, .int => .int
  | .native _, .long => .bigInt
  | .native decimalAsString, .decimal => if decimalAsString then .character else .decimal

theorem worker_getPreferedOdbcType (dt : DataTranslator) (type : RetsType) :
    dt.worker (dt.getPreferedOdbcType type) = some (dt.preferredWorker type) := by
  rcases dt with (_ | _) | _ <;> rcases type <;> rfl

theorem preferredWorker_eq_character_iff {dt : DataTranslator} {type : RetsType} :
    dt.preferredWorker type = .character ↔
      dt = .charOnly ∨ type = .character ∨ (type = .decimal ∧ dt = .native true) := by
  rcases dt with (_ | _) | _ <;> rcases type <;> decide

theorem eq_decimal_of_preferredWorker {dt : DataTranslator} {type : RetsType}
    (h : dt.preferredWorker type = .decimal) : type = .decimal := by
  rcases dt with (_ | _) | _ <;> rcases type <;> first | rfl | cases h

/-- **A literal is converted by the worker of its type**, a decimal only as text. -/
theorem thrown_of_isLiteral {dt : DataTranslator} {type : RetsType} {s : Str} {t : Target}
    (hdecimal : dt.preferredWorker type ≠ .decimal) (h : IsLiteral type s)
    (hinfo : ∀ info, t.streamInfo = some info → info.offset ≤ s.length) :
    ((dt.preferredWorker type).translate s t).thrown = none := by
  have hcharacter : (TranslationWorker.character.translate s t).thrown = none :=
    thrown_translateCharacter hinfo
  rcases dt with decimalAsString | _
  · cases type with
    | boolean => exact thrown_translateBit s t
    | character => exact hcharacter
    | date =>
      obtain ⟨d, rfl⟩ := h
      have hdate := search_of_match (d.pattern_text [])
      rw [List.append_nil, ← matchDate_eq_pattern] at hdate
      exact thrown_translateDate (by simp [hdate])
    | dateTime =>
      obtain ⟨d, rfl⟩ := h
      exact thrown_translateTimestamp (by simp [search_of_match d.matchTimestamp_text])
    | time =>
      obtain ⟨time, fraction, rfl, -⟩ := h.exists_parts
      have htime := search_of_match (time.pattern_text fraction)
      rw [← matchTime_eq_pattern] at htime
      exact thrown_translateTime (by simp [htime])
    | tiny => exact thrown_translateTiny h
    | small => exact thrown_storeCast.mpr (.inr (lexicalCastSigned_literal h))
    | int => exact thrown_storeCast.mpr (.inr (lexicalCastSigned_literal h))
    | long => exact thrown_storeCast.mpr (.inr (lexicalCastSigned_literal h))
    | decimal =>
      rcases decimalAsString
      · exact absurd rfl hdecimal
      · exact hcharacter
  · exact hcharacter

end DataTranslator

namespace Column

open DataTranslator

variable {dt : DataTranslator} {col : Column} {v : MetadataView} {table : MetadataTable}
  {useCompactFormat : Bool}

/-- What the server can send for a column: any text for a lookup, otherwise a literal of the data
type, with separators where the column has them. -/
def Holds (table : MetadataTable) (data : Str) : Prop :=
  MetadataView.isLookupColumn table = true ∨ IsLiteral table.dataType (withoutSeparators table data)

/-- `SQL_C_DEFAULT` uses the worker of the type that the column reports, and that converts every
value of the column, bound or read. -/
structure DefaultDelivers (dt : DataTranslator) (col : Column) (table : MetadataTable) : Prop where
  worker : ∃ w, dt.worker (col.getBestSqlType dt sqlCDefault) = some w ∧
    dt.worker (col.getDataType dt) = some w
  converts : ∀ data, Holds table data → ∀ (deref : Deref) (ard : AppRowDesc) (colNo : Nat)
    (b : Binding) (streamInfo : Option DataStreamInfo), b.targetType = sqlCDefault →
      (∀ info, streamInfo = some info → info.offset ≤ (col.modifyData data).length) →
        (col.setData deref ard dt colNo data b streamInfo).thrown = none

/-- Types do not count, the column is text or converted to text, or it is neither a lookup nor a
decimal. -/
def DefaultFits (dt : DataTranslator) (table : MetadataTable) : Prop :=
  dt = .charOnly ∨ table.dataType = .character ∨ (table.dataType = .decimal ∧ dt = .native true) ∨
    (MetadataView.isLookupColumn table = false ∧ table.dataType ≠ .decimal)

/-- Then the preferred worker is the one of text, or takes the literals of a column that is none. -/
theorem DefaultFits.cases (h : DefaultFits dt table) :
    dt.preferredWorker table.dataType = .character ∨
      (MetadataView.isLookupColumn table = false ∧
        dt.preferredWorker table.dataType ≠ .decimal) := by
  rcases h with h | h | h | ⟨hlookup, htype⟩
  · exact .inl (preferredWorker_eq_character_iff.mpr (.inl h))
  · exact .inl (preferredWorker_eq_character_iff.mpr (.inr (.inl h)))
  · exact .inl (preferredWorker_eq_character_iff.mpr (.inr (.inr h)))
  · exact .inr ⟨hlookup, mt eq_decimal_of_preferredWorker htype⟩

theorem getBestSqlType_default (hkind : col.kind = .rets v table useCompactFormat) :
    col.getBestSqlType dt sqlCDefault = dt.getPreferedOdbcType table.dataType := by
  unfold getBestSqlType
  rw [hkind, if_pos (.inr rfl)]

theorem worker_getDataType (hkind : col.kind = .rets v table useCompactFormat) :
    dt.worker (col.getDataType dt) =
      some (if MetadataView.isLookupColumn table then .character
        else dt.preferredWorker table.dataType) := by
  unfold getDataType
  rw [hkind]
  dsimp only
  split_ifs
  · exact dt.worker_character (.inr rfl)
  · exact dt.worker_getPreferedOdbcType table.dataType

/-- A value of a column that is no lookup only loses its separators. -/
theorem modifyData_of_not_lookup (hkind : col.kind = .rets v table useCompactFormat)
    (hlookup : MetadataView.isLookupColumn table = false) (data : Str) :
    col.modifyData data = withoutSeparators table data := by
  have hdecoded : ¬ isDecoded table useCompactFormat = true := by
    unfold isDecoded
    rw [hlookup, Bool.and_false]
    decide
  unfold modifyData
  rw [hkind]
  dsimp only
  rw [if_neg hdecoded]
  rfl

/-- Bound or read, the value goes to the worker of the preferred type. -/
theorem serves_setData_default (hkind : col.kind = .rets v table useCompactFormat) (deref : Deref)
    (ard : AppRowDesc) (colNo : Nat) (data : Str) {b : Binding}
    (streamInfo : Option DataStreamInfo) (hb : b.targetType = sqlCDefault) :
    Serves (col.setData deref ard dt colNo data b streamInfo)
      ((dt.preferredWorker table.dataType).translate (col.modifyData data)
        (adjustTarget deref ard colNo b streamInfo)) := by
  unfold setData
  rw [hb, getBestSqlType_default hkind]
  exact serves_translate (dt.worker_getPreferedOdbcType table.dataType) _ _

/-- A decimal of several characters is refused. -/
theorem not_defaultDelivers_of_decimal (hkind : col.kind = .rets v table useCompactFormat)
    (hlookup : MetadataView.isLookupColumn table = false) (htype : table.dataType = .decimal) :
    ¬ DefaultDelivers (.native false) col table := by
  intro h
  have hdata : withoutSeparators table "12.5".toList = "12.5".toList := by
    unfold withoutSeparators
    split_ifs
    · decide
    · rfl
  have hholds : Holds table "12.5".toList := by
    refine .inr ?_
    rw [htype, hdata]
    exact ⟨[], "12".toList, ['.'], "5".toList, rfl, .inl rfl, .inr rfl, by decide⟩
  have hrefused : ∀ t, (TranslationWorker.decimal.translate "12.5".toList t).thrown =
      some .badLexicalCast := fun _ => rfl
  have hthrown := h.converts _ hholds (fun _ => 0) .new 0 ⟨sqlCDefault, 1, 1, 0⟩ none rfl
    fun info hinfo => by cases hinfo
  rw [(serves_setData_default hkind _ _ _ _ _ rfl).thrown_eq_none_iff,
    modifyData_of_not_lookup hkind hlookup, hdata, htype] at hthrown
  cases (hrefused _).symm.trans hthrown

/-- **`SQL_C_DEFAULT` delivers what the column is described as** exactly when the types do not
count, the column is text or a decimal that is delivered as text, or it is neither a lookup nor a
decimal. -/
theorem defaultDelivers_iff (hkind : col.kind = .rets v table useCompactFormat) :
    DefaultDelivers dt col table ↔ DefaultFits dt table := by
  constructor
  · intro h
    obtain ⟨w, hbest, hdescribed⟩ := h.worker
    rw [getBestSqlType_default hkind, dt.worker_getPreferedOdbcType] at hbest
    obtain rfl := Option.some.inj hbest
    rw [worker_getDataType hkind] at hdescribed
    rcases hlookup : MetadataView.isLookupColumn table
    · by_cases htype : table.dataType = .decimal
      · rcases dt with (_ | _) | _
        · exact absurd h (not_defaultDelivers_of_decimal hkind hlookup htype)
        · exact .inr (.inr (.inl ⟨htype, rfl⟩))
        · exact .inl rfl
      · exact .inr (.inr (.inr ⟨hlookup, htype⟩))
    · rw [hlookup, if_pos rfl] at hdescribed
      rcases preferredWorker_eq_character_iff.mp (Option.some.inj hdescribed).symm with h | h | h
      · exact .inl h
      · exact .inr (.inl h)
      · exact .inr (.inr (.inl h))
  · intro hfits
    refine ⟨⟨dt.preferredWorker table.dataType, ?_, ?_⟩, ?_⟩
    · rw [getBestSqlType_default hkind, dt.worker_getPreferedOdbcType]
    · rw [worker_getDataType hkind]
      rcases hfits.cases with hcharacter | ⟨hlookup, -⟩
      · rw [hcharacter, ite_self]
      · rw [hlookup, if_neg Bool.false_ne_true]
    · intro data hdata deref ard colNo b streamInfo hb hinfo
      rw [(serves_setData_default hkind deref ard colNo data streamInfo hb).thrown_eq_none_iff]
      rcases hfits.cases with hcharacter | ⟨hlookup, hdecimal⟩
      · rw [hcharacter]
        exact TranslationWorker.thrown_translateCharacter hinfo
      · rw [modifyData_of_not_lookup hkind hlookup] at hinfo ⊢
        rcases hdata with hdata | hdata
        · exact absurd (hlookup.symm.trans hdata) Bool.false_ne_true
        · exact thrown_of_isLiteral hdecimal hdata hinfo

/-! ### A decoded lookup of integers and a price -/

/-- The column `Style`, a lookup. -/
def style (dataType : RetsType) : MetadataTable :=
  ⟨1, "Style".toList, "Style".toList, [], dataType, .lookup, 32, 0, "Style".toList,
    "Property:RES".toList, false, true⟩

def styleColumn (dataType : RetsType) : Column :=
  ⟨"Style".toList, .rets featuresView (style dataType) false, none⟩

theorem defaultDelivers_style :
    DefaultDelivers (.native false) (styleColumn .character) (style .character) ↔
      DefaultFits (.native false) (style .character) :=
  defaultDelivers_iff (v := featuresView) rfl

/-- A lookup of the type `INT` is described as text and delivered as an integer. -/
theorem not_defaultDelivers_style :
    ¬ DefaultDelivers (.native false) (styleColumn .int) (style .int) := by
  rintro ⟨⟨w, hbest, hdescribed⟩, -⟩
  have hint : (DataTranslator.native false).worker
      ((styleColumn .int).getBestSqlType (.native false) sqlCDefault) = some .int := rfl
  have hcharacter : (DataTranslator.native false).worker
      ((styleColumn .int).getDataType (.native false)) = some .character := rfl
  rw [hint] at hbest
  rw [hcharacter] at hdescribed
  cases hbest.trans hdescribed.symm

end Column

end EzRets
