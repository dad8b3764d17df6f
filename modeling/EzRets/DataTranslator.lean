import EzRets.DataSource
import EzRets.Metadata
import EzRets.TranslationWorkers

/-!
# EzRets.DataTranslator — which worker serves a type code

`NativeDataTranslator` maps ODBC and C type codes to workers and RETS types to ODBC types;
`CharOnlyDataTranslator` treats everything but binary data as text.
-/

namespace EzRets

/-- `getTypeName`, the name of a type code in messages. -/
def getTypeName (type : Int) : Str :=
  match type with
  | 12 => "SQL_VARCHAR".toList
  | 3 => "SQL_DECIMAL".toList
  | 1 => "SQL_C_CHAR".toList
  | 4 => "SQL_C_LONG".toList
  | 5 => "SQL_C_SHORT".toList
  | 7 => "SQL_C_FLOAT".toList
  | 8 => "SQL_C_DOUBLE".toList
  | 2 => "SQL_C_NUMERIC".toList
  | 99 => "SQL_C_DEFAULT".toList
  | 9 => "SQL_C_DATE".toList
  | 10 => "SQL_C_TIME".toList
  | 11 => "SQL_C_TIMESTAMP".toList
  | -2 => "SQL_C_BINARY".toList
  | -7 => "SQL_C_BIT".toList
  | -6 => "SQL_C_TINYINT".toList
  | -16 => "SQL_C_SLONG".toList
  | -15 => "SQL_C_SSHORT".toList
  | -26 => "SQL_C_STINYINT".toList
  | -18 => "SQL_C_ULONG".toList
  | -17 => "SQL_C_USHORT".toList
  | -28 => "SQL_C_UTINYINT".toList
  | 91 => "SQL_C_TYPE_DATE".toList
  | 92 => "SQL_C_TYPE_TIME".toList
  | 93 => "SQL_C_TYPE_TIMESTAMP".toList
  | 101 => "SQL_C_INTERVAL_YEAR".toList
  | 102 => "SQL_C_INTERVAL_MONTH".toList
  | 103 => "SQL_C_INTERVAL_DAY".toList
  | 104 => "SQL_C_INTERVAL_HOUR".toList
  | 105 => "SQL_C_INTERVAL_MINUTE".toList
  | 106 => "SQL_C_INTERVAL_SECOND".toList
  | 107 => "SQL_C_INTERVAL_YEAR_TO_MONTH".toList
  | 108 => "SQL_C_INTERVAL_DAY_TO_HOUR".toList
  | 109 => "SQL_C_INTERVAL_DAY_TO_MINUTE".toList
  | 110 => "SQL_C_INTERVAL_DAY_TO_SECOND".toList
  | 111 => "SQL_C_INTERVAL_HOUR_TO_MINUTE".toList
  | 112 => "SQL_C_INTERVAL_HOUR_TO_SECOND".toList
  | 113 => "SQL_C_INTERVAL_MINUTE_TO_SECOND".toList
  | -25 => "SQL_C_SBIGINT".toList
  | -27 => "SQL_C_UBIGINT".toList
  | -11 => "SQL_C_GUID".toList
  | _ => intText type

/-- The subclasses of `DataTranslator`; `native` carries the quirk `DECIMAL_AS_STRING`. -/
inductive DataTranslator
  | native (decimalAsString : Bool)
  | charOnly
  deriving DecidableEq, Repr

namespace DataTranslator

/-- `factory` without a statement. -/
def default : DataTranslator := .native false

/-- `factory` for a statement of a connection with the settings `d`. -/
def factory (d : DataSource) : DataTranslator :=
  if d.bool .ignoreMetadataType then .charOnly else .native (d.bool .treatDecimalAsString)

/-- `mOdbc2Trans` of the native translator. -/
def odbc2Trans (decimalAsString : Bool) (type : Int) : Option TranslationWorker :=
  if type = sqlBit then some .bit
  else if type = sqlTypeDate then some .date
  else if type = sqlTypeTimestamp then some .timestamp
  else if type = sqlTypeTime then some .time
  else if type = sqlTinyint ∨ type = sqlCStinyint then some .tiny
  else if type = sqlSmallint ∨ type = sqlCSshort then some .smallInt
  else if type = sqlInteger ∨ type = sqlCSlong then some .int
  else if type = sqlBigint ∨ type = sqlCSbigint then some .bigInt
  else if type = sqlDecimal ∧ !decimalAsString then some .decimal
  else if type = sqlVarchar ∨ type = sqlChar then some .character
  else if type = sqlDouble then some .double
  else if type = sqlLongvarbinary ∨ type = sqlBinary ∨ type = sqlVarbinary then some .binary
  else if type = sqlNumeric then some .numeric
  else if type = sqlCUlong then some .uLong
  else if type = sqlCUshort then some .uShort
  else none

/-- `mRets2Odbc` of the native translator. -/
def rets2Odbc (decimalAsString : Bool) : RetsType → Int
  | .boolean => sqlBit
  | .date => sqlTypeDate
  | .dateTime => sqlTypeTimestamp
  | .time => sqlTypeTime
  | .tiny => sqlTinyint
  | .small => sqlSmallint
  | .int => sqlInteger
  | .long => sqlBigint
  | .decimal => if decimalAsString then sqlVarchar else sqlDecimal
  | .character => sqlVarchar

/-- The worker of the character-only translator. -/
def exceptionWorker (type : Int) : TranslationWorker :=
  if type = sqlLongvarbinary ∨ type = sqlBinary ∨ type = sqlVarbinary then .binary else .character

def getPreferedOdbcType : DataTranslator → RetsType → Int
  | .native decimalAsString, type => rets2Odbc decimalAsString type
  | .charOnly, _ => TranslationWorker.character.getOdbcType

def getOdbcTypeName : DataTranslator → Int → Str
  | .native decimalAsString, type =>
    match odbc2Trans decimalAsString type with
    | some worker => worker.getOdbcTypeName
    | none => "VARCHAR".toList
  | .charOnly, type => (exceptionWorker type).getOdbcTypeName

def getOdbcTypeLength : DataTranslator → Int → Int
  | .native decimalAsString, type =>
    match odbc2Trans decimalAsString type with
    | some worker => worker.getOdbcTypeLength
    | none => -1
  | .charOnly, type => (exceptionWorker type).getOdbcTypeLength

/-- The catch clause of `NativeDataTranslator::translate`. -/
def convertBadCast (data : Str) (type : Int) (out : Translated) : Translated :=
  if out.thrown = some .badLexicalCast then
    { out with
      thrown := some (.dataTranslation ("bad_lexical_cast: could not convert \"".toList ++ data ++
        "\" to target type ".toList ++ getTypeName type)) }
  else out

def translate : DataTranslator → Str → Int → Target → Translated
  | .native decimalAsString, data, type, t =>
    match odbc2Trans decimalAsString type with
    | some worker => convertBadCast data type (worker.translate data t)
    | none =>
      t.throws (setResultSize t.resultSize sqlNullData)
        (.missingTranslator ("ezRETS has no translator to turn \"".toList ++ data ++
          "\" to target type ".toList ++ getTypeName type ++
          " please contact the ezRETS development team.".toList))
  | .charOnly, data, type, t => (exceptionWorker type).translate data t

/-! ## The worker of a type -/

/-- The worker that serves a type code. -/
def worker : DataTranslator → Int → Option TranslationWorker
  | .native decimalAsString, type => odbc2Trans decimalAsString type
  | .charOnly, type => some (exceptionWorker type)

/-- `out` is what a worker did, but for the exception that a failed cast is turned into. -/
structure Serves (out served : Translated) : Prop where
  writes : out.writes = served.writes
  streamInfo : out.streamInfo = served.streamInfo
  thrown : out.thrown = served.thrown ∨
    served.thrown = some .badLexicalCast ∧ ∃ what, out.thrown = some (.dataTranslation what)

theorem Serves.thrown_eq_none_iff {out served : Translated} (h : Serves out served) :
    out.thrown = none ↔ served.thrown = none := by
  rcases h.thrown with h | ⟨h, what, hwhat⟩
  · rw [h]
  · rw [h, hwhat]
    simp

theorem serves_convertBadCast (data : Str) (type : Int) (out : Translated) :
    Serves (convertBadCast data type out) out := by
  unfold convertBadCast
  split_ifs with h
  · exact ⟨rfl, rfl, .inr ⟨h, _, rfl⟩⟩
  · exact ⟨rfl, rfl, .inl rfl⟩

/-- **A translator does what the worker of the type does.** -/
theorem serves_translate {dt : DataTranslator} {type : Int} {w : TranslationWorker}
    (h : dt.worker type = some w) (data : Str) (t : Target) :
    Serves (dt.translate data type t) (w.translate data t) := by
  rcases dt with decimalAsString | _
  · have hworker : odbc2Trans decimalAsString type = some w := h
    unfold translate
    dsimp only
    rw [hworker]
    exact serves_convertBadCast data type _
  · obtain rfl := Option.some.inj h
    exact ⟨rfl, rfl, .inl rfl⟩

end DataTranslator

end EzRets
