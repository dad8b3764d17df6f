import EzRets.Lexical
import EzRets.Memory

/-!
# EzRets.TranslationWorkers — one column value into one application buffer

A worker converts the text of a value to its C type.  Its outcome is the list of its stores, the
exception it ends with, if any, and the streaming state that it leaves.  Only the character and
the binary worker stream: they deliver the value from `offset` on.
-/

namespace EzRets

/-- `DataStreamInfo::FileStatus`. -/
inductive FileStatus
  | noDataRetrieved
  | hasMoreData
  | noMoreData
  deriving DecidableEq, Repr

/-- `DataStreamInfo`: what has been read of which column of the current row. -/
structure DataStreamInfo where
  column : Nat
  status : FileStatus
  offset : Nat
  deriving DecidableEq, Repr

/-- The constructor and `reset`. -/
def DataStreamInfo.reset : DataStreamInfo := ⟨0, .noDataRetrieved, 0⟩

/-- The outcome of a translation. -/
structure Translated where
  writes : List Write
  streamInfo : Option DataStreamInfo
  thrown : Option Exn
  deriving Repr

/-- The target arguments of a translation: `resultSize` is the length/indicator pointer and a
null `streamInfo` is `none`. -/
structure Target where
  target : Ptr
  targetLen : Int
  resultSize : Ptr
  streamInfo : Option DataStreamInfo
  deriving Repr

/-- `TranslationWorker::setResultSize`. -/
def setResultSize (resultSize : Ptr) (value : Int) : List Write :=
  if resultSize ≠ 0 then [⟨resultSize, .len value⟩] else []

theorem lenAfter_setResultSize {p : Ptr} {n : Int} (h : p ≠ 0) :
    lenAfter (setResultSize p n) p = some n := by
  simp [setResultSize, h, Write.lenAt]

theorem lenAt_setResultSize {p q : Ptr} {n : Int} (h : q ≠ p) :
    ∀ w ∈ setResultSize p n, w.lenAt q = none := by
  intro w hw
  unfold setResultSize at hw
  split at hw
  · rw [List.mem_singleton] at hw
    subst hw
    exact if_neg fun hp => h hp.symm
  · cases hw

namespace Target

/-- A translation that makes the stores `writes` and leaves the streaming state alone. -/
def stores (t : Target) (writes : List Write) : Translated := ⟨writes, t.streamInfo, none⟩

/-- A translation that throws after the stores `writes`. -/
def throws (t : Target) (writes : List Write) (e : Exn) : Translated :=
  ⟨writes, t.streamInfo, some e⟩

/-- The outcome for an SQL `NULL`. -/
def null (t : Target) : Translated := t.stores (setResultSize t.resultSize sqlNullData)

/-- Stores one value and its size, or fails with `bad_lexical_cast` before any store. -/
def storeCast {α : Type} (t : Target) (value : Option α) (toValue : α → CValue) (size : Int) :
    Translated :=
  match value with
  | none => t.throws [] .badLexicalCast
  | some v => t.stores (⟨t.target, toValue v⟩ :: setResultSize t.resultSize size)

end Target

/-! ## The workers -/

/-- The subclasses of `TranslationWorker`. -/
inductive TranslationWorker
  | bit
  | date
  | timestamp
  | time
  | tiny
  | smallInt
  | int
  | bigInt
  | decimal
  | character
  | double
  | binary
  | numeric
  | uLong
  | uShort
  deriving DecidableEq, Repr

/-- `DataStreamInfo` after `size` more characters of a value of length `length`. -/
def DataStreamInfo.advance (info : DataStreamInfo) (size length : Nat) : DataStreamInfo :=
  { info with
    offset := info.offset + size
    status := if info.offset + size ≥ length then .noMoreData else .hasMoreData }

/-- `data.copy(target, n, offset)`: what is stored, `none` where it throws `out_of_range`. -/
def copyFrom (data : Str) (n offset : Nat) : Option Str :=
  if offset ≤ data.length then some ((data.drop offset).take n) else none

namespace TranslationWorker

def getOdbcType : TranslationWorker → Int
  | bit => sqlBit
  | date => sqlTypeDate
  | timestamp => sqlTypeTimestamp
  | time => sqlTypeTime
  | tiny => sqlTinyint
  | smallInt => sqlSmallint
  | int => sqlInteger
  | bigInt => sqlBigint
  | decimal => sqlDecimal
  | character => sqlVarchar
  | double => sqlDouble
  | binary => sqlLongvarbinary
  | numeric => sqlNumeric
  | uLong => sqlCUlong
  | uShort => sqlCUshort

def getOdbcTypeName : TranslationWorker → Str
  | bit => "BOOLEAN".toList
  | date => "DATE".toList
  | timestamp => "DATE_TIME".toList
  | time => "TIME".toList
  | tiny => "TINY".toList
  | smallInt => "SMALL".toList
  | int => "INT".toList
  | bigInt => "LONG".toList
  | decimal => "DECIMAL".toList
  | character => "CHARACTER".toList
  | double => "DOUBLE".toList
  | binary => "LONG VARBINARY".toList
  | numeric => "NUMERIC".toList
  | uLong => "ULONG".toList
  | uShort => "USHORT".toList

def getOdbcTypeLength : TranslationWorker → Int
  | bit => 1
  | date => sqlDateLen
  | timestamp => sqlTimestampLen
  | time => sqlTimeLen
  | tiny => 1
  | smallInt => 2
  | int => 4
  | bigInt => 8
  | decimal => 1
  | character => -1
  | double => 8
  | binary => -1
  | numeric => 19
  | uLong => 4
  | uShort => 2

def translateBit (data : Str) (t : Target) : Translated :=
  if isBlank data then t.null
  else
    t.stores (⟨t.target, .byte (if data = "0".toList then 0 else 1)⟩ ::
      setResultSize t.resultSize 1)

def translateDate (data : Str) (t : Target) : Translated :=
  if isBlank data then t.null
  else
    match search matchDate data with
    | none =>
      t.throws (setResultSize t.resultSize sqlNullData)
        (.dateTimeFormat ("Value not a date: ".toList ++ data))
    | some ((year, month, day), _) =>
      let writes : List Write :=
        [⟨t.target, .dateYear year⟩, ⟨t.target, .dateMonth month⟩, ⟨t.target, .dateDay day⟩]
      if year = 0 ∧ month = 0 ∧ day = 0 then
        t.stores (writes ++ setResultSize t.resultSize sqlNullData)
      else t.stores (writes ++ setResultSize t.resultSize sqlDateLen)

def translateTimestamp (data : Str) (t : Target) : Translated :=
  if isBlank data then t.null
  else
    match search matchTimestamp data with
    | none =>
      t.throws (setResultSize t.resultSize sqlNullData)
        (.dateTimeFormat ("Value not a timestamp: ".toList ++ data))
    | some ((year, month, day), timeOfDay) =>
      let ((hour, minute, second), fraction) := timeOfDay.getD ((0, 0, 0), 0)
      t.stores ([⟨t.target, .dateYear year⟩, ⟨t.target, .dateMonth month⟩,
        ⟨t.target, .dateDay day⟩, ⟨t.target, .timeHour hour⟩, ⟨t.target, .timeMinute minute⟩,
        ⟨t.target, .timeSecond second⟩, ⟨t.target, .fraction fraction⟩] ++
        setResultSize t.resultSize sqlTimestampLen)

def translateTime (data : Str) (t : Target) : Translated :=
  if isBlank data then t.null
  else
    match search matchTime data with
    | none =>
      t.throws (setResultSize t.resultSize sqlNullData)
        (.dateTimeFormat ("Value not a time: ".toList ++ data))
    | some ((hour, minute, second), _) =>
      t.stores ([⟨t.target, .timeHour hour⟩, ⟨t.target, .timeMinute minute⟩,
        ⟨t.target, .timeSecond second⟩] ++ setResultSize t.resultSize sqlTimeLen)

def translateTiny (data : Str) (t : Target) : Translated :=
  if isBlank data then t.null
  else
    match lexicalCastSigned 32 data with
    | none => t.throws [] .badLexicalCast
    | some n =>
      -- `numeric_cast<char>`
      if -128 ≤ n ∧ n < 128 then
        t.stores (⟨t.target, .byte n⟩ :: setResultSize t.resultSize 1)
      else t.throws [] .badNumericCast

def translateSmallInt (data : Str) (t : Target) : Translated :=
  if isBlank data then t.null else t.storeCast (lexicalCastSigned 16 data) .smallint 2

def translateInt (data : Str) (t : Target) : Translated :=
  if isBlank data then t.null else t.storeCast (lexicalCastSigned 32 data) .integer 4

def translateBigInt (data : Str) (t : Target) : Translated :=
  if isBlank data then t.null else t.storeCast (lexicalCastSigned 64 data) .bigint 8

/-- `SQLDECIMAL` is a character type. -/
def translateDecimal (data : Str) (t : Target) : Translated :=
  if isBlank data then t.null else t.storeCast (lexicalCastChar data) .decimal 1

def translateDouble (data : Str) (t : Target) : Translated :=
  if isBlank data then t.null
  else t.storeCast (if isDoubleLiteral data then some data else none) .double 8

def translateULong (data : Str) (t : Target) : Translated :=
  if isBlank data then t.null else t.storeCast (lexicalCastUnsigned 32 data) .uinteger 4

def translateUShort (data : Str) (t : Target) : Translated :=
  if isBlank data then t.null else t.storeCast (lexicalCastUnsigned 16 data) .usmallint 2

def translateCharacter (data : Str) (t : Target) : Translated :=
  if data.isEmpty then t.null
  else
    match t.streamInfo with
    | none =>
      let copied := copyString data t.target (toSize t.targetLen)
      ⟨copied.1 ++ setResultSize t.resultSize copied.2, none, none⟩
    | some info =>
      let adjTargetLen := t.targetLen - 1
      if t.target ≠ 0 ∧ adjTargetLen > 0 then
        match copyFrom data (toSize adjTargetLen) info.offset with
        | none => t.throws [] .outOfRange
        | some chunk =>
          ⟨[⟨t.target, .chars chunk⟩, ⟨t.target + adjTargetLen.toNat, .chars ['\x00']⟩] ++
              setResultSize t.resultSize (data.length - info.offset),
            some (info.advance chunk.length data.length), none⟩
      else
        ⟨setResultSize t.resultSize (data.length - info.offset),
          some (info.advance 0 data.length), none⟩

def translateBinary (data : Str) (t : Target) : Translated :=
  if data.isEmpty then t.null
  else
    let offset := toSize (toSqlInteger ((t.streamInfo.map DataStreamInfo.offset).getD 0))
    let copied :=
      if t.target ≠ 0 then copyFrom data (toSize t.targetLen) offset else some []
    match copied with
    | none => t.throws [] .outOfRange
    | some chunk =>
      let writes := if t.target ≠ 0 then [⟨t.target, .chars chunk⟩] else []
      match t.streamInfo with
      | none => ⟨writes ++ setResultSize t.resultSize chunk.length, none, none⟩
      | some info =>
        ⟨writes ++ setResultSize t.resultSize (data.length - info.offset),
          some (info.advance chunk.length data.length), none⟩

/-- The bytes `[0, n)` of a number, the least significant first. -/
def littleEndian : Nat → Nat → List Nat
  | 0, _ => []
  | n + 1, value => value % 256 :: littleEndian n (value / 256)

/-- The byte order of the build; the second defines `BOOST_BIG_ENDIAN`. -/
inductive ByteOrder
  | little
  | big
  deriving DecidableEq, Repr

/-- The bytes of `intvalue` that are copied to `val`.  Both ranges of seven bytes miss the last of
the eight. -/
def copiedBytes (order : ByteOrder) (intvalue : Nat) : List Nat :=
  match order with
  | .little => (littleEndian 8 intvalue).take 7
  | .big =>
    let chararray := (littleEndian 8 intvalue).reverse
    ((chararray.take 7).reverse ++ chararray.drop 7).take 7

/-- The exception that both failing casts of the numeric worker become. -/
def numericBadCast (data : Str) : Exn :=
  .dataTranslation ("bad_cast: could not convert \"".toList ++ data ++ "\" to NUMERIC".toList)

/-- `NumericTranslationWorker::translate` of a build. -/
def translateNumericOn (order : ByteOrder) (data : Str) (t : Target) : Translated :=
  let trimd := trim data
  if trimd.isEmpty then t.null
  else
    let minus := trimd.head? = some '-'
    let trimd := if minus then trimd.drop 1 else trimd
    let signWrites : List Write := [⟨t.target, .numericSign (if minus then 0 else 1)⟩]
    let index := trimd.findIdx (· = '.')
    let scale := if index = trimd.length then 0 else trimd.length - index - 1
    -- `numeric_cast<SQLSCHAR>` and then `numeric_cast<SQLCHAR>`
    if scale ≥ 128 then t.throws signWrites (numericBadCast data)
    else
      let writes := signWrites ++ [⟨t.target, .numericScale scale⟩,
        ⟨t.target, .numericPrecision scale⟩, ⟨t.target, .numericVal 0 (List.replicate 16 0)⟩]
      match lexicalCastUnsigned 64 (trimd.filter (· ≠ '.')) with
      | none => t.throws writes (numericBadCast data)
      | some intvalue =>
        t.stores (writes ++ [⟨t.target, .numericVal 0 (copiedBytes order intvalue)⟩] ++
          setResultSize t.resultSize 19)

def translateNumeric : Str → Target → Translated := translateNumericOn .little

/-- `TranslationWorker::translate`. -/
def translate : TranslationWorker → Str → Target → Translated
  | bit => translateBit
  | date => translateDate
  | timestamp => translateTimestamp
  | time => translateTime
  | tiny => translateTiny
  | smallInt => translateSmallInt
  | int => translateInt
  | bigInt => translateBigInt
  | decimal => translateDecimal
  | character => translateCharacter
  | double => translateDouble
  | binary => translateBinary
  | numeric => translateNumeric
  | uLong => translateULong
  | uShort => translateUShort

/-- Every worker takes the empty text for an SQL `NULL`. -/
theorem translate_nil (worker : TranslationWorker) (t : Target) :
    worker.translate [] t = t.null := by
  cases worker <;> rfl

end TranslationWorker

end EzRets
