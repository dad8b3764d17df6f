import EzRets.RowArraySize
import EzRets.TargetAddresses

/-!
# EzRets.LentMemory — the memory that a statement may store into

An application lends memory with every call: for the call itself, or until further notice with
`SQLBindCol` and the two row pointers of `SQLSetStmtAttr`.  A null pointer lends nothing.  A
statement stores nowhere else, if the lengths that it is told are true and no null pointer is moved.
-/

namespace EzRets

open FaultRun

/-! ## Places -/

/-- The C types of the objects that the driver fills; a number is known by its size. -/
inductive CType
  | scalar (size : Nat)
  | date
  | time
  | timestamp
  | numeric
  deriving DecidableEq, Repr

/-- `sizeof`. -/
def CType.size : CType → Nat
  | scalar size => size
  | date | time => 6
  | timestamp => 16
  | numeric => 19

/-- The bytes of an object that a store of the value fills: where they begin, and how many. -/
def CValue.bytesIn : CValue → CType → Option (Nat × Nat)
  | .byte _, .scalar _ | .decimal _, .scalar _ => some (0, 1)
  | .smallint _, .scalar _ | .usmallint _, .scalar _ => some (0, 2)
  | .integer _, .scalar _ | .uinteger _, .scalar _ => some (0, 4)
  | .len _, .scalar _ | .ulen _, .scalar _ | .bigint _, .scalar _ | .pointer _, .scalar _
  | .double _, .scalar _ => some (0, 8)
  | .dateYear _, .date | .dateYear _, .timestamp | .timeHour _, .time => some (0, 2)
  | .dateMonth _, .date | .dateMonth _, .timestamp | .timeMinute _, .time => some (2, 2)
  | .dateDay _, .date | .dateDay _, .timestamp | .timeSecond _, .time => some (4, 2)
  | .timeHour _, .timestamp => some (6, 2)
  | .timeMinute _, .timestamp => some (8, 2)
  | .timeSecond _, .timestamp => some (10, 2)
  | .fraction _, .timestamp => some (12, 4)
  | .numericPrecision _, .numeric => some (0, 1)
  | .numericScale _, .numeric => some (1, 1)
  | .numericSign _, .numeric => some (2, 1)
  | .numericVal start bytes, .numeric => some (3 + start, bytes.length)
  | _, _ => none

/-- The value, or the member that it is, fits into an object of the type. -/
def CValue.fits (v : CValue) (type : CType) : Bool :=
  match v.bytesIn type with
  | some (start, count) => start + count ≤ type.size
  | none => false

/-- Memory that the application lends: bytes for text, or an object. -/
inductive Place
  | buffer (p length : Nat)
  | object (p : Nat) (type : CType)
  deriving DecidableEq, Repr

namespace Place

def start : Place → Ptr
  | buffer p _ => p
  | object p _ => p

/-- The place `n` bytes further on. -/
def move (n : Nat) : Place → Place
  | buffer p length => .buffer (p + n) length
  | object p type => .object (p + n) type

end Place

/-- Every byte of the store belongs to the place. -/
def Write.LiesIn (w : Write) : Place → Prop
  | .buffer p length => ∃ s, w.value = .chars s ∧ p ≤ w.ptr ∧ w.ptr + s.length ≤ p + length
  | .object p type => w.ptr = p ∧ w.value.fits type = true

/-- The stores lie in the places. -/
def Confined (places : Place → Prop) (ws : List Write) : Prop :=
  ∀ w ∈ ws, ∃ place, places place ∧ w.LiesIn place

namespace Confined

variable {places : Place → Prop} {ws ws' : List Write}

theorem nil : Confined places [] := fun _ hw => nomatch hw

theorem append (h : Confined places ws) (h' : Confined places ws') :
    Confined places (ws ++ ws') := List.forall_mem_append.mpr ⟨h, h'⟩

theorem mono {places' : Place → Prop} (h : Confined places ws)
    (hle : ∀ place, places place → places' place) : Confined places' ws := by
  intro w hw
  obtain ⟨place, hplace, hlies⟩ := h w hw
  exact ⟨place, hle place hplace, hlies⟩

/-- A store into an object. -/
theorem cons {p : Ptr} (type : CType) {v : CValue} (hp : places (.object p type))
    (hv : v.fits type = true) (h : Confined places ws) : Confined places (⟨p, v⟩ :: ws) :=
  List.forall_mem_cons.mpr ⟨⟨.object p type, hp, rfl, hv⟩, h⟩

theorem object {p : Ptr} (type : CType) {v : CValue} (hp : places (.object p type))
    (hv : v.fits type = true) : Confined places [⟨p, v⟩] := cons type hp hv nil

/-- A text and its terminator. -/
theorem terminated {p dest last length : Nat} {s : Str} (hp : places (.buffer p length))
    (hlow : p ≤ dest) (hhigh : dest + s.length ≤ p + length) (hlast : p ≤ last)
    (hroom : last < p + length) :
    Confined places [⟨dest, .chars s⟩, ⟨last, .chars ['\x00']⟩] := by
  intro w hw
  simp only [List.mem_cons, List.not_mem_nil, or_false] at hw
  rcases hw with rfl | rfl
  · exact ⟨_, hp, s, rfl, hlow, hhigh⟩
  · exact ⟨_, hp, _, rfl, hlast, hroom⟩

theorem text {p length : Nat} {s : Str} (hp : places (.buffer p length))
    (hroom : s.length ≤ length) : Confined places [⟨p, .chars s⟩] := by
  intro w hw
  obtain rfl := List.mem_singleton.mp hw
  exact ⟨_, hp, s, rfl, Nat.le_refl _, Nat.add_le_add_left hroom p⟩

theorem copyString {src : Str} {dest length : Nat}
    (hp : dest ≠ 0 → places (.buffer dest length)) :
    Confined places (copyString src dest length).1 := by
  unfold EzRets.copyString
  split_ifs with hnull
  · exact .nil
  · have hp := hp fun h => hnull (.inl h)
    have hpos : length ≠ 0 := fun h => hnull (.inr h)
    dsimp only
    split_ifs with hcut
    · refine .terminated hp (Nat.le_refl _) ?_ (Nat.le_add_right _ _) ?_
      · rw [List.length_take]
        omega
      · show dest + (length - 1) < dest + length
        omega
    · refine .terminated hp (Nat.le_refl _) ?_ (Nat.le_add_right _ _) ?_
      · omega
      · omega

theorem storeIf {p : Ptr} (type : CType) {v : CValue} (hp : p ≠ 0 → places (.object p type))
    (hv : v.fits type = true) : Confined places (RetsSTMT.storeIf p v) := by
  unfold RetsSTMT.storeIf
  split_ifs with h
  · exact .object type (hp h) hv
  · exact .nil

theorem setResultSize {p : Ptr} {n : Int} (hp : p ≠ 0 → places (.object p (.scalar 8))) :
    Confined places (setResultSize p n) := by
  unfold EzRets.setResultSize
  split_ifs with h
  · exact .object (.scalar 8) (hp h) rfl
  · exact .nil

end Confined

/-! ## The stores of a translation -/

/-- The object that a worker fills; the other two fill a buffer. -/
def TranslationWorker.objectType : TranslationWorker → Option CType
  | bit | tiny | decimal => some (.scalar 1)
  | smallInt | uShort => some (.scalar 2)
  | int | uLong => some (.scalar 4)
  | bigInt | double => some (.scalar 8)
  | date => some .date
  | time => some .time
  | timestamp => some .timestamp
  | numeric => some .numeric
  | character | binary => none

/-- The places of a translation whose target is an object of the type, if it is one. -/
inductive Target.Lends (t : Target) (type : Option CType) : Place → Prop
  | buffer (h : t.target ≠ 0) : Lends t type (.buffer t.target t.targetLen.toNat)
  | value {o : CType} (h : type = some o) : Lends t type (.object t.target o)
  | size (h : t.resultSize ≠ 0) : Lends t type (.object t.resultSize (.scalar 8))

namespace TranslationWorker

variable {t : Target} {type : Option CType} {data : Str}

theorem size_confined (n : Int) : Confined (t.Lends type) (setResultSize t.resultSize n) :=
  .setResultSize .size

theorem null_confined : Confined (t.Lends type) t.null.writes := size_confined sqlNullData

theorem blank_confined {out : Translated} (h : Confined (t.Lends type) out.writes) :
    Confined (t.Lends type) (if isBlank data then t.null else out).writes := by
  split_ifs
  · exact null_confined
  · exact h

theorem character_confined (h0 : 0 ≤ t.targetLen) (hlt : t.targetLen < 2 ^ 31) :
    Confined (t.Lends type) (translateCharacter data t).writes := by
  have hsize : toSize t.targetLen = t.targetLen.toNat := toSize_of_lt h0 (by omega)
  unfold translateCharacter
  split_ifs
  · exact null_confined
  split
  · refine .append ?_ (size_confined _)
    rw [hsize]
    exact .copyString .buffer
  · rename_i info
    dsimp only
    split_ifs with hroom
    · obtain ⟨htarget, hpos⟩ := hroom
      have hadj : toSize (t.targetLen - 1) = t.targetLen.toNat - 1 := by
        rw [toSize_of_lt (by omega) (by omega)]
        omega
      rw [hadj]
      split
      · exact .nil
      · rename_i chunk hchunk
        have hlength : chunk.length ≤ t.targetLen.toNat - 1 := by
          unfold copyFrom at hchunk
          split_ifs at hchunk
          rw [← Option.some.inj hchunk]
          exact List.length_take_le _ _
        refine .append (.terminated (.buffer htarget) (Nat.le_refl _) ?_ (Nat.le_add_right _ _) ?_)
          (size_confined _)
        · exact Nat.add_le_add_left (by omega) t.target
        · exact Nat.add_lt_add_left (by omega) t.target
    · exact size_confined _

theorem binary_confined (h0 : 0 ≤ t.targetLen) (hlt : t.targetLen < 2 ^ 31) :
    Confined (t.Lends type) (translateBinary data t).writes := by
  have hsize : toSize t.targetLen = t.targetLen.toNat := toSize_of_lt h0 (by omega)
  have hchunk : ∀ {offset : Nat} {chunk : Str},
      (if t.target ≠ 0 then copyFrom data t.targetLen.toNat offset else some []) = some chunk →
      Confined (t.Lends type) (if t.target ≠ 0 then [⟨t.target, .chars chunk⟩] else []) := by
    intro offset chunk h
    split_ifs at h ⊢ with htarget
    · refine .text (.buffer htarget) ?_
      unfold copyFrom at h
      split_ifs at h
      rw [← Option.some.inj h]
      exact List.length_take_le _ _
    · exact .nil
  unfold translateBinary
  by_cases hempty : data.isEmpty = true
  · rw [if_pos hempty]
    exact null_confined
  rw [if_neg hempty]
  dsimp only
  rw [hsize]
  split
  · exact .nil
  · rename_i chunk hcopied
    rcases t.streamInfo with _ | info
    · exact .append (hchunk hcopied) (size_confined _)
    · exact .append (hchunk hcopied) (size_confined _)

/-- A value, or a member of it. -/
theorem value_confined {o : CType} (ho : type = some o) {v : CValue} {ws : List Write}
    (hv : v.fits o = true) (hws : Confined (t.Lends type) ws) :
    Confined (t.Lends type) (⟨t.target, v⟩ :: ws) := .cons o (.value ho) hv hws

theorem cast_confined {o : CType} (ho : type = some o) {α : Type} {value : Option α}
    {toValue : α → CValue} {size : Int} (hv : ∀ a, (toValue a).fits o = true) :
    Confined (t.Lends type) (t.storeCast value toValue size).writes := by
  rcases value with _ | v
  · exact .nil
  · exact value_confined ho (hv v) (size_confined size)

theorem copiedBytes_fits (intvalue : Nat) :
    (CValue.numericVal 0 (copiedBytes .little intvalue)).fits .numeric = true := by
  have hlength : (copiedBytes .little intvalue).length ≤ 7 := List.length_take_le _ _
  have hroom : 3 + 0 + (copiedBytes .little intvalue).length ≤ 19 := by omega
  exact decide_eq_true hroom

theorem numeric_confined (ho : type = some .numeric) :
    Confined (t.Lends type) (translateNumeric data t).writes := by
  have hsign : ∀ {n : Nat} {ws : List Write}, Confined (t.Lends type) ws →
      Confined (t.Lends type) (⟨t.target, .numericSign n⟩ :: ws) := value_confined ho rfl
  have hscale : ∀ {scale : Nat} {ws : List Write}, Confined (t.Lends type) ws →
      Confined (t.Lends type) (⟨t.target, .numericScale scale⟩ ::
        ⟨t.target, .numericPrecision scale⟩ :: ⟨t.target, .numericVal 0 (.replicate 16 0)⟩ :: ws) :=
    fun h => value_confined ho rfl (value_confined ho rfl (value_confined ho rfl h))
  unfold translateNumeric translateNumericOn
  dsimp only
  by_cases hempty : (trim data).isEmpty = true
  · rw [if_pos hempty]
    exact null_confined
  · rw [if_neg hempty]
    -- the sign and the scale are known before the last test
    generalize (if (trim data).head? = some '-' then (trim data).drop 1 else trim data) = trimd
    generalize (if (trim data).head? = some '-' then 0 else 1) = sign
    generalize (if trimd.findIdx (fun x => decide (x = '.')) = trimd.length then 0
      else trimd.length - trimd.findIdx (fun x => decide (x = '.')) - 1) = scale
    split_ifs
    · exact hsign .nil
    · split
      · exact hsign (hscale .nil)
      · exact hsign (hscale (value_confined ho (copiedBytes_fits _) (size_confined 19)))

/-- **A worker stores where its target lends memory.** -/
theorem translate_confined (worker : TranslationWorker)
    (ho : ∀ o, worker.objectType = some o → type = some o) (h0 : 0 ≤ t.targetLen)
    (hlt : t.targetLen < 2 ^ 31) : Confined (t.Lends type) (worker.translate data t).writes := by
  cases worker with
  | character => exact character_confined h0 hlt
  | binary => exact binary_confined h0 hlt
  | bit =>
    refine blank_confined (value_confined (ho _ rfl) ?_ (size_confined 1))
    rfl
  | date =>
    have ho := ho _ rfl
    refine blank_confined ?_
    split
    · exact size_confined _
    · dsimp only
      split_ifs <;> exact value_confined ho rfl (value_confined ho rfl
        (value_confined ho rfl (size_confined _)))
  | timestamp =>
    have ho := ho _ rfl
    refine blank_confined ?_
    split
    · exact size_confined _
    · exact value_confined ho rfl (value_confined ho rfl (value_confined ho rfl
        (value_confined ho rfl (value_confined ho rfl (value_confined ho rfl
          (value_confined ho rfl (size_confined _)))))))
  | time =>
    have ho := ho _ rfl
    refine blank_confined ?_
    split
    · exact size_confined _
    · exact value_confined ho rfl (value_confined ho rfl (value_confined ho rfl
        (size_confined _)))
  | tiny =>
    refine blank_confined ?_
    split
    · exact .nil
    · split_ifs
      · exact value_confined (ho _ rfl) rfl (size_confined 1)
      · exact .nil
  | smallInt => exact blank_confined (cast_confined (ho _ rfl) fun _ => rfl)
  | int => exact blank_confined (cast_confined (ho _ rfl) fun _ => rfl)
  | bigInt => exact blank_confined (cast_confined (ho _ rfl) fun _ => rfl)
  | decimal => exact blank_confined (cast_confined (ho _ rfl) fun _ => rfl)
  | double => exact blank_confined (cast_confined (ho _ rfl) fun _ => rfl)
  | numeric => exact numeric_confined (ho _ rfl)
  | uLong => exact blank_confined (cast_confined (ho _ rfl) fun _ => rfl)
  | uShort => exact blank_confined (cast_confined (ho _ rfl) fun _ => rfl)

end TranslationWorker

/-! ## Bound columns -/

/-- The object behind the code of a C type; a text has none. -/
def cTypeOf (type : Int) : Option CType :=
  (DataTranslator.odbc2Trans false type).bind TranslationWorker.objectType

/-- What an application lends with the arguments of `SQLBindCol` or `SQLGetData` that come to the C
type `type`. -/
inductive Binding.Lends (b : Binding) (type : Int) : Place → Prop
  | buffer (h : b.targetValue ≠ 0) : Lends b type (.buffer b.targetValue b.bufferLength.toNat)
  | value {o : CType} (h : b.targetValue ≠ 0) (ho : cTypeOf type = some o) :
      Lends b type (.object b.targetValue o)
  | indicator (h : b.strLenOrInd ≠ 0) : Lends b type (.object b.strLenOrInd (.scalar 8))

/-- The pointers can be moved by `n` bytes and stored through: an object has an address, and a null
pointer is not moved. -/
structure Binding.Usable (b : Binding) (type : Int) (n : Nat) : Prop where
  target : (cTypeOf type).isSome → b.targetValue ≠ 0
  moved : n ≠ 0 → b.targetValue ≠ 0 ∧ b.strLenOrInd ≠ 0

/-- Only the worker of a C type with an object fills one. -/
theorem DataTranslator.cTypeOf_eq_some {dt : DataTranslator} {type : Int}
    {worker : TranslationWorker} (hworker : dt.worker type = some worker) {o : CType}
    (ho : worker.objectType = some o) : cTypeOf type = some o := by
  unfold cTypeOf
  rcases dt with decimalAsString | _
  · have hnative : odbc2Trans decimalAsString type = some worker := hworker
    have hsame : odbc2Trans false type = some worker := by
      cases decimalAsString with
      | false => exact hnative
      | true =>
        rw [← hnative]
        unfold odbc2Trans
        by_cases hdecimal : type = sqlDecimal
        · -- the quirk leaves the type without a worker
          subst hdecimal
          cases hnative
        · simp only [hdecimal, false_and]
    rw [hsame]
    exact ho
  · have hexception : exceptionWorker type = worker := Option.some.inj hworker
    unfold exceptionWorker at hexception
    split_ifs at hexception
    · rw [← hexception] at ho
      cases ho
    · rw [← hexception] at ho
      cases ho

/-- The length is a number of bytes that an `SQLINTEGER` holds. -/
def HonestLength (n : Int) : Prop := 0 ≤ n ∧ n < 2 ^ 31

theorem HonestLength.toSize {n : Int} (h : HonestLength n) : toSize n = n.toNat := by
  obtain ⟨h0, hlt⟩ := h
  exact toSize_of_lt h0 (by omega)

/-- A value goes where the binding lends memory, as far away as both pointers are moved. -/
theorem Column.setData_confined {deref : Deref} {ard : AppRowDesc} {dt : DataTranslator}
    {col : Column} {colNo : Nat} {data : Str} {b : Binding} {info : Option DataStreamInfo} {n : Nat}
    (hb : HonestLength b.bufferLength) (hu : b.Usable (col.getBestSqlType dt b.targetType) n)
    (htarget : (adjustTarget deref ard colNo b info).target = b.targetValue + n)
    (hsize : (adjustTarget deref ard colNo b info).resultSize = b.strLenOrInd + n) :
    Confined (fun place => ∃ lent, b.Lends (col.getBestSqlType dt b.targetType) lent ∧
      place = lent.move n) (col.setData deref ard dt colNo data b info).writes := by
  set t := adjustTarget deref ard colNo b info
  set type := col.getBestSqlType dt b.targetType with htype
  have hlength : t.targetLen = b.bufferLength := toSqlInteger_of_lt hb.1 hb.2
  have hplaces : ∀ place, t.Lends (cTypeOf type) place →
      ∃ lent, b.Lends type lent ∧ place = lent.move n := by
    rintro place (h | h | h)
    · have hne : b.targetValue ≠ 0 := by
        intro hzero
        refine (hu.moved fun hn => h ?_).1 hzero
        rw [htarget, hzero, hn]
      exact ⟨_, .buffer hne, by rw [htarget, hlength]; rfl⟩
    · exact ⟨_, .value (hu.target (by rw [h]; rfl)) h, by rw [htarget]; rfl⟩
    · have hne : b.strLenOrInd ≠ 0 := by
        intro hzero
        refine (hu.moved fun hn => h ?_).2 hzero
        rw [hsize, hzero, hn]
      exact ⟨_, .indicator hne, by rw [hsize]; rfl⟩
  refine Confined.mono ?_ hplaces
  unfold setData
  rcases hworker : dt.worker type with _ | worker
  · rcases dt with decimalAsString | _
    · have hnone : DataTranslator.odbc2Trans decimalAsString type = none := hworker
      unfold DataTranslator.translate
      dsimp only
      rw [← htype, hnone]
      exact .setResultSize .size
    · cases hworker
  · rw [(DataTranslator.serves_translate hworker (col.modifyData data) t).writes]
    exact TranslationWorker.translate_confined worker
      (fun o ho => DataTranslator.cTypeOf_eq_some hworker ho) (hlength ▸ hb.1) (hlength ▸ hb.2)

/-! ## Calls -/

namespace StmtCall

/-- The diagnostic fields that are texts. -/
def textFields : List Int := [4, 6, 7, 8, 9, 10, 11]

/-- The memory behind the output pointers of a call; the SQLSTATE of a record takes six bytes. -/
def outputs : StmtCall → List Place
  | .describeCol _ a => [.buffer a.columnName a.bufferLength.toNat, .object a.nameLength (.scalar 2),
      .object a.dataType (.scalar 2), .object a.columnSize (.scalar 8),
      .object a.decimalDigits (.scalar 2), .object a.nullable (.scalar 2)]
  | .numResultCols p | .numParams p => [.object p (.scalar 2)]
  | .rowCount p => [.object p (.scalar 8)]
  | .extendedFetch pcrow rgfRowStatus =>
    [.object pcrow (.scalar 8), .object rgfRowStatus (.scalar 2)]
  | .colAttribute _ _ a => [.buffer a.characterAttribute a.bufferLength.toNat,
      .object a.stringLength (.scalar 2), .object a.numericAttribute (.scalar 8)]
  | .getDiagField _ diagIdentifier a =>
    [if diagIdentifier ∈ textFields then .buffer a.diagInfoPtr a.bufferLength.toNat
      else .object a.diagInfoPtr (.scalar 4), .object a.stringLengthPtr (.scalar 2)]
  | .getDiagRec _ a | .error a => [.buffer a.sqlstate 6, .object a.nativeError (.scalar 4),
      .buffer a.messageText a.bufferLength.toNat, .object a.textLength (.scalar 2)]
  | .getStmtAttr attr value stringLength =>
    [.object value (.scalar (if attr ∈ [10010, 10011, 10012, 10013] then 8 else 4)),
      .object stringLength (.scalar 4)]
  | _ => []

/-- The memory that a call lends for itself. -/
def Outputs (c : StmtCall) (place : Place) : Prop := place ∈ c.outputs ∧ place.start ≠ 0

/-- The length of the buffer that the call passes. -/
def bufferLength : StmtCall → Option Int
  | .bindCol _ b | .getData _ b => some b.bufferLength
  | .describeCol _ a => some a.bufferLength
  | .colAttribute _ _ a => some a.bufferLength
  | .getDiagField _ _ a => some a.bufferLength
  | .getDiagRec _ a | .error a => some a.bufferLength
  | _ => none

/-- The length is that of the buffer; a SQLSTATE needs five bytes whatever it says. -/
def Honest (c : StmtCall) : Prop :=
  (∀ n, c.bufferLength = some n → HonestLength n) ∧
    ∀ r a, c = .getDiagField r 4 a → 5 ≤ a.bufferLength

end StmtCall

namespace RetsSTMT

open AbstractHandle

variable {ctx : CallContext} {stmt : RetsSTMT} {c : StmtCall}

/-- The C type to which a binding comes for a column. -/
def targetType (stmt : RetsSTMT) (n : Nat) (b : Binding) : Int :=
  match stmt.mQuery.mResultSet with
  | none => b.targetType
  | some rs =>
    match rs.getColumn n with
    | none => b.targetType
    | some column => column.getBestSqlType rs.mTranslator b.targetType

/-- How far the row descriptor moves the pointers of a read of column `n`. -/
def readShift (ctx : CallContext) (stmt : RetsSTMT) (n : Nat) : Nat :=
  descShift ctx.deref (stmt.ard.getDataPtr (n - 1 : Nat))

/-- The same for a fetch. -/
def fetchShift (ctx : CallContext) (stmt : RetsSTMT) (n : Nat) : Nat :=
  descShift ctx.deref stmt.ard.mBindOffsetPtr + stmt.readShift ctx n

/-- The call moves no null pointer, and stores no object through one. -/
structure PointersUsable (ctx : CallContext) (stmt : RetsSTMT) (c : StmtCall) : Prop where
  read : ∀ n b, c = .getData n b → b.Usable (stmt.targetType n b) (stmt.readShift ctx n)
  columns : c.fetches = true → ∀ n b, stmt.BoundTo n b →
    b.Usable (stmt.targetType n b) (stmt.fetchShift ctx n)

/-- What a call may store into: the memory of its own arguments, and for a fetch that of the bound
columns and the row pointers. -/
inductive Lends (ctx : CallContext) (stmt : RetsSTMT) (c : StmtCall) : Place → Prop
  | argument {place : Place} (h : c.Outputs place) : Lends ctx stmt c place
  | read {n : Nat} {b : Binding} {place : Place} (hc : c = .getData n b)
      (h : b.Lends (stmt.targetType n b) place) :
      Lends ctx stmt c (place.move (stmt.readShift ctx n))
  | column {n : Nat} {b : Binding} {place : Place} (hc : c.fetches = true)
      (hb : stmt.BoundTo n b) (h : b.Lends (stmt.targetType n b) place) :
      Lends ctx stmt c (place.move (stmt.fetchShift ctx n))
  | rows (hc : c.fetches = true) (h : stmt.ird.mRowsProcessedPtr ≠ 0) :
      Lends ctx stmt c (.object stmt.ird.mRowsProcessedPtr (.scalar 4))
  | status (hc : c.fetches = true) (h : stmt.ird.mArrayStatusPtr ≠ 0) :
      Lends ctx stmt c (.object stmt.ird.mArrayStatusPtr (.scalar 2))

/-- Clearing the records keeps what is lent. -/
theorem Lends.of_clearErrors {place : Place} (h : stmt.clearErrors.Lends ctx c place) :
    stmt.Lends ctx c place := by
  cases h with
  | argument h => exact .argument h
  | read hc h => exact .read hc h
  | column hc hb h => exact .column hc hb h
  | rows hc h => exact .rows hc h
  | status hc h => exact .status hc h

/-- A call that returns has stored into `places` only. -/
def Confines (places : Place → Prop) (x : Except Fault StmtOut) : Prop :=
  ∀ out, x = .ok out → Confined places out.writes

namespace Confines

variable {α : Type} {x : Except Fault α} {places : Place → Prop}

theorem ok {out : StmtOut} (h : Confined places out.writes) : Confines places (.ok out) := by
  intro out' hout
  rw [← Except.ok.inj hout]
  exact h

theorem error (f : Fault) : Confines places (.error f) := by
  intro out hout
  cases hout

theorem bind {g : α → Except Fault StmtOut} (h : ∀ a, x = .ok a → Confines places (g a)) :
    Confines places (x >>= g) := by
  intro out hout
  obtain ⟨a, ha, hg⟩ := bind_eq_ok.mp hout
  exact h a ha out hg

theorem mono {places' : Place → Prop} {x : Except Fault StmtOut} (h : Confines places x)
    (hle : ∀ place, places place → places' place) : Confines places' x :=
  fun out hout => (h out hout).mono hle

theorem map {g : α → StmtOut} (h : ∀ a, x = .ok a → Confined places (g a).writes) :
    Confines places (x.map g) := by
  intro out hout
  obtain ⟨a, ha, rfl⟩ := map_eq_ok.mp hout
  exact h a ha

end Confines

variable {places : Place → Prop}

/-- The bound columns of a statement have honest lengths. -/
def BindsHonestly (stmt : RetsSTMT) : Prop :=
  ∀ n b, stmt.BoundTo n b → HonestLength b.bufferLength

theorem fetchRow_confined {rs : ResultSet} {rows : RowSource}
    (hrs : stmt.mQuery.mResultSet = some rs) (hb : stmt.BindsHonestly) (hc : c.fetches = true)
    (hu : stmt.PointersUsable ctx c) :
    Confines (stmt.Lends ctx c) (stmt.fetchRow ctx { rs with rows := rows }) := by
  refine .bind fun processed hprocessed => ?_
  have hcells : Confined (stmt.Lends ctx c) processed.writes := by
    obtain ⟨⟨row, rows'⟩, -, rfl⟩ := map_eq_ok.mp hprocessed
    intro w hw
    obtain ⟨j, cell, hcell, hw⟩ := mem_setCells hw
    rw [Nat.zero_add] at hw
    obtain ⟨hcolumn, -⟩ := RowData.cells_getElem hcell
    unfold cellData at hw
    rcases hbinding : cell.1.binding with _ | b
    · rw [hbinding] at hw
      cases hw
    · rw [hbinding] at hw
      have hget : rs.getColumn (j + 1) = some cell.1 := (if_neg (Nat.succ_ne_zero j)).trans hcolumn
      have hbound : stmt.BoundTo (j + 1) b := ⟨rs, cell.1, hrs, hget, hbinding⟩
      have htype : stmt.targetType (j + 1) b =
          cell.1.getBestSqlType rs.mTranslator b.targetType := by
        unfold targetType
        simp only [hrs, hget]
      have hshift := Column.adjustTarget_resultSize ctx.deref stmt.ard j b
      have htarget : (Column.adjustTarget ctx.deref stmt.ard j b none).target = b.targetValue +
          stmt.fetchShift ctx (j + 1) := by
        unfold Column.adjustTarget
        dsimp only
        rw [Option.isNone_none, if_pos rfl, adjustDescPointer_eq, adjustDescPointer_eq,
          Nat.add_assoc]
        rfl
      rw [Nat.add_assoc] at hshift
      have husable := hu.columns hc (j + 1) b hbound
      rw [htype] at husable
      obtain ⟨place, ⟨lent, hlent, rfl⟩, hlies⟩ :=
        Column.setData_confined (hb _ _ hbound) husable htarget hshift w hw
      exact ⟨_, .column hc hbound (htype ▸ hlent), hlies⟩
  have hrows : Confined (stmt.Lends ctx c) (storeIf stmt.ird.mRowsProcessedPtr (.uinteger 1)) :=
    .storeIf (.scalar 4) (.rows hc) rfl
  have hstatus : ∀ n, Confined (stmt.Lends ctx c)
      (storeIf stmt.ird.mArrayStatusPtr (.smallint n)) := fun _ => .storeIf (.scalar 2) (.status hc) rfl
  dsimp only
  split
  · exact .ok ((hcells.append hrows).append (hstatus _))
  · split
    · exact .ok (hcells.append (hstatus _))
    · exact .ok hcells

theorem PointersUsable.clearErrors (h : stmt.PointersUsable ctx c) :
    stmt.clearErrors.PointersUsable ctx c := ⟨h.read, h.columns⟩

theorem sqlFetch_confined (hb : stmt.BindsHonestly) (hc : c.fetches = true)
    (hu : stmt.PointersUsable ctx c) : Confines (stmt.Lends ctx c) (stmt.sqlFetch ctx) := by
  refine .bind fun rs hrs => ?_
  have hrs' : stmt.clearErrors.mQuery.mResultSet = some rs := (resultSet_eq_ok _).mp hrs
  dsimp only
  split
  · exact .ok .nil
  · split
    · exact .ok .nil
    · exact .ok .nil
    · exact (@fetchRow_confined ctx stmt.clearErrors c rs _ hrs' hb hc hu.clearErrors).mono
        fun _ => Lends.of_clearErrors

theorem sqlGetData_confined {n : Nat} {b : Binding} (hb : HonestLength b.bufferLength)
    (hu : b.Usable (stmt.targetType n b) (stmt.readShift ctx n)) :
    Confines (stmt.Lends ctx (.getData n b)) (stmt.sqlGetData ctx n b) := by
  refine .bind fun bad _ => ?_
  split
  · exact .ok .nil
  · dsimp only
    split
    · exact .ok .nil
    · refine .bind fun rs hrs => .bind fun translated htranslated => ?_
      have hrs' : stmt.mQuery.mResultSet = some rs := (resultSet_eq_ok _).mp hrs
      have hwrites : Confined (stmt.Lends ctx (.getData n b)) translated.writes := by
        unfold ResultSet.getData at htranslated
        split at htranslated
        · cases htranslated
          exact .nil
        · rename_i column hcolumn
          obtain ⟨row, hrow, rfl⟩ := map_eq_ok.mp htranslated
          split
          · exact .nil
          · rename_i data htext
            have htype : stmt.targetType n b =
                column.getBestSqlType rs.mTranslator b.targetType := by
              unfold targetType
              simp only [hrs', hcolumn]
            have hmoved : ∀ (p : Ptr) (dataPtr : Ptr),
                adjustDescPointer ctx.deref dataPtr (adjustDescPointer ctx.deref 0 p) =
                  p + descShift ctx.deref dataPtr := by
              intro p dataPtr
              rw [adjustDescPointer_zero, adjustDescPointer_eq]
            rw [htype] at hu
            refine Confined.mono (Column.setData_confined hb hu (hmoved _ _) (hmoved _ _)) ?_
            rintro place ⟨lent, hlent, rfl⟩
            exact .read rfl (htype ▸ hlent)
      split
      · split
        · exact .ok hwrites
        · exact .ok hwrites
      · split
        · exact .ok hwrites
        · exact .ok hwrites

theorem sqlExtendedFetch_confined {pcrow rgfRowStatus : Ptr} (hb : stmt.BindsHonestly)
    (hu : stmt.PointersUsable ctx (.extendedFetch pcrow rgfRowStatus)) :
    Confines (stmt.Lends ctx (.extendedFetch pcrow rgfRowStatus))
      (stmt.sqlExtendedFetch ctx pcrow rgfRowStatus) := by
  have hfetch : Confines (stmt.Lends ctx (.extendedFetch pcrow rgfRowStatus))
      (stmt.clearErrors.sqlFetch ctx) :=
    (@sqlFetch_confined ctx stmt.clearErrors _ hb rfl hu.clearErrors).mono
      fun _ => Lends.of_clearErrors
  refine .bind fun out hout => ?_
  split
  · exact .ok (hfetch out hout)
  · split
    · exact .error _
    · rename_i hnull
      obtain ⟨hpcrow, hstatus⟩ := not_or.mp hnull
      refine .ok (.append (hfetch out hout) (.cons (.scalar 8) ?_ rfl (.object (.scalar 2) ?_ rfl)))
      · exact .argument ⟨by simp [StmtCall.outputs], hpcrow⟩
      · exact .argument ⟨by simp [StmtCall.outputs], hstatus⟩

theorem sqlDescribeCol_confined {n : Nat} {a : DescribeColArgs} (ha : HonestLength a.bufferLength) :
    Confines (StmtCall.describeCol n a).Outputs (stmt.sqlDescribeCol n a) := by
  refine .bind fun bad _ => ?_
  split
  · exact .ok .nil
  · refine .bind fun rs _ => ?_
    split
    · exact .ok .nil
    · dsimp only
      split
      · exact .error _
      · rename_i hnullable
        rw [ha.toSize]
        refine .ok (.append (.append (.append (.append (.append (.copyString ?_) ?_) ?_) ?_) ?_) ?_)
        · exact fun h => ⟨by simp [StmtCall.outputs], h⟩
        · exact .storeIf (.scalar 2) (fun h => ⟨by simp [StmtCall.outputs], h⟩) rfl
        · exact .storeIf (.scalar 8) (fun h => ⟨by simp [StmtCall.outputs], h⟩) rfl
        · exact .storeIf (.scalar 2) (fun h => ⟨by simp [StmtCall.outputs], h⟩) rfl
        · exact .storeIf (.scalar 2) (fun h => ⟨by simp [StmtCall.outputs], h⟩) rfl
        · exact .object (.scalar 2) ⟨by simp [StmtCall.outputs], hnullable⟩ rfl

theorem sqlColAttribute_confined {n f : Nat} {a : ColAttributeArgs}
    (ha : HonestLength a.bufferLength) :
    Confines (StmtCall.colAttribute n f a).Outputs (stmt.sqlColAttribute ctx n f a) := by
  have hset : ∀ (s : RetsSTMT) (value : Str),
      Confined (StmtCall.colAttribute n f a).Outputs (s.setString a value).writes := by
    intro s value
    have hlength : ∀ v, Confined (StmtCall.colAttribute n f a).Outputs
        (storeIf a.stringLength (.smallint v)) :=
      fun v => .storeIf (.scalar 2) (fun h => ⟨by simp [StmtCall.outputs], h⟩) rfl
    unfold setString
    rw [ha.toSize]
    dsimp only
    split
    · exact .append (.copyString fun h => ⟨by simp [StmtCall.outputs], h⟩) (hlength _)
    · exact .append (.copyString fun h => ⟨by simp [StmtCall.outputs], h⟩) (hlength _)
  unfold sqlColAttribute
  dsimp only
  split
  · exact .ok .nil
  · split
    · exact .ok .nil
    · split
      · exact .ok .nil
      · split
        · exact .ok .nil
        · refine .ok ?_
          split <;> exact hset _ _
        · split
          · exact .error _
          · exact .ok (.object (.scalar 8) ⟨by simp [StmtCall.outputs], ‹_›⟩ rfl)

theorem diagWrites_confined {a : DiagArgs} {e : Error} (ha : HonestLength a.bufferLength)
    (hnull : ¬ (a.sqlstate = 0 ∨ a.textLength = 0)) :
    Confined (StmtCall.error a).Outputs (diagWrites a e) := by
  obtain ⟨hsqlstate, htextLength⟩ := not_or.mp hnull
  have hstate : Confined (StmtCall.error a).Outputs
      [⟨a.sqlstate, .chars (e.mSqlstate.take 5)⟩, ⟨a.sqlstate + 5, .chars ['\x00']⟩] := by
    have hplace : (StmtCall.error a).Outputs (.buffer a.sqlstate 6) :=
      ⟨by simp [StmtCall.outputs], hsqlstate⟩
    refine .terminated hplace (Nat.le_refl _) ?_ (Nat.le_add_right _ _) ?_
    · have hlength : (e.mSqlstate.take 5).length ≤ 5 := List.length_take_le _ _
      exact Nat.add_le_add_left (by omega) a.sqlstate
    · exact Nat.add_lt_add_left (by omega) a.sqlstate
  unfold diagWrites
  dsimp only
  rw [ha.toSize]
  refine .append (.append (.append hstate ?_)
    (.object (.scalar 2) ⟨by simp [StmtCall.outputs], htextLength⟩ rfl)) ?_
  · split_ifs
    · exact .copyString fun h => ⟨by simp [StmtCall.outputs], h⟩
    · exact .nil
  · split_ifs with hnative
    · exact .object (.scalar 4) ⟨by simp [StmtCall.outputs], hnative⟩ rfl
    · exact .nil

theorem sqlGetDiagRec_confined {mErrors : List Error} {recNumber : Int} {a : DiagArgs}
    {answer : SqlReturn × List Write} (ha : HonestLength a.bufferLength)
    (h : sqlGetDiagRec mErrors recNumber a = .ok answer) :
    Confined (StmtCall.error a).Outputs answer.2 := by
  unfold sqlGetDiagRec at h
  split at h
  · cases h
    exact .nil
  · split at h
    · cases h
      exact .nil
    · split at h
      · cases h
      · rw [← Except.ok.inj h]
        exact diagWrites_confined ha ‹_›

theorem sqlError_confined {mErrors : List Error} {a : DiagArgs}
    {answer : (SqlReturn × List Write) × List Error} (ha : HonestLength a.bufferLength)
    (h : sqlError mErrors a = .ok answer) :
    Confined (StmtCall.error a).Outputs answer.1.2 := by
  obtain ⟨out, hout, rfl⟩ := map_eq_ok.mp h
  exact sqlGetDiagRec_confined ha hout

section DiagField

variable {a : DiagFieldArgs} {answer : Answer}

theorem diagInteger_confined {n : Int} {result : SqlReturn}
    (hp : a.diagInfoPtr ≠ 0 → places (.object a.diagInfoPtr (.scalar 4)))
    (h : diagInteger a n result = .ok answer) : Confined places answer.writes := by
  unfold diagInteger at h
  split_ifs at h with hnull
  rw [← Except.ok.inj h]
  exact .object (.scalar 4) (hp hnull) rfl

theorem diagText_confined {text : Str} (ha : HonestLength a.bufferLength)
    (hp : a.diagInfoPtr ≠ 0 → places (.buffer a.diagInfoPtr a.bufferLength.toNat))
    (hlength : a.stringLengthPtr ≠ 0 → places (.object a.stringLengthPtr (.scalar 2)))
    (h : diagText a text = .ok answer) : Confined places answer.writes := by
  unfold diagText at h
  dsimp only at h
  rw [ha.toSize] at h
  split_ifs at h with hcopied hnull
  · rw [← Except.ok.inj h]
    exact .append (.copyString hp) (.object (.scalar 2) (hlength hnull) rfl)
  · rw [← Except.ok.inj h]
    exact .copyString hp

theorem diagTextOptional_confined {text : Str} (ha : HonestLength a.bufferLength)
    (hp : a.diagInfoPtr ≠ 0 → places (.buffer a.diagInfoPtr a.bufferLength.toNat))
    (hlength : a.stringLengthPtr ≠ 0 → places (.object a.stringLengthPtr (.scalar 2)))
    (h : diagTextOptional a text = .ok answer) : Confined places answer.writes := by
  unfold diagTextOptional at h
  split_ifs at h
  · rw [← Except.ok.inj h, ha.toSize]
    exact .copyString hp
  · exact diagText_confined ha hp hlength h

end DiagField

theorem sqlGetDiagField_confined {recNumber diagIdentifier : Int} {a : DiagFieldArgs}
    {answer : Answer} (hc : (StmtCall.getDiagField recNumber diagIdentifier a).Honest)
    (h : sqlGetDiagField (stmt.diagMethods ctx) stmt.mErrors recNumber
      diagIdentifier a = .ok answer) :
    Confined (StmtCall.getDiagField recNumber diagIdentifier a).Outputs answer.writes := by
  have ha : HonestLength a.bufferLength := hc.1 _ rfl
  have htext : diagIdentifier ∈ StmtCall.textFields → a.diagInfoPtr ≠ 0 →
      (StmtCall.getDiagField recNumber diagIdentifier a).Outputs
        (.buffer a.diagInfoPtr a.bufferLength.toNat) :=
    fun hfield hne => ⟨by simp [StmtCall.outputs, hfield], hne⟩
  have hinteger : diagIdentifier ∉ StmtCall.textFields → a.diagInfoPtr ≠ 0 →
      (StmtCall.getDiagField recNumber diagIdentifier a).Outputs
        (.object a.diagInfoPtr (.scalar 4)) :=
    fun hfield hne => ⟨by simp [StmtCall.outputs, hfield], hne⟩
  have hlength : a.stringLengthPtr ≠ 0 →
      (StmtCall.getDiagField recNumber diagIdentifier a).Outputs
        (.object a.stringLengthPtr (.scalar 2)) :=
    fun hne => ⟨by simp [StmtCall.outputs], hne⟩
  unfold sqlGetDiagField at h
  split at h
  · rw [← Except.ok.inj h]
    exact .nil
  split at h
  · rw [← Except.ok.inj h]
    exact .nil
  split at h
  · rw [← Except.ok.inj h]
    exact .nil
  split at h
  · obtain ⟨rs, -, h⟩ := bind_eq_ok.mp h
    exact diagInteger_confined (hinteger (by decide)) h
  · exact diagTextOptional_confined ha (htext (by decide)) hlength h
  · exact diagInteger_confined (hinteger (by decide)) h
  · exact diagInteger_confined (hinteger (by decide)) h
  · exact diagInteger_confined (hinteger (by decide)) h
  · exact diagText_confined ha (htext (by decide)) hlength h
  · exact diagText_confined ha (htext (by decide)) hlength h
  · exact diagInteger_confined (hinteger (by decide)) h
  · exact diagTextOptional_confined ha (htext (by decide)) hlength h
  · split at h
    · cases h
    · exact diagText_confined ha (htext (by decide)) hlength h
  · exact diagInteger_confined (hinteger (by decide)) h
  · exact diagInteger_confined (hinteger (by decide)) h
  · exact diagTextOptional_confined ha (htext (by decide)) hlength h
  · split at h
    · cases h
    · split_ifs at h with hnull
      rw [← Except.ok.inj h]
      have hfive := hc.2 recNumber a rfl
      have hstate : ∀ e : Error, (e.mSqlstate.take 5).length ≤ 5 :=
        fun e => List.length_take_le _ _
      exact .text (htext (by decide) hnull) ((hstate _).trans (by omega))
  · rw [← Except.ok.inj h]
    exact .nil

theorem sqlGetStmtAttr_confined {attr : Int} {value stringLength : Ptr} :
    Confines (StmtCall.getStmtAttr attr value stringLength).Outputs
      (stmt.sqlGetStmtAttr ctx attr value stringLength) := by
  have hstored : ∀ (v : CValue) (kind : Int),
      v.fits (.scalar (if attr ∈ [10010, 10011, 10012, 10013] then 8 else 4)) = true →
      Confines (StmtCall.getStmtAttr attr value stringLength).Outputs
        (if value = 0 then .error .nullOutput
        else .ok ⟨stmt.clearErrors, .ok .success,
          ⟨value, v⟩ :: storeIf stringLength (.integer kind)⟩) := by
    intro v kind hv
    split_ifs with hnull
    · exact .error _
    · exact .ok (.cons _ ⟨List.mem_cons_self, hnull⟩ hv
        (.storeIf (.scalar 4) (fun h => ⟨by simp [StmtCall.outputs], h⟩) rfl))
  unfold sqlGetStmtAttr
  dsimp only
  split
  all_goals first | exact hstored _ _ rfl | exact .ok .nil

/-- What setting an attribute does to the row pointers. -/
structure SetsRowPointers (stmt : RetsSTMT) (attr : Int) (value : Nat) (out : StmtOut) : Prop where
  writes : out.writes = []
  rows : out.stmt.ird.mRowsProcessedPtr = stmt.ird.mRowsProcessedPtr ∨
    attr = 26 ∧ out.stmt.ird.mRowsProcessedPtr = value
  status : out.stmt.ird.mArrayStatusPtr = stmt.ird.mArrayStatusPtr ∨
    attr = 25 ∧ out.stmt.ird.mArrayStatusPtr = value

theorem sqlSetStmtAttr_rowPointers (stmt : RetsSTMT) (attr : Int) (value : Nat) :
    SetsRowPointers stmt attr value (stmt.sqlSetStmtAttr attr value) := by
  have hoption : ∀ (unchanged : Bool),
      SetsRowPointers stmt attr value (stmt.clearErrors.keepsOption unchanged) := by
    intro unchanged
    cases unchanged <;> exact ⟨rfl, .inl rfl, .inl rfl⟩
  unfold sqlSetStmtAttr
  dsimp only
  split <;> first
    | exact hoption _
    | exact ⟨rfl, .inl rfl, .inl rfl⟩
    | exact ⟨rfl, .inr ⟨rfl, rfl⟩, .inl rfl⟩
    | exact ⟨rfl, .inl rfl, .inr ⟨rfl, rfl⟩⟩

theorem sqlParamOptions_rowPointers (stmt : RetsSTMT) (crow : Nat) (pirow : Ptr) :
    (stmt.sqlParamOptions crow pirow).writes = [] ∧
      (stmt.sqlParamOptions crow pirow).stmt.ird = stmt.ird := by
  have h22 : (stmt.sqlSetStmtAttr 22 crow).stmt.ird = stmt.ird := rfl
  have h21 : ((stmt.sqlSetStmtAttr 22 crow).stmt.sqlSetStmtAttr 21 pirow).stmt.ird =
      (stmt.sqlSetStmtAttr 22 crow).stmt.ird := rfl
  unfold sqlParamOptions
  dsimp only
  split
  · exact ⟨rfl, h22⟩
  · exact ⟨rfl, h21.trans h22⟩

theorem executed_writes (s : RetsSTMT) (done : Query.Executed) (caught : Exn → Option Error) :
    (s.executed done caught).writes = [] := by
  unfold executed
  dsimp only
  split
  · rfl
  · split <;> rfl

theorem fails_confined (s : RetsSTMT) (failure : ArgumentFailure) :
    Confines places (s.fails failure) := by
  cases failure with
  | nullText => exact .error _
  | thrown e => exact .ok .nil
  | refused e => exact .ok .nil

theorem sqlPrepare_confined (s : RetsSTMT) (text : SqlText) :
    Confines places (s.sqlPrepare ctx text) := by
  unfold sqlPrepare
  split
  · exact fails_confined _ _
  · refine .map fun q _ => ?_
    split <;> exact .nil

theorem sqlExecute_confined (s : RetsSTMT) : Confines places (s.sqlExecute ctx) :=
  .map fun out _ => by rw [executed_writes]; exact .nil

theorem catalog_confined {arguments : Except ArgumentFailure QueryKind}
    (hc : c.catalogArguments = some arguments) : Confines places (stmt.uncaught ctx c) := by
  obtain ⟨caught, hcall⟩ := uncaught_catalog hc
  rw [hcall]
  cases arguments with
  | error failure => exact fails_confined _ failure
  | ok kind =>
    refine .bind fun prepared _ => ?_
    split
    · exact .ok (by rw [executed_writes]; exact .nil)
    · exact .bind fun out _ => .ok (by rw [executed_writes]; exact .nil)

/-- **A call stores where it is lent memory.** -/
theorem uncaught_confined (hb : stmt.BindsHonestly) (hc : c.Honest)
    (hu : stmt.PointersUsable ctx c) : Confines (stmt.Lends ctx c) (stmt.uncaught ctx c) := by
  have hargument : ∀ {x : Except Fault StmtOut}, Confines c.Outputs x →
      Confines (stmt.Lends ctx c) x := fun h => h.mono fun _ => .argument
  cases c with
  | bindCol columnNumber b =>
    refine .bind fun bad _ => ?_
    split
    · exact .ok .nil
    · split
      · exact .ok .nil
      · refine .bind fun rs _ => ?_
        split <;> exact .ok .nil
  | describeCol n a => exact hargument (sqlDescribeCol_confined (hc.1 _ rfl))
  | numResultCols p =>
    refine hargument (.bind fun rs _ => ?_)
    split
    · split_ifs with hnull
      · exact .error _
      · exact .ok (.object (.scalar 2) ⟨by simp [StmtCall.outputs], hnull⟩ rfl)
    · exact .ok .nil
  | fetch => exact sqlFetch_confined hb rfl hu
  | fetchScroll fetchOrientation =>
    show Confines _ (stmt.sqlFetchScroll ctx fetchOrientation)
    unfold sqlFetchScroll
    dsimp only
    split
    · exact .ok .nil
    · rename_i hnext
      have hfetches : (StmtCall.fetchScroll fetchOrientation).fetches = true :=
        decide_eq_true (not_not.mp hnext)
      exact (@sqlFetch_confined ctx stmt.clearErrors _ hb hfetches hu.clearErrors).mono
        fun _ => Lends.of_clearErrors
  | extendedFetch p p' => exact sqlExtendedFetch_confined hb hu
  | getData n b => exact sqlGetData_confined (hc.1 _ rfl) (hu.read n b rfl)
  | rowCount p =>
    refine hargument (.bind fun rs _ => ?_)
    split_ifs with hnull
    · exact .error _
    · exact .ok (.object (.scalar 8) ⟨by simp [StmtCall.outputs], hnull⟩ rfl)
  | colAttribute n f a => exact hargument (sqlColAttribute_confined (hc.1 _ rfl))
  | freeStmt option =>
    show Confines _ (stmt.sqlFreeStmt option)
    unfold sqlFreeStmt
    split
    · exact .map fun _ _ => .nil
    · exact .ok .nil
  | getDiagField recNumber diagIdentifier a =>
    exact hargument (.map fun answer h => sqlGetDiagField_confined hc h)
  | getDiagRec recNumber a =>
    exact hargument (.map fun answer h => sqlGetDiagRec_confined (hc.1 _ rfl) h)
  | error a => exact hargument (.map fun answer h => sqlError_confined (hc.1 _ rfl) h)
  | prepare text => exact sqlPrepare_confined stmt text
  | execDirect text =>
    show Confines _ (stmt.sqlExecDirect ctx text)
    unfold sqlExecDirect
    refine .bind fun out hout => ?_
    split
    · exact sqlExecute_confined _
    · exact .ok (sqlPrepare_confined _ _ _ hout)
  | execute => exact sqlExecute_confined stmt
  | tables catalog schema table type => exact catalog_confined rfl
  | columns catalog table column => exact catalog_confined rfl
  | getTypeInfo dataType => exact catalog_confined rfl
  | specialColumns identifierType catalog table scope nullable => exact catalog_confined rfl
  | statistics catalog schema => exact catalog_confined rfl
  | primaryKeys catalog schema table => exact catalog_confined rfl
  | setStmtAttr attr value =>
    refine .ok ?_
    rw [(sqlSetStmtAttr_rowPointers stmt attr value).writes]
    exact .nil
  | getStmtAttr attr value stringLength => exact hargument sqlGetStmtAttr_confined
  | paramOptions crow pirow =>
    refine .ok ?_
    rw [(sqlParamOptions_rowPointers stmt crow pirow).1]
    exact .nil
  | setDescField desc recNumber fieldIdentifier value =>
    cases desc <;> exact .ok .nil
  | numParams pcpar =>
    refine hargument ?_
    show Confines _ (stmt.sqlNumParams pcpar)
    unfold sqlNumParams
    split_ifs with hnull
    · exact .error _
    · exact .ok (.object (.scalar 2) ⟨by simp [StmtCall.outputs], hnull⟩ rfl)
  | moreResults => exact .ok .nil
  | cancel => exact .ok .nil

theorem call_confined {r : Returned} (hb : stmt.BindsHonestly) (hc : c.Honest)
    (hu : stmt.PointersUsable ctx c) (h : stmt.call ctx c = .ok r) :
    Confined (stmt.Lends ctx c) r.writes := by
  obtain ⟨out, hout, rfl⟩ := map_eq_ok.mp h
  exact uncaught_confined hb hc hu out hout

/-! ## Runs -/

/-- A new result set has no bound column. -/
theorem prepareResultSet_unbound {conn : Connection} {kind : QueryKind} {rs : ResultSet}
    (h : Query.prepareResultSet conn kind = .ok (.ok rs)) :
    ∀ column ∈ rs.mColumns, column.binding = none := by
  have hchecked : ∀ {columns : List Column} {check : Except Fault (Option Exn)},
      check.map (Query.prepareChecked columns) = .ok (.ok rs) →
      (∀ column ∈ columns, column.binding = none) →
      ∀ column ∈ rs.mColumns, column.binding = none := by
    intro columns check h hcolumns
    obtain ⟨e, -, he⟩ := map_eq_ok.mp h
    rcases e with _ | e
    · rw [← Except.ok.inj he]
      exact hcolumns
    · cases he
  cases kind with
  | null =>
    cases h
    exact fun column hcolumn => nomatch hcolumn
  | dataCount q => exact hchecked h (by decide)
  | lookup q => exact hchecked h (by decide)
  | lookupColumns q => exact hchecked h (by decide)
  | onDemandData useCompactFormat q =>
    simp only [Query.prepareResultSet, OnDemandDataQuery.prepareResultSet, bind_eq_ok] at h
    obtain ⟨v, -, h⟩ := h
    split at h
    · cases h
    · split at h
      · cases h
      · obtain ⟨_, -, h⟩ := bind_eq_ok.mp h
        cases h
        intro column hcolumn
        obtain ⟨table, -, rfl⟩ := List.mem_map.mp hcolumn
        rfl
  | onDemandObject q =>
    cases h
    decide
  | tableMetadata _ _ _ _ =>
    cases h
    decide
  | columnMetadata _ _ =>
    cases h
    show ∀ column ∈ ColumnMetadataQuery.columns, column.binding = none
    decide
  | typeInfo _ =>
    cases h
    decide
  | specialColumns _ _ _ _ =>
    cases h
    decide
  | statistics =>
    cases h
    decide
  | primaryKeys _ =>
    cases h
    decide

/-- **A bound column was bound by the call, or before it.** -/
theorem StmtStep.boundTo_cases {stmt' : RetsSTMT} {n : Nat} {b : Binding}
    (hstep : StmtStep ctx c stmt stmt') (hb : stmt'.BoundTo n b) :
    c = .bindCol n b ∨ stmt.BoundTo n b := by
  obtain ⟨rs, column, hrs, hcolumn, hbinding⟩ := hb
  cases hstep with
  | keep hq _ => exact .inr ⟨rs, column, hq ▸ hrs, hcolumn, hbinding⟩
  | stream hq _ => exact .inr ⟨rs, column, hq ▸ hrs, hcolumn, hbinding⟩
  | rows hrs' _ hq =>
    obtain rfl := Option.some.inj ((congrArg Query.mResultSet hq).symm.trans hrs)
    exact .inr ⟨_, column, hrs', hcolumn, hbinding⟩
  | @bind m b' rs' _ hcall hrs' hbind hq =>
    obtain ⟨other, hother, rfl⟩ := Option.map_eq_some_iff.mp hbind
    obtain rfl := Option.some.inj ((congrArg Query.mResultSet hq).symm.trans hrs)
    obtain ⟨hn, hget⟩ := ResultSet.getColumn_eq_some hcolumn
    obtain ⟨hm, hgetother⟩ := ResultSet.getColumn_eq_some hother
    by_cases hne : m - 1 = n - 1
    · have hmn : m = n := by omega
      have hlt : n - 1 < rs'.mColumns.length := hne ▸ (List.getElem?_eq_some_iff.mp hgetother).1
      rw [hne, List.getElem?_set_self hlt] at hget
      rw [← Option.some.inj hget] at hbinding
      obtain rfl := Option.some.inj hbinding
      exact .inl (hmn ▸ hcall)
    · rw [List.getElem?_set_ne hne] at hget
      exact .inr ⟨rs', column, hrs', (if_neg hn).trans hget, hbinding⟩
  | unbind hcall hrs' hq =>
    obtain rfl := Option.some.inj ((congrArg Query.mResultSet hq).symm.trans hrs)
    obtain ⟨-, hget⟩ := ResultSet.getColumn_eq_some hcolumn
    obtain ⟨column', -, rfl⟩ := List.mem_map.mp (List.mem_of_getElem? hget)
    cases hbinding
  | install _ _ hprepared _ hq =>
    obtain rfl := Option.some.inj ((congrArg Query.mResultSet hq).symm.trans hrs)
    obtain ⟨-, hget⟩ := ResultSet.getColumn_eq_some hcolumn
    have hnone := prepareResultSet_unbound hprepared column (List.mem_of_getElem? hget)
    rw [hbinding] at hnone
    cases hnone

/-- Honest calls keep the lengths of the bound columns true. -/
theorem BindsHonestly.call {r : Returned} (hb : stmt.BindsHonestly) (hq : stmt.mQuery.WellFormed)
    (hc : c.Honest) (h : stmt.call ctx c = .ok r) : r.stmt.BindsHonestly := by
  intro n b hbound
  rcases (call_step hq h).boundTo_cases hbound with rfl | hbefore
  · exact hc.1 _ rfl
  · exact hb n b hbefore

/-- `SQLFreeStmt` binds nothing. -/
theorem BindsHonestly.sqlFreeStmt {option : Nat} {out : StmtOut} (hb : stmt.BindsHonestly)
    (hq : stmt.mQuery.WellFormed) (h : stmt.sqlFreeStmt option = .ok out) :
    out.stmt.BindsHonestly := by
  have hstep : StmtStep idleContext (.freeStmt option) stmt out.stmt := uncaught_step hq h
  exact fun n b hbound => hb n b ((hstep.boundTo_cases hbound).resolve_left nofun)

/-- What the statement keeps of the memory that was lent to it comes from these calls. -/
structure LentBy (history : List (CallContext × StmtCall)) (stmt : RetsSTMT) : Prop where
  columns : ∀ n b, stmt.BoundTo n b → .bindCol n b ∈ history.map Prod.snd
  rows : stmt.ird.mRowsProcessedPtr ≠ 0 →
    .setStmtAttr 26 stmt.ird.mRowsProcessedPtr ∈ history.map Prod.snd
  status : stmt.ird.mArrayStatusPtr ≠ 0 →
    .setStmtAttr 25 stmt.ird.mArrayStatusPtr ∈ history.map Prod.snd

/-- Only an attribute call changes the row pointers. -/
theorem call_rowPointers {r : Returned} (h : stmt.call ctx c = .ok r) :
    (r.stmt.ird.mRowsProcessedPtr = stmt.ird.mRowsProcessedPtr ∨
      c = .setStmtAttr 26 r.stmt.ird.mRowsProcessedPtr) ∧
    (r.stmt.ird.mArrayStatusPtr = stmt.ird.mArrayStatusPtr ∨
      c = .setStmtAttr 25 r.stmt.ird.mArrayStatusPtr) := by
  obtain ⟨out, hout, rfl⟩ := map_eq_ok.mp h
  dsimp only
  have hentered : (if entryRecords c = true then
      { out.stmt with mErrors := (odbcEntry out.stmt.mErrors out.result).2 }
      else out.stmt).ird = out.stmt.ird := by
    split_ifs <;> rfl
  rw [hentered]
  by_cases hattr : ∃ attr value, c = .setStmtAttr attr value
  · obtain ⟨attr, value, rfl⟩ := hattr
    obtain rfl := Except.ok.inj hout
    obtain ⟨-, hrows, hstatus⟩ := sqlSetStmtAttr_rowPointers stmt attr value
    constructor
    · rcases hrows with hrows | ⟨rfl, hrows⟩
      · exact .inl hrows
      · exact .inr (by rw [hrows])
    · rcases hstatus with hstatus | ⟨rfl, hstatus⟩
      · exact .inl hstatus
      · exact .inr (by rw [hstatus])
  · by_cases hparam : ∃ crow pirow, c = .paramOptions crow pirow
    · obtain ⟨crow, pirow, rfl⟩ := hparam
      obtain rfl := Except.ok.inj hout
      rw [(sqlParamOptions_rowPointers stmt crow pirow).2]
      exact ⟨.inl rfl, .inl rfl⟩
    · have hkeeps := keepsRow_uncaught (fun attr value h => hattr ⟨attr, value, h⟩)
        (fun crow pirow h => hparam ⟨crow, pirow, h⟩) out hout
      exact ⟨.inl (congrArg RowAttributes.rowsFetchedPtr hkeeps),
        .inl (congrArg RowAttributes.statusPtr hkeeps)⟩

theorem lentBy_step {history : List (CallContext × StmtCall)} {r : Returned}
    (hq : stmt.mQuery.WellFormed) (hlent : LentBy history stmt)
    (h : stmt.call ctx c = .ok r) : LentBy (history ++ [(ctx, c)]) r.stmt := by
  have hmem : ∀ {c' : StmtCall}, c = c' ∨ c' ∈ history.map Prod.snd →
      c' ∈ (history ++ [(ctx, c)]).map Prod.snd := by
    intro c' hc
    rw [List.map_append, List.mem_append]
    rcases hc with rfl | hc
    · exact .inr (List.mem_singleton_self _)
    · exact .inl hc
  obtain ⟨hrows, hstatus⟩ := call_rowPointers h
  constructor
  · intro n b hb
    exact hmem (((call_step hq h).boundTo_cases hb).imp_right (hlent.columns n b))
  · intro hne
    rcases hrows with hsame | hset
    · rw [hsame] at hne ⊢
      exact hmem (.inr (hlent.rows hne))
    · exact hmem (.inl hset)
  · intro hne
    rcases hstatus with hsame | hset
    · rw [hsame] at hne ⊢
      exact hmem (.inr (hlent.status hne))
    · exact hmem (.inl hset)

/-- What a statement keeps was lent by the calls of its history. -/
theorem lentBy_run {history calls : List (CallContext × StmtCall)} {stmt' : RetsSTMT}
    (hq : stmt.mQuery.WellFormed) (hlent : LentBy history stmt) (h : run calls stmt = .ok stmt') :
    LentBy (history ++ calls) stmt' := by
  induction calls generalizing history stmt with
  | nil =>
    obtain rfl := Except.ok.inj h
    rwa [List.append_nil]
  | cons p calls ih =>
    obtain ⟨next, hstep, hrest⟩ := bind_eq_ok.mp h
    obtain ⟨r, hr, rfl⟩ := map_eq_ok.mp hstep
    rw [List.append_cons]
    exact ih ((call_step hq hr).wellFormed hq) (lentBy_step hq hlent hr) hrest

theorem lentBy_new : LentBy [] new := by
  constructor
  · rintro n b ⟨rs, column, hrs, -⟩
    cases hrs
  · exact fun h => absurd rfl h
  · exact fun h => absurd rfl h

/-- The memory lent by a call or by the calls before it, as far away as the row descriptor moves it
when the call is made. -/
inductive Lent (history : List (CallContext × StmtCall)) (ctx : CallContext) (stmt : RetsSTMT)
    (c : StmtCall) : Place → Prop
  | argument {place : Place} (h : c.Outputs place) : Lent history ctx stmt c place
  | read {n : Nat} {b : Binding} {place : Place} (hc : c = .getData n b)
      (h : b.Lends (stmt.targetType n b) place) :
      Lent history ctx stmt c (place.move (stmt.readShift ctx n))
  | column {n : Nat} {b : Binding} {place : Place} (hc : c.fetches = true)
      (hb : .bindCol n b ∈ history.map Prod.snd) (h : b.Lends (stmt.targetType n b) place) :
      Lent history ctx stmt c (place.move (stmt.fetchShift ctx n))
  | rowsFetched {p : Nat} (hc : c.fetches = true) (hp : p ≠ 0)
      (h : .setStmtAttr 26 p ∈ history.map Prod.snd) :
      Lent history ctx stmt c (.object p (.scalar 4))
  | rowStatus {p : Nat} (hc : c.fetches = true) (hp : p ≠ 0)
      (h : .setStmtAttr 25 p ∈ history.map Prod.snd) :
      Lent history ctx stmt c (.object p (.scalar 2))

/-- **A statement stores into lent memory only.**  In every run whose calls tell the true lengths of
their buffers, each store of a call that moves no null pointer lies, with every byte, in memory that
the call or an earlier one has lent. -/
theorem storesInto_lent {history : List (CallContext × StmtCall)} {r : Returned}
    (hrun : run history new = .ok stmt) (hhonest : ∀ p ∈ history, p.2.Honest) (hc : c.Honest)
    (hu : stmt.PointersUsable ctx c) (hcall : stmt.call ctx c = .ok r) :
    Confined (Lent history ctx stmt c) r.writes := by
  have hq : stmt.mQuery.WellFormed := run_wellFormed Query.wellFormed_new hrun
  have hlent : LentBy history stmt := lentBy_run Query.wellFormed_new lentBy_new hrun
  have hb : stmt.BindsHonestly := by
    intro n b hbound
    obtain ⟨p, hp, hpc⟩ := List.mem_map.mp (hlent.columns n b hbound)
    exact (hhonest p hp).1 _ (by rw [hpc]; rfl)
  refine Confined.mono (call_confined hb hc hu hcall) ?_
  rintro place (h | ⟨hc, h⟩ | ⟨hc, hbound, h⟩ | ⟨hc, hne⟩ | ⟨hc, hne⟩)
  · exact .argument h
  · exact .read hc h
  · exact .column hc (hlent.columns _ _ hbound) h
  · exact .rowsFetched hc hne (hlent.rows hne)
  · exact .rowStatus hc hne (hlent.status hne)

/-- The types are listed, the name column is bound and the row counter is set. -/
def boundHistory : List (CallContext × StmtCall) :=
  [(idleContext, .getTypeInfo 0), (idleContext, .bindCol 1 nameBinding),
    (idleContext, .setStmtAttr 26 300)]

theorem storesInto_lent_typeInfo : ∃ stmt r, run boundHistory new = .ok stmt ∧
    stmt.call idleContext .fetch = .ok r ∧
    Confined (Lent boundHistory idleContext stmt .fetch) r.writes := by
  have hhonest : ∀ p ∈ boundHistory, p.2.Honest := by
    intro p hp
    simp only [boundHistory, List.mem_cons, List.not_mem_nil, or_false] at hp
    rcases hp with rfl | rfl | rfl
    · exact ⟨nofun, nofun⟩
    · refine ⟨fun n hn => ?_, nofun⟩
      obtain rfl := Option.some.inj hn
      exact ⟨by decide, by decide⟩
    · exact ⟨nofun, nofun⟩
  obtain ⟨stmt, r, hrun, hcall, hstill⟩ : ∃ stmt r, run boundHistory new = .ok stmt ∧
      stmt.call idleContext .fetch = .ok r ∧ ∀ n, stmt.fetchShift idleContext n = 0 :=
    ⟨_, _, rfl, rfl, fun _ => rfl⟩
  have husable : stmt.PointersUsable idleContext .fetch := by
    refine ⟨nofun, fun _ n b hb => ⟨fun _ => ?_, fun hmoved => absurd (hstill n) hmoved⟩⟩
    have hmem := (lentBy_run Query.wellFormed_new lentBy_new hrun).columns n b hb
    obtain ⟨-, rfl⟩ : n = 1 ∧ b = nameBinding := by simpa [boundHistory] using hmem
    decide
  exact ⟨stmt, r, hrun, hcall, storesInto_lent hrun hhonest ⟨nofun, nofun⟩ husable hcall⟩

end RetsSTMT

end EzRets
