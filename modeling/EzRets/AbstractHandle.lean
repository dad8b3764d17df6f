import EzRets.Lib.FaultRun
import EzRets.Memory

/-!
# EzRets.AbstractHandle — the diagnostic records of a handle

`AbstractHandle` is the base of the environment, connection, statement and descriptor handles.
It keeps the records that the last calls raised and the two ODBC functions that read them by
number, `SQLGetDiagRec` and the ODBC 2 function `SQLError`.  `OdbcEntry` wraps the calls and turns
the exceptions that leave them into records.
-/

namespace EzRets

/-- A diagnostic record (`Error`). -/
structure Error where
  mSqlstate : Str
  mMessage : Str
  deriving DecidableEq, Repr

/-- The record raised by `addError` with two literals. -/
def Error.of (sqlstate message : String) : Error := ⟨sqlstate.toList, message.toList⟩

/-- `OdbcEntry::operator()` around a call that ends with `result`: an exception is recorded on the
handle and becomes a return code. -/
def odbcEntry (mErrors : List Error) : Except Exn SqlReturn → SqlReturn × List Error
  | .ok result => (result, mErrors)
  | .error (.odbcSql returnCode what) => (returnCode, mErrors ++ [⟨"HY000".toList, what⟩])
  | .error .unknown => (.error, mErrors ++ [.of "HY000" "Unknown ezrets exception"])
  | .error e => (.error, mErrors ++ [⟨"HY000".toList, e.what⟩])

/-- The return code does not depend on the records. -/
theorem odbcEntry_fst (mErrors mErrors' : List Error) (result : Except Exn SqlReturn) :
    (odbcEntry mErrors result).1 = (odbcEntry mErrors' result).1 := by
  unfold odbcEntry
  split <;> rfl

/-- The output pointers of `SQLGetDiagRec` and `SQLError`. -/
structure DiagArgs where
  sqlstate : Ptr
  nativeError : Ptr
  messageText : Ptr
  bufferLength : Int
  textLength : Ptr
  deriving DecidableEq, Repr

namespace AbstractHandle

open FaultRun

/-- The stores of a call that reports record `e`: the SQLSTATE and its terminator, the message,
its length and, if asked for, the native error. -/
def diagWrites (a : DiagArgs) (e : Error) : List Write :=
  let message :=
    if a.messageText ≠ 0 ∧ 0 < a.bufferLength then
      copyString e.mMessage a.messageText (toSize a.bufferLength)
    else ([], e.mMessage.length)
  [⟨a.sqlstate, .chars (e.mSqlstate.take 5)⟩, ⟨a.sqlstate + 5, .chars ['\x00']⟩] ++ message.1 ++
    [⟨a.textLength, .smallint (toSqlSmallint message.2)⟩] ++
    (if a.nativeError ≠ 0 then [⟨a.nativeError, .integer 42⟩] else [])

/-- `AbstractHandle::SQLGetDiagRec`. -/
def sqlGetDiagRec (mErrors : List Error) (recNumber : Int) (a : DiagArgs) :
    Except Fault (SqlReturn × List Write) :=
  if recNumber ≤ 0 ∨ a.bufferLength < 0 then .ok (.error, [])
  else
    match mErrors[(recNumber - 1).toNat]? with
    | none => .ok (.noData, [])
    | some e =>
      if a.sqlstate = 0 ∨ a.textLength = 0 then .error .nullOutput
      else
        .ok (if (e.mMessage.length : Int) > a.bufferLength then .successWithInfo else .success,
          diagWrites a e)

/-- `AbstractHandle::SQLError`: reads record 1, then clears the list. -/
def sqlError (mErrors : List Error) (a : DiagArgs) :
    Except Fault ((SqlReturn × List Write) × List Error) :=
  (sqlGetDiagRec mErrors 1 a).map fun out =>
    (out, if out.1 ≠ .error then [] else mErrors)

/-- The outputs of `k` successive `SQLError` calls. -/
def sqlErrorRun (a : DiagArgs) : Nat → List Error → Except Fault (List (SqlReturn × List Write))
  | 0, _ => .ok []
  | k + 1, mErrors => do
    let (out, mErrors') ← sqlError mErrors a
    let rest ← sqlErrorRun a k mErrors'
    return out :: rest

/-! ## `SQLGetDiagField` -/

/-- The output arguments of `SQLGetDiagField`. -/
structure DiagFieldArgs where
  diagInfoPtr : Ptr
  bufferLength : Int
  stringLengthPtr : Ptr
  deriving DecidableEq, Repr

/-- What a call on a handle leaves besides its state. -/
structure Answer where
  result : Except Exn SqlReturn
  writes : List Write

/-- The virtual `diag` methods that a class of handles overrides. -/
structure DiagMethods where
  cursorRowCount : DiagFieldArgs → Except Fault Answer
  dynamicFunction : DiagFieldArgs → Except Fault Answer
  dynamicFunctionCode : DiagFieldArgs → Except Fault Answer
  rowCount : DiagFieldArgs → Except Fault Answer
  connectionName : DiagFieldArgs → Except Fault Answer
  rowNumber : DiagFieldArgs → Except Fault Answer
  serverName : DiagFieldArgs → Except Fault Answer

/-- The methods of `AbstractHandle` itself, for the classes that override none. -/
def DiagMethods.base : DiagMethods :=
  let refused : DiagFieldArgs → Except Fault Answer := fun _ => .ok ⟨.ok .error, []⟩
  let emptyText : DiagFieldArgs → Except Fault Answer := fun a =>
    if a.diagInfoPtr = 0 ∨ a.stringLengthPtr = 0 then .error .nullOutput
    else .ok ⟨.ok .success, [⟨a.diagInfoPtr, .chars ['\x00']⟩, ⟨a.stringLengthPtr, .smallint 0⟩]⟩
  { cursorRowCount := refused
    dynamicFunction := refused
    dynamicFunctionCode := refused
    rowCount := refused
    connectionName := emptyText
    -- `SQL_NO_ROW_NUMBER`
    rowNumber := fun a =>
      if a.diagInfoPtr = 0 then .error .nullOutput
      else .ok ⟨.ok .success, [⟨a.diagInfoPtr, .integer (-1)⟩]⟩
    serverName := emptyText }

/-- Stores a number at `DiagInfoPtr`. -/
def diagInteger (a : DiagFieldArgs) (n : Int) (result : SqlReturn) : Except Fault Answer :=
  if a.diagInfoPtr = 0 then .error .nullOutput
  else .ok ⟨.ok result, [⟨a.diagInfoPtr, .integer n⟩]⟩

/-- Copies a text to `DiagInfoPtr` and stores the length; a copy longer than an `SQLSMALLINT`
throws. -/
def diagText (a : DiagFieldArgs) (text : Str) : Except Fault Answer :=
  let copied := copyString text a.diagInfoPtr (toSize a.bufferLength)
  if copied.2 < 2 ^ 15 then
    if a.stringLengthPtr = 0 then .error .nullOutput
    else .ok ⟨.ok .success, copied.1 ++ [⟨a.stringLengthPtr, .smallint copied.2⟩]⟩
  else .ok ⟨.error .badNumericCast, copied.1⟩

/-- `diagText` through `SetStringLength`, which accepts a null pointer. -/
def diagTextOptional (a : DiagFieldArgs) (text : Str) : Except Fault Answer :=
  if a.stringLengthPtr = 0 then
    let copied := copyString text a.diagInfoPtr (toSize a.bufferLength)
    .ok ⟨if copied.2 < 2 ^ 15 then .ok .success else .error .badNumericCast, copied.1⟩
  else diagText a text

/-- The local `error` of `SQLGetDiagField`: null for record number 0 and where `at` throws. -/
def errorAt (mErrors : List Error) (recNumber : Int) : Option Error :=
  if 0 < recNumber then mErrors[(recNumber - 1).toNat]? else none

/-- `SQLGetDiagField` of a handle with the methods `m`. -/
def sqlGetDiagField (m : DiagMethods) (mErrors : List Error) (recNumber diagIdentifier : Int)
    (a : DiagFieldArgs) : Except Fault Answer :=
  if recNumber < 0 then .ok ⟨.error .badNumericCast, []⟩
  else if recNumber > mErrors.length then .ok ⟨.ok .noData, []⟩
  else if recNumber = 0 ∧ diagIdentifier > 0 then .ok ⟨.ok .error, []⟩
  else
    match diagIdentifier with
    | -1249 => m.cursorRowCount a
    | 7 => m.dynamicFunction a
    | 12 => m.dynamicFunctionCode a
    | 2 => diagInteger a mErrors.length .success
    | 3 => m.rowCount a
    | 8 | 9 => diagText a "ISO 9075".toList
    | -1247 => diagInteger a (-2) .success
    | 10 => m.connectionName a
    | 6 =>
      match errorAt mErrors recNumber with
      | none => .error .nullRecord
      | some e => diagText a e.mMessage
    | 5 => diagInteger a 0 .success
    | -1248 => m.rowNumber a
    | 11 => m.serverName a
    | 4 =>
      match errorAt mErrors recNumber with
      | none => .error .nullRecord
      | some e =>
        if a.diagInfoPtr = 0 then .error .nullOutput
        else .ok ⟨.ok .success, [⟨a.diagInfoPtr, .chars (e.mSqlstate.take 5)⟩]⟩
    | _ => .ok ⟨.ok .success, []⟩

/-! Null output pointers are the only fault of a stored field. -/

section Avoids

variable {f : Fault} (hf : Fault.nullOutput ≠ f)

include hf

theorem avoids_stored {p : Prop} [Decidable p] (answer : Answer) :
    Avoids f (if p then .error .nullOutput else .ok answer : Except Fault Answer) := by
  split
  · exact avoids_error hf
  · exact avoids_ok _ _

theorem avoids_diagInteger (a : DiagFieldArgs) (n : Int) (result : SqlReturn) :
    Avoids f (diagInteger a n result) := avoids_stored hf _

theorem avoids_diagText (a : DiagFieldArgs) (text : Str) : Avoids f (diagText a text) := by
  unfold diagText
  dsimp only
  split
  · exact avoids_stored hf _
  · exact avoids_ok _ _

theorem avoids_diagTextOptional (a : DiagFieldArgs) (text : Str) :
    Avoids f (diagTextOptional a text) := by
  unfold diagTextOptional
  split
  · exact avoids_ok _ _
  · exact avoids_diagText hf a text

end Avoids

/-! ## Allocating handles -/

/-- What `SQLAllocConnect` and `SQLAllocStmt` leave: the records, the list of child handles, the
return code and the stores. -/
structure Allocated where
  mErrors : List Error
  children : List Ptr
  result : SqlReturn
  writes : List Write

/-- `SQLAllocConnect` and `SQLAllocStmt`, whose `new` gives an address or throws
`std::bad_alloc`. -/
def allocate (allocated : Except Str Ptr) (handle : Ptr) (children : List Ptr) : Allocated :=
  if handle = 0 then ⟨[.of "HY009" "Invalid use of null pointer"], children, .invalidHandle, []⟩
  else
    match allocated with
    | .ok child => ⟨[], children ++ [child], .success, [⟨handle, .pointer child⟩]⟩
    | .error what => ⟨[⟨"HY013".toList, what⟩], children, .error, [⟨handle, .pointer 0⟩]⟩

/-- The handle types that neither `SQLAllocHandle` nor `SQLFreeHandle` knows. -/
abbrev UnsupportedType := {handleType : Int // handleType ≠ 1 ∧ handleType ≠ 2 ∧ handleType ≠ 3}

/-! ## Reading the records back -/

theorem sqlError_nil {a : DiagArgs} (hb : 0 ≤ a.bufferLength) :
    sqlError [] a = .ok ((.noData, []), []) := by
  simp [sqlError, sqlGetDiagRec, Int.not_lt.mpr hb, Except.map]

/-- One call: the first record is reported and the whole list is cleared. -/
theorem sqlError_cons {a : DiagArgs} {e : Error} {es : List Error} (hs : a.sqlstate ≠ 0)
    (ht : a.textLength ≠ 0) (hfit : (e.mMessage.length : Int) < a.bufferLength) :
    sqlError (e :: es) a = .ok ((.success, diagWrites a e), []) := by
  have hb : ¬ a.bufferLength < 0 := by omega
  have hle : ¬ (e.mMessage.length : Int) > a.bufferLength := by omega
  simp [sqlError, sqlGetDiagRec, hb, hs, ht, hle, Except.map]

/-- Once the list is empty every further call reports `SQL_NO_DATA`. -/
theorem sqlErrorRun_nil {a : DiagArgs} (hb : 0 ≤ a.bufferLength) :
    ∀ k, sqlErrorRun a k [] = .ok (List.replicate k (.noData, []))
  | 0 => rfl
  | k + 1 => by
    rw [sqlErrorRun, sqlError_nil hb]
    simp only [bind, Except.bind, sqlErrorRun_nil hb k]
    rfl

/-- `n` successive calls return the `n` records in order, and the next one `SQL_NO_DATA`. -/
def ReturnsEachOnce (a : DiagArgs) (mErrors : List Error) : Prop :=
  sqlErrorRun a (mErrors.length + 1) mErrors =
    .ok (mErrors.map (fun e => (.success, diagWrites a e)) ++ [(.noData, [])])

/-- **`SQLError` returns every record exactly when there is at most one.** -/
theorem returnsEachOnce_iff {a : DiagArgs} {mErrors : List Error} (hs : a.sqlstate ≠ 0)
    (ht : a.textLength ≠ 0) (hb : 0 ≤ a.bufferLength)
    (hfit : ∀ e ∈ mErrors, (e.mMessage.length : Int) < a.bufferLength) :
    ReturnsEachOnce a mErrors ↔ mErrors.length ≤ 1 := by
  unfold ReturnsEachOnce
  cases mErrors with
  | nil => simp [sqlErrorRun_nil hb]
  | cons e es =>
    have hrun : sqlErrorRun a ((e :: es).length + 1) (e :: es) =
        .ok ((.success, diagWrites a e) :: List.replicate (es.length + 1) (.noData, [])) := by
      rw [sqlErrorRun, sqlError_cons hs ht (hfit e (by simp))]
      simp only [bind, Except.bind, List.length_cons, sqlErrorRun_nil hb]
      rfl
    rw [hrun]
    cases es with
    | nil => simp
    -- the second call already reports `SQL_NO_DATA`, not the second record
    | cons e' es => simp [List.replicate_succ]

/-- A single record is read back. -/
theorem returnsEachOnce_single :
    ReturnsEachOnce ⟨100, 0, 200, 512, 300⟩ [Error.of "HYC00" "Optional feature"] :=
  (returnsEachOnce_iff (by decide) (by decide) (by decide) (by decide)).mpr (by decide)

/-- The two records of a failed login: the second, which says that the connect call failed, is
never returned. -/
theorem not_returnsEachOnce_login :
    ¬ ReturnsEachOnce ⟨100, 0, 200, 512, 300⟩
      [Error.of "08001" "Unable to connect: timeout",
        Error.of "08001" "Could not log into server."] := by
  unfold ReturnsEachOnce
  rw [sqlErrorRun, sqlError_cons (by decide) (by decide) (by decide)]
  simp [bind, Except.bind, sqlErrorRun_nil, List.replicate_succ, pure, Except.pure]

end AbstractHandle

end EzRets
