import EzRets.HandleCalls
import EzRets.StatementSteps

/-!
# EzRets.DiagAgreement — the two ways of reading diagnostics

`SQLGetDiagRec` and `SQLGetDiagField` index the same list of records.  They deliver the same SQLSTATE
and the same message of a record and end at the same number.  The header and the native error each
function makes up by itself.
-/

namespace EzRets

open AbstractHandle FaultRun

namespace AbstractHandle

variable {mErrors : List Error} {r f : Int} {m : DiagMethods}

/-! ## No missing record -/

theorem errorAt_eq_some_iff {e : Error} :
    errorAt mErrors r = some e ↔ 1 ≤ r ∧ mErrors[(r - 1).toNat]? = some e := by
  unfold errorAt
  by_cases h : 0 < r
  · rw [if_pos h]
    exact ⟨fun he => ⟨by omega, he⟩, fun he => he.2⟩
  · rw [if_neg h]
    exact ⟨fun he => (by cases he), fun he => absurd he.1 (by omega)⟩

theorem exists_errorAt (h1 : 1 ≤ r) (hn : r ≤ mErrors.length) : ∃ e, errorAt mErrors r = some e := by
  have hlt : (r - 1).toNat < mErrors.length := by omega
  exact ⟨_, errorAt_eq_some_iff.mpr ⟨h1, List.getElem?_eq_getElem hlt⟩⟩

/-- The checks of `SQLGetDiagField` let a question about a record through. -/
theorem passes_of_errorAt {e : Error} (he : errorAt mErrors r = some e) (f : Int) :
    ¬ r < 0 ∧ ¬ r > mErrors.length ∧ ¬ (r = 0 ∧ f > 0) := by
  obtain ⟨h1, hget⟩ := errorAt_eq_some_iff.mp he
  have hlt : (r - 1).toNat < mErrors.length := (List.getElem?_eq_some_iff.mp hget).1
  exact ⟨by omega, by omega, by omega⟩

/-- The methods of a class dereference no record. -/
structure DiagMethods.SpareRecords (m : DiagMethods) : Prop where
  cursorRowCount : ∀ b, Avoids .nullRecord (m.cursorRowCount b)
  dynamicFunction : ∀ b, Avoids .nullRecord (m.dynamicFunction b)
  dynamicFunctionCode : ∀ b, Avoids .nullRecord (m.dynamicFunctionCode b)
  rowCount : ∀ b, Avoids .nullRecord (m.rowCount b)
  connectionName : ∀ b, Avoids .nullRecord (m.connectionName b)
  rowNumber : ∀ b, Avoids .nullRecord (m.rowNumber b)
  serverName : ∀ b, Avoids .nullRecord (m.serverName b)

/-- **The local `error` is never null where it is dereferenced**: the checks let a record field
through only for a record that is there. -/
theorem avoids_nullRecord (hm : m.SpareRecords) (b : DiagFieldArgs) :
    Avoids .nullRecord (sqlGetDiagField m mErrors r f b) := by
  have hnull : Fault.nullOutput ≠ .nullRecord := by decide
  unfold sqlGetDiagField
  by_cases h0 : r < 0
  · rw [if_pos h0]
    exact avoids_ok _ _
  rw [if_neg h0]
  by_cases hn : r > mErrors.length
  · rw [if_pos hn]
    exact avoids_ok _ _
  rw [if_neg hn]
  by_cases hheader : r = 0 ∧ f > 0
  · rw [if_pos hheader]
    exact avoids_ok _ _
  rw [if_neg hheader]
  have hrecord : f > 0 → ∃ e, errorAt mErrors r = some e := fun hf =>
    exists_errorAt (by omega) (by omega)
  split
  · exact hm.cursorRowCount b
  · exact hm.dynamicFunction b
  · exact hm.dynamicFunctionCode b
  · exact avoids_diagInteger hnull _ _ _
  · exact hm.rowCount b
  · exact avoids_diagText hnull _ _
  · exact avoids_diagText hnull _ _
  · exact avoids_diagInteger hnull _ _ _
  · exact hm.connectionName b
  · obtain ⟨e, he⟩ := hrecord (by decide)
    rw [he]
    exact avoids_diagText hnull _ _
  · exact avoids_diagInteger hnull _ _ _
  · exact hm.rowNumber b
  · exact hm.serverName b
  · obtain ⟨e, he⟩ := hrecord (by decide)
    rw [he]
    dsimp only
    split
    · exact avoids_error hnull
    · exact avoids_ok _ _
  · exact avoids_ok _ _

/-! ## What `SQLGetDiagRec` leaves in memory -/

section Writes

variable {a : DiagArgs} {e : Error}

theorem sqlGetDiagRec_of_errorAt (he : errorAt mErrors r = some e) (hb : 0 ≤ a.bufferLength)
    (hs : a.sqlstate ≠ 0) (ht : a.textLength ≠ 0) :
    sqlGetDiagRec mErrors r a =
      .ok (if (e.mMessage.length : Int) > a.bufferLength then .successWithInfo else .success,
        diagWrites a e) := by
  obtain ⟨h1, hget⟩ := errorAt_eq_some_iff.mp he
  have hrefused : ¬ (r ≤ 0 ∨ a.bufferLength < 0) := by omega
  have houtput : ¬ (a.sqlstate = 0 ∨ a.textLength = 0) := by
    rintro (h | h)
    · exact hs h
    · exact ht h
  unfold sqlGetDiagRec
  rw [if_neg hrefused, hget]
  dsimp only
  rw [if_neg houtput]

theorem diagWrites_eq (hm : a.messageText ≠ 0) (h0 : 0 < a.bufferLength) :
    diagWrites a e =
      [⟨a.sqlstate, .chars (e.mSqlstate.take 5)⟩, ⟨a.sqlstate + 5, .chars ['\x00']⟩] ++
        (copyString e.mMessage a.messageText (toSize a.bufferLength)).1 ++
        (⟨a.textLength, .smallint (toSqlSmallint
            (copyString e.mMessage a.messageText (toSize a.bufferLength)).2)⟩ ::
          if a.nativeError ≠ 0 then [⟨a.nativeError, .integer 42⟩] else []) := by
  unfold diagWrites
  rw [if_pos ⟨hm, h0⟩, List.append_assoc _ _ (ite _ _ _)]
  rfl

/-- The stores behind the message are no text. -/
theorem charAt_diagCells {p q : Ptr} {n n' : Int} :
    ∀ w ∈ (⟨p, .smallint n⟩ :: if q ≠ 0 then [⟨q, .integer n'⟩] else [] : List Write),
      ∀ q', w.charAt q' = none := by
  intro w hw q'
  rcases List.mem_cons.mp hw with rfl | hw
  · rfl
  · split at hw
    · rw [List.mem_singleton] at hw
      rw [hw]
      rfl
    · cases hw

theorem cellAfter_diagCells {p q : Ptr} {n n' : Int} (hpq : p ≠ q) :
    cellAfter (⟨p, .smallint n⟩ :: if q ≠ 0 then [⟨q, .integer n'⟩] else []) p =
      some (.smallint n) := by
  have hnative : cellAfter (if q ≠ 0 then [⟨q, .integer n'⟩] else []) p = none := by
    refine cellAfter_eq_none fun w hw => .inr ?_
    split at hw
    · rw [List.mem_singleton] at hw
      rw [hw]
      exact hpq.symm
    · cases hw
  rw [← List.singleton_append, cellAfter_append, hnative, cellAfter_singleton (by simp), if_pos rfl]
  rfl

section Message

variable (hm : a.messageText ≠ 0) (h0 : 0 < a.bufferLength)

include hm h0

theorem diagWrites_message (hb : a.bufferLength < 2 ^ 15) :
    HoldsPrefix (diagWrites a e) a.messageText a.bufferLength.toNat e.mMessage := by
  have hsize : toSize a.bufferLength = a.bufferLength.toNat := toSize_of_lt h0.le (by omega)
  rw [diagWrites_eq hm h0, hsize]
  exact ((copyString_holdsPrefix hm (by omega)).append_left _).append_right charAt_diagCells

theorem diagWrites_textLength (hcells : a.textLength ≠ a.nativeError) :
    cellAfter (diagWrites a e) a.textLength = some (.smallint (toSqlSmallint
      (copyString e.mMessage a.messageText (toSize a.bufferLength)).2)) := by
  rw [diagWrites_eq hm h0, cellAfter_append, cellAfter_diagCells hcells]
  rfl

theorem diagWrites_nativeError (hn : a.nativeError ≠ 0) :
    cellAfter (diagWrites a e) a.nativeError = some (.integer 42) := by
  rw [diagWrites_eq hm h0, if_pos hn, cellAfter_append, ← List.singleton_append, cellAfter_append,
    cellAfter_singleton (by simp), if_pos rfl]
  rfl

theorem diagWrites_sqlstate (hb : a.bufferLength < 2 ^ 15)
    (htexts : Apart a.sqlstate 6 a.messageText a.bufferLength.toNat) {i : Nat} (hi : i < 5) :
    charAfter (diagWrites a e) (a.sqlstate + i) = (e.mSqlstate.take 5)[i]? := by
  have hsize : toSize a.bufferLength = a.bufferLength.toNat := toSize_of_lt h0.le (by omega)
  have hmessage : charAfter (copyString e.mMessage a.messageText (toSize a.bufferLength)).1
      (a.sqlstate + i) = none := by
    refine charAfter_eq_none (copyString_within ?_)
    unfold Apart at htexts
    omega
  rw [diagWrites_eq hm h0, charAfter_append, charAfter_eq_none fun w hw => charAt_diagCells w hw _,
    charAfter_append, hmessage, charAfter_cons, charAfter_cons, charAt_chars_eq_none (.inl (by omega)),
    charAt_chars_add]
  rfl

end Message

end Writes

/-! ## One record read both ways -/

/-- Buffers for the question about record `r`: every output is there and apart from the others, and
the message of that record fits both buffers. -/
structure DiagBuffers (mErrors : List Error) (r : Int) (a : DiagArgs) (b : DiagFieldArgs) : Prop where
  sqlstate : a.sqlstate ≠ 0
  nativeError : a.nativeError ≠ 0
  messageText : a.messageText ≠ 0
  textLength : a.textLength ≠ 0
  bufferLength : 0 ≤ a.bufferLength ∧ a.bufferLength < 2 ^ 15
  texts : Apart a.sqlstate 6 a.messageText a.bufferLength.toNat
  cells : a.textLength ≠ a.nativeError
  diagInfoPtr : b.diagInfoPtr ≠ 0
  stringLengthPtr : b.stringLengthPtr ≠ 0
  fieldLength : b.bufferLength < 2 ^ 15
  message : ∀ e, errorAt mErrors r = some e →
    (e.mMessage.length : Int) < a.bufferLength ∧ (e.mMessage.length : Int) < b.bufferLength

/-- The stores of `SQLGetDiagRec` and those of `SQLGetDiagField` for one of `SQL_DIAG_SQLSTATE`,
`SQL_DIAG_NATIVE` and `SQL_DIAG_MESSAGE_TEXT` leave the same value.  For `SQL_DIAG_SQLSTATE` that is
the five characters: `SQLGetDiagField` stores neither a terminator behind them nor their length. -/
def SameField (a : DiagArgs) (b : DiagFieldArgs) (ws ws' : List Write) : Int → Prop
  | 4 => bufferAfter ws a.sqlstate 5 = bufferAfter ws' b.diagInfoPtr 5
  | 5 => cellAfter ws a.nativeError = cellAfter ws' b.diagInfoPtr
  | 6 => ∃ n : Nat, cellAfter ws a.textLength = some (.smallint n) ∧
      cellAfter ws' b.stringLengthPtr = some (.smallint n) ∧
      bufferAfter ws a.messageText (n + 1) = bufferAfter ws' b.diagInfoPtr (n + 1)
  | _ => True

section Record

variable {a : DiagArgs} {b : DiagFieldArgs} {e : Error} (hb : DiagBuffers mErrors r a b)
  (he : errorAt mErrors r = some e)

include hb he

/-- With room for the message a record is reported in full. -/
theorem sqlGetDiagRec_record : sqlGetDiagRec mErrors r a = .ok (.success, diagWrites a e) := by
  have hlength := (hb.message e he).1
  have hcut : ¬ (e.mMessage.length : Int) > a.bufferLength := by omega
  rw [sqlGetDiagRec_of_errorAt he hb.bufferLength.1 hb.sqlstate hb.textLength, if_neg hcut]

theorem sqlGetDiagField_sqlstate :
    sqlGetDiagField m mErrors r 4 b =
      .ok ⟨.ok .success, [⟨b.diagInfoPtr, .chars (e.mSqlstate.take 5)⟩]⟩ := by
  obtain ⟨hneg, hbeyond, hheader⟩ := passes_of_errorAt he 4
  unfold sqlGetDiagField
  simp only [if_neg hneg, if_neg hbeyond, if_neg hheader, he, if_neg hb.diagInfoPtr]

theorem sqlGetDiagField_nativeError :
    sqlGetDiagField m mErrors r 5 b = .ok ⟨.ok .success, [⟨b.diagInfoPtr, .integer 0⟩]⟩ := by
  obtain ⟨hneg, hbeyond, hheader⟩ := passes_of_errorAt he 5
  unfold sqlGetDiagField
  rw [if_neg hneg, if_neg hbeyond, if_neg hheader]
  exact if_neg hb.diagInfoPtr

theorem sqlGetDiagField_message :
    sqlGetDiagField m mErrors r 6 b =
      .ok ⟨.ok .success, [⟨b.diagInfoPtr, .chars e.mMessage⟩,
        ⟨b.diagInfoPtr + e.mMessage.length, .chars ['\x00']⟩,
        ⟨b.stringLengthPtr, .smallint e.mMessage.length⟩]⟩ := by
  obtain ⟨hneg, hbeyond, hheader⟩ := passes_of_errorAt he 6
  have hlength := (hb.message e he).2
  have hshort := hb.fieldLength
  have hsize : toSize b.bufferLength = b.bufferLength.toNat := toSize_of_lt (by omega) (by omega)
  have hfits : e.mMessage.length < toSize b.bufferLength := by omega
  have hcast : e.mMessage.length < 2 ^ 15 := by omega
  unfold sqlGetDiagField
  simp only [if_neg hneg, if_neg hbeyond, if_neg hheader, he]
  unfold diagText
  simp only [copyString_of_fits hb.diagInfoPtr hfits, if_pos hcast, if_neg hb.stringLengthPtr]
  rfl

/-- `SQLGetDiagField` stores the five characters of the SQLSTATE without a terminator. -/
theorem sameField_sqlstate :
    SameField a b (diagWrites a e) [⟨b.diagInfoPtr, .chars (e.mSqlstate.take 5)⟩] 4 := by
  have hlength := (hb.message e he).1
  have h0 : 0 < a.bufferLength := by omega
  refine bufferAfter_congr fun i hi => ?_
  rw [diagWrites_sqlstate hb.messageText h0 hb.bufferLength.2 hb.texts hi, charAfter_cons,
    charAfter_nil, Option.none_or, charAt_chars_add]

theorem sameField_message :
    SameField a b (diagWrites a e)
      [⟨b.diagInfoPtr, .chars e.mMessage⟩,
        ⟨b.diagInfoPtr + e.mMessage.length, .chars ['\x00']⟩,
        ⟨b.stringLengthPtr, .smallint e.mMessage.length⟩] 6 := by
  have hlength := (hb.message e he).1
  have hshort := hb.bufferLength.2
  have h0 : 0 < a.bufferLength := by omega
  have hsize : toSize a.bufferLength = a.bufferLength.toNat := toSize_of_lt h0.le (by omega)
  refine ⟨e.mMessage.length, ?_, ?_, ?_⟩
  · rw [diagWrites_textLength hb.messageText h0 hb.cells,
      copyString_of_fits hb.messageText (by omega), toSqlSmallint_of_lt (by omega) (by omega)]
  · exact cellAfter_concat_self [_, _] (by simp)
  · have hmessage := diagWrites_message (e := e) hb.messageText h0 hshort
    have hfield := bufferAfter_terminator (p := b.diagInfoPtr) (Nat.le_refl e.mMessage.length)
    unfold HoldsPrefix at hmessage
    rw [terminated_of_fits (by omega), List.length_append, List.length_singleton] at hmessage
    rw [List.take_length, List.length_append, List.length_singleton] at hfield
    exact hmessage.trans hfield.symm

/-- The native error is 42 or 0. -/
theorem not_sameField_native :
    ¬ SameField a b (diagWrites a e) [⟨b.diagInfoPtr, .integer 0⟩] 5 := by
  intro hsame
  have h0 : 0 < a.bufferLength := by
    have hlength := (hb.message e he).1
    omega
  have hzero : cellAfter [⟨b.diagInfoPtr, .integer 0⟩] b.diagInfoPtr = some (.integer 0) := by
    rw [cellAfter_singleton (by simp), if_pos rfl]
  unfold SameField at hsame
  rw [diagWrites_nativeError hb.messageText h0 hb.nativeError, hzero] at hsame
  cases hsame

end Record

end AbstractHandle

/-! ## The four classes of handles -/

theorem DiagMethods.base_spareRecords : DiagMethods.base.SpareRecords where
  cursorRowCount _ := avoids_ok _ _
  dynamicFunction _ := avoids_ok _ _
  dynamicFunctionCode _ := avoids_ok _ _
  rowCount _ := avoids_ok _ _
  connectionName _ := avoids_stored (by decide) _
  rowNumber _ := avoids_stored (by decide) _
  serverName _ := avoids_stored (by decide) _

theorem RetsDBC.spareRecords (dbc : RetsDBC) : dbc.diagMethods.SpareRecords where
  cursorRowCount := DiagMethods.base_spareRecords.cursorRowCount
  dynamicFunction := DiagMethods.base_spareRecords.dynamicFunction
  dynamicFunctionCode := DiagMethods.base_spareRecords.dynamicFunctionCode
  rowCount := DiagMethods.base_spareRecords.rowCount
  connectionName b := avoids_diagTextOptional (by decide) b _
  rowNumber := DiagMethods.base_spareRecords.rowNumber
  serverName b := avoids_diagTextOptional (by decide) b _

/-- The row count of the cursor needs a result set, not a record. -/
theorem RetsSTMT.spareRecords (ctx : CallContext) (stmt : RetsSTMT) :
    (stmt.diagMethods ctx).SpareRecords where
  cursorRowCount b := by
    refine Avoids.bind ?_ fun rs _ => avoids_diagInteger (by decide) b _ _
    intro hnull
    cases ((resultSet_eq_error stmt).mp hnull).2
  dynamicFunction b := avoids_diagTextOptional (by decide) b _
  dynamicFunctionCode b := avoids_diagInteger (by decide) b _ _
  rowCount b := avoids_diagInteger (by decide) b _ _
  connectionName b := avoids_diagTextOptional (by decide) b _
  rowNumber b := avoids_diagInteger (by decide) b _ _
  serverName b := avoids_diagTextOptional (by decide) b _

namespace HandleKind

/-- What the `diag` methods of a handle read besides it. -/
def DiagContext : HandleKind → Type
  | env => Unit
  | dbc => DbcContext
  | stmt => CallContext
  | desc => Unit

def diagMethods : (h : HandleKind) → h.DiagContext → h.State → DiagMethods
  | env, _, _ => .base
  | dbc, _, s => RetsDBC.diagMethods s
  | stmt, ctx, s => RetsSTMT.diagMethods ctx s
  | desc, _, _ => .base

/-- `SQLGetDiagRec` on a handle. -/
def getDiagRec (h : HandleKind) (s : h.State) (recNumber : Int) (a : DiagArgs) :
    Except Fault (SqlReturn × List Write) :=
  sqlGetDiagRec (h.mErrors s) recNumber a

/-- `SQLGetDiagField` on a handle; its entry point does not record an exception. -/
def getDiagField (h : HandleKind) (ctx : h.DiagContext) (s : h.State)
    (recNumber diagIdentifier : Int) (b : DiagFieldArgs) : Except Fault (SqlReturn × List Write) :=
  (sqlGetDiagField (h.diagMethods ctx s) (h.mErrors s) recNumber diagIdentifier b).map fun out =>
    ((odbcEntry [] out.result).1, out.writes)

/-- The two questions among the calls on a handle. -/
def recCall : (h : HandleKind) → h.DiagContext → Int → DiagArgs → h.Call
  | env, _, r, a => EnvCall.getDiagRec r a
  | dbc, ctx, r, a => (ctx, .getDiagRec r a)
  | stmt, ctx, r, a => (ctx, .call (.getDiagRec r a))
  | desc, _, r, a => DescCall.getDiagRec r a

def fieldCall : (h : HandleKind) → h.DiagContext → Int → Int → DiagFieldArgs → h.Call
  | env, _, r, f, b => EnvCall.getDiagField r f b
  | dbc, ctx, r, f, b => (ctx, .getDiagField r f b)
  | stmt, ctx, r, f, b => (ctx, .call (.getDiagField r f b))
  | desc, _, r, f, b => DescCall.getDiagField r f b

variable {h : HandleKind} {ctx : h.DiagContext} {s : h.State} {r f : Int} {a : DiagArgs}
  {b : DiagFieldArgs}

/-- Reading the records leaves the handle as it is. -/
theorem call_recCall :
    h.call (h.recCall ctx r a) s = (h.getDiagRec s r a).map fun out => (s, out.1) := by
  cases h with
  | env => exact map_map _ _ _
  | dbc => exact map_map _ _ _
  | stmt => exact (congrArg (Except.map _) (map_map _ _ _)).trans (map_map _ _ _)
  | desc => exact map_map _ _ _

theorem call_fieldCall :
    h.call (h.fieldCall ctx r f b) s = (h.getDiagField ctx s r f b).map fun out => (s, out.1) := by
  refine Eq.trans ?_ (map_map _ _ _).symm
  cases h with
  | env => exact map_map _ _ _
  | dbc => exact map_map _ _ _
  | stmt =>
    refine (congrArg (Except.map _) (map_map _ _ _)).trans ((map_map _ _ _).trans ?_)
    refine congrArg (fun g => Except.map g _) (funext fun out => ?_)
    exact congrArg (Prod.mk s) (odbcEntry_fst _ _ _)
  | desc => exact map_map _ _ _

/-! ## Where they agree -/

/-- What the two functions should have in common when field `f` of record `r` is asked for: the
header counts the records, the fields of a record are the same both ways, there is no data behind
the last record, and no buffers at all lead to a record that is missing. -/
structure DiagAgree (h : HandleKind) (ctx : h.DiagContext) (s : h.State) (r f : Int) (a : DiagArgs)
    (b : DiagFieldArgs) : Prop where
  count : r = 0 → f = 2 → ∃ ws, h.getDiagField ctx s r f b = .ok (.success, ws) ∧
    cellAfter ws b.diagInfoPtr = some (.integer (h.mErrors s).length)
  record : 1 ≤ r → r ≤ (h.mErrors s).length → f = 4 ∨ f = 5 ∨ f = 6 →
    ∃ ws ws', h.getDiagRec s r a = .ok (.success, ws) ∧
      h.getDiagField ctx s r f b = .ok (.success, ws') ∧ SameField a b ws ws' f
  noData : (h.mErrors s).length < r →
    h.getDiagRec s r a = .ok (.noData, []) ∧ h.getDiagField ctx s r f b = .ok (.noData, [])
  noMissing : ∀ b', h.getDiagField ctx s r f b' ≠ .error .nullRecord

theorem getDiagField_of_ok {result : SqlReturn} {ws : List Write}
    (hout : sqlGetDiagField (h.diagMethods ctx s) (h.mErrors s) r f b = .ok ⟨.ok result, ws⟩) :
    h.getDiagField ctx s r f b = .ok (result, ws) := by
  unfold getDiagField
  rw [hout]
  rfl

/-- Every positive identifier is refused for the header, `SQL_DIAG_NUMBER` among them. -/
theorem getDiagField_header (hf : f > 0) : h.getDiagField ctx s 0 f b = .ok (.error, []) := by
  have hcount : ¬ (0 : Int) > (h.mErrors s).length := by omega
  refine getDiagField_of_ok ?_
  unfold sqlGetDiagField
  rw [if_neg (Int.lt_irrefl 0), if_neg hcount, if_pos ⟨rfl, hf⟩]

theorem getDiagField_noData (hr : (h.mErrors s).length < r) :
    h.getDiagField ctx s r f b = .ok (.noData, []) := by
  have hneg : ¬ r < 0 := by omega
  refine getDiagField_of_ok ?_
  unfold sqlGetDiagField
  rw [if_neg hneg, if_pos hr]

theorem getDiagRec_noData (hr : (h.mErrors s).length < r) (ha : 0 ≤ a.bufferLength) :
    h.getDiagRec s r a = .ok (.noData, []) := by
  have hrefused : ¬ (r ≤ 0 ∨ a.bufferLength < 0) := by omega
  unfold getDiagRec sqlGetDiagRec
  rw [if_neg hrefused, List.getElem?_eq_none (by omega)]

theorem avoids_getDiagField : Avoids .nullRecord (h.getDiagField ctx s r f b) := by
  refine Avoids.map _ (avoids_nullRecord ?_ b)
  cases h with
  | env => exact DiagMethods.base_spareRecords
  | dbc => exact RetsDBC.spareRecords s
  | stmt => exact RetsSTMT.spareRecords ctx s
  | desc => exact DiagMethods.base_spareRecords

theorem not_diagAgree_count : ¬ DiagAgree h ctx s 0 2 a b := by
  intro hagree
  obtain ⟨ws, hws, -⟩ := hagree.count rfl rfl
  rw [getDiagField_header (by decide)] at hws
  cases hws

section Record

variable {e : Error} (hb : DiagBuffers (h.mErrors s) r a b) (he : errorAt (h.mErrors s) r = some e)

include hb he

theorem not_diagAgree_native : ¬ DiagAgree h ctx s r 5 a b := by
  intro hagree
  obtain ⟨hneg, hbeyond, hheader⟩ := passes_of_errorAt he 5
  obtain ⟨ws, ws', hrec, hfield, hsame⟩ :=
    hagree.record (by omega) (by omega) (.inr (.inl rfl))
  rw [getDiagField_of_ok (sqlGetDiagField_nativeError hb he)] at hfield
  unfold getDiagRec at hrec
  rw [sqlGetDiagRec_record hb he] at hrec
  cases hrec
  cases hfield
  exact not_sameField_native hb he hsame

/-- The SQLSTATE and the message of a record are the same both ways. -/
theorem sameField_of_record (hf : f = 4 ∨ f = 6) :
    ∃ ws ws', h.getDiagRec s r a = .ok (.success, ws) ∧
      h.getDiagField ctx s r f b = .ok (.success, ws') ∧ SameField a b ws ws' f := by
  rcases hf with rfl | rfl
  · exact ⟨_, _, sqlGetDiagRec_record hb he, getDiagField_of_ok (sqlGetDiagField_sqlstate hb he),
      sameField_sqlstate hb he⟩
  · exact ⟨_, _, sqlGetDiagRec_record hb he, getDiagField_of_ok (sqlGetDiagField_message hb he),
      sameField_message hb he⟩

end Record

/-- **The two functions agree on everything but the number of records and the native error.** -/
theorem diagAgree_iff (hb : DiagBuffers (h.mErrors s) r a b) :
    DiagAgree h ctx s r f a b ↔
      ¬ (r = 0 ∧ f = 2) ∧ ¬ (1 ≤ r ∧ r ≤ (h.mErrors s).length ∧ f = 5) := by
  constructor
  · intro hagree
    refine ⟨?_, ?_⟩
    · rintro ⟨rfl, rfl⟩
      exact not_diagAgree_count hagree
    · rintro ⟨h1, hn, rfl⟩
      obtain ⟨e, he⟩ := exists_errorAt h1 hn
      exact not_diagAgree_native hb he hagree
  · rintro ⟨hcount, hnative⟩
    refine ⟨fun hr hf => absurd ⟨hr, hf⟩ hcount, fun h1 hn hf => ?_, fun hr => ?_, fun b' => ?_⟩
    · obtain ⟨e, he⟩ := exists_errorAt h1 hn
      refine sameField_of_record hb he ?_
      rcases hf with rfl | rfl | rfl
      · exact .inl rfl
      · exact absurd ⟨h1, hn, rfl⟩ hnative
      · exact .inr rfl
    · exact ⟨getDiagRec_noData hr hb.bufferLength.1, getDiagField_noData hr⟩
    · exact avoids_getDiagField

/-! ### An environment with one record -/

/-- A new environment after `SQLTransact`, which is not implemented. -/
def afterTransact : RetsENV :=
  { RetsENV.new with mErrors := [.of "HY000" "SQLTransact not implemented"] }

def transactRec : DiagArgs := ⟨100, 200, 300, 512, 900⟩

def transactField : DiagFieldArgs := ⟨1000, 512, 1600⟩

theorem diagBuffers_transact (r : Int) :
    DiagBuffers afterTransact.mErrors r transactRec transactField where
  sqlstate := by decide
  nativeError := by decide
  messageText := by decide
  textLength := by decide
  bufferLength := by decide
  texts := .inl (by decide)
  cells := by decide
  diagInfoPtr := by decide
  stringLengthPtr := by decide
  fieldLength := by decide
  message e he := by
    have hmem := List.mem_of_getElem? (errorAt_eq_some_iff.mp he).2
    obtain rfl := List.mem_singleton.mp hmem
    exact ⟨by decide, by decide⟩

/-- The message of the only record is the same both ways. -/
theorem diagAgree_transact :
    DiagAgree env () afterTransact 1 6 transactRec transactField :=
  (diagAgree_iff (h := env) (s := afterTransact) (diagBuffers_transact 1)).mpr
    ⟨by decide, by decide⟩

/-- Its native error is not, and the record is not counted. -/
theorem not_diagAgree_transact :
    RetsENV.call (.stub .transact) RetsENV.new = .ok ⟨afterTransact, .error, []⟩ ∧
      DiagBuffers afterTransact.mErrors 0 transactRec transactField ∧
      ¬ DiagAgree env () afterTransact 0 2 transactRec transactField ∧
      DiagBuffers afterTransact.mErrors 1 transactRec transactField ∧
      ¬ DiagAgree env () afterTransact 1 5 transactRec transactField :=
  ⟨rfl, diagBuffers_transact 0, not_diagAgree_count, diagBuffers_transact 1,
    not_diagAgree_native (h := env) (s := afterTransact) (diagBuffers_transact 1) rfl⟩

end HandleKind

end EzRets
