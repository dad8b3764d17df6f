import EzRets.ColumnDescriptions
import EzRets.DiagAgreement

/-!
# EzRets.TextResults — text that is cut to the application's buffer

Six entry points return a text through `copyString`.  Each compares the text, the buffer and what was
copied in its own way, and each stores a length of its own.
-/

namespace EzRets

open AbstractHandle FaultRun
open RetsSTMT (storeIf)

/-! ## The cell for the length -/

theorem charAt_storeIf {p : Ptr} {v : CValue} (hc : ∀ s, v ≠ .chars s) (hl : ∀ n, v ≠ .len n) :
    ∀ w ∈ storeIf p v, ∀ q, w.charAt q = none := fun w hw => (isStatus_storeIf hc hl w hw).1

theorem cellAfter_storeIf {p : Ptr} {v : CValue} (hv : ∀ s, v ≠ .chars s) (hp : p ≠ 0) :
    cellAfter (storeIf p v) p = some v := by
  unfold storeIf
  rw [if_pos hp, cellAfter_singleton hv, if_pos rfl]

theorem cellAfter_storeIf_of_ne {p q : Ptr} {v : CValue} (hpq : p ≠ q) :
    cellAfter (storeIf p v) q = none := by
  refine cellAfter_eq_none fun w hw => .inr ?_
  unfold storeIf at hw
  split at hw
  · rw [List.mem_singleton] at hw
    rw [hw]
    exact hpq
  · cases hw

/-! ## A copy and what is said about it -/

/-- The C type of a reported length. -/
inductive LengthType
  | smallint
  | integer
  deriving DecidableEq, Repr

def LengthType.cell : LengthType → Int → CValue
  | smallint => .smallint
  | integer => .integer

theorem LengthType.cell_ne_chars (l : LengthType) (n : Int) (s : Str) : l.cell n ≠ .chars s := by
  cases l <;> simp [cell]

theorem LengthType.cell_ne_len (l : LengthType) (n m : Int) : l.cell n ≠ .len m := by
  cases l <;> simp [cell]

/-- Where a text result goes: the buffer and its size, and the cell for the length. -/
structure TextBuffer where
  text : Ptr
  length : Int
  lengthPtr : Ptr
  lengthType : LengthType

/-- A buffer of at least one byte, whose size fits `SQLINTEGER`. -/
structure TextBuffer.Given (t : TextBuffer) : Prop where
  text : t.text ≠ 0
  length : 1 ≤ t.length ∧ t.length < 2 ^ 31

/-- As much of `s` as there is room for is in the buffer, the return code says whether that is all,
and the length is that of `s`. -/
structure CutWithNotice (t : TextBuffer) (s : Str) (result : SqlReturn) (ws : List Write) : Prop where
  text : HoldsPrefix ws t.text t.length.toNat s
  notice : result = .successWithInfo ↔ t.length ≤ s.length
  reported : t.lengthPtr ≠ 0 → cellAfter ws t.lengthPtr = some (t.lengthType.cell s.length)

section Copy

variable {t : TextBuffer} {s : Str} (ht : t.Given)

include ht

theorem TextBuffer.Given.toSize_length : toSize t.length = t.length.toNat := by
  obtain ⟨h1, hlt⟩ := ht.length
  exact toSize_of_lt (by omega) (by omega)

/-- What is copied is what is left of the text next to its terminator. -/
theorem copyString_snd :
    (copyString s t.text (toSize t.length)).2 = min s.length (t.length.toNat - 1) := by
  have h1 := ht.length.1
  rw [ht.toSize_length]
  by_cases h : s.length < t.length.toNat
  · rw [copyString_of_fits ht.text h]
    show s.length = _
    omega
  · rw [copyString_of_not_fits ht.text (by omega) (by omega)]
    show t.length.toNat - 1 = _
    omega

/-- **The buffer is always right**: what remains is the return code and the length. -/
theorem cutWithNotice_iff_of_copy {result : SqlReturn} {pre post : List Write}
    (hpre : ∀ w ∈ pre, w.cell = none) (hpost : ∀ w ∈ post, ∀ q, w.charAt q = none) :
    CutWithNotice t s result (pre ++ (copyString s t.text (toSize t.length)).1 ++ post) ↔
      (result = .successWithInfo ↔ t.length ≤ s.length) ∧
        (t.lengthPtr ≠ 0 → cellAfter post t.lengthPtr = some (t.lengthType.cell s.length)) := by
  have h1 := ht.length.1
  have hcell : cellAfter (pre ++ (copyString s t.text (toSize t.length)).1 ++ post)
      t.lengthPtr = cellAfter post t.lengthPtr := by
    rw [cellAfter_append, cellAfter_append, cellAfter_eq_none fun w hw => .inl (copyString_cell w hw),
      cellAfter_eq_none fun w hw => .inl (hpre w hw), Option.or_none, Option.or_none]
  constructor
  · rintro ⟨-, hnotice, hreported⟩
    rw [hcell] at hreported
    exact ⟨hnotice, hreported⟩
  · rintro ⟨hnotice, hreported⟩
    refine ⟨?_, hnotice, ?_⟩
    · rw [ht.toSize_length]
      exact ((copyString_holdsPrefix ht.text (by omega)).append_left pre).append_right hpost
    · rw [hcell]
      exact hreported

/-- Nothing is stored before the text. -/
theorem cutWithNotice_iff_of_copy_first {result : SqlReturn} {post : List Write}
    (hpost : ∀ w ∈ post, ∀ q, w.charAt q = none) :
    CutWithNotice t s result ((copyString s t.text (toSize t.length)).1 ++ post) ↔
      (result = .successWithInfo ↔ t.length ≤ s.length) ∧
        (t.lengthPtr ≠ 0 → cellAfter post t.lengthPtr = some (t.lengthType.cell s.length)) := by
  have hpre : ∀ w ∈ ([] : List Write), w.cell = none := by simp
  exact cutWithNotice_iff_of_copy ht hpre hpost

/-- The two outcomes that the comparison of the whole text with what was copied tells apart. -/
theorem copied_cases (s : Str) :
    (t.length ≤ s.length ∧ s.length > (copyString s t.text (toSize t.length)).2) ∨
      ((s.length : Int) < t.length ∧ (copyString s t.text (toSize t.length)).2 = s.length) := by
  have h1 := ht.length.1
  rw [copyString_snd ht]
  by_cases h : t.length ≤ s.length
  · exact .inl ⟨h, by omega⟩
  · exact .inr ⟨by omega, by omega⟩

/-- A call that announces what it cuts and stores the length of the whole text is right. -/
theorem cutWithNotice_of_announced :
    CutWithNotice t s (if t.length ≤ s.length then .successWithInfo else .success)
      ((copyString s t.text (toSize t.length)).1 ++
        storeIf t.lengthPtr (t.lengthType.cell s.length)) := by
  have hchars := t.lengthType.cell_ne_chars s.length
  have hpost := charAt_storeIf (p := t.lengthPtr) hchars (t.lengthType.cell_ne_len s.length)
  refine (cutWithNotice_iff_of_copy_first ht hpost).mpr
    ⟨?_, cellAfter_storeIf hchars⟩
  by_cases h : t.length ≤ s.length
  · rw [if_pos h]
    exact iff_of_true rfl h
  · rw [if_neg h]
    exact iff_of_false (by decide) h

/-- A call that always reports success is right about the texts that fit, and about no others. -/
theorem cutWithNotice_silent_iff {post : List Write}
    (hpost : ∀ w ∈ post, ∀ q, w.charAt q = none)
    (hlength : (s.length : Int) < t.length → t.lengthPtr ≠ 0 →
      cellAfter post t.lengthPtr = some (t.lengthType.cell s.length)) :
    CutWithNotice t s .success ((copyString s t.text (toSize t.length)).1 ++ post) ↔
      (s.length : Int) < t.length := by
  refine (cutWithNotice_iff_of_copy_first ht hpost).trans ⟨?_, fun h => ⟨?_, hlength h⟩⟩
  · rintro ⟨hnotice, -⟩
    by_contra h
    cases hnotice.mpr (by omega)
  · exact iff_of_false (by decide) (by omega)

/-- The same where the length of the whole text is stored all the same. -/
theorem cutWithNotice_unannounced_iff :
    CutWithNotice t s .success ((copyString s t.text (toSize t.length)).1 ++
      storeIf t.lengthPtr (t.lengthType.cell s.length)) ↔ (s.length : Int) < t.length := by
  have hchars := t.lengthType.cell_ne_chars s.length
  have hpost := charAt_storeIf (p := t.lengthPtr) hchars (t.lengthType.cell_ne_len s.length)
  exact cutWithNotice_silent_iff ht hpost fun _ => cellAfter_storeIf hchars

end Copy

/-! ## The helpers -/

/-- `setString` of `GetInfoHelper` and of `GetConnectAttrHelper`. -/
theorem RetsDBC.setString_eq {l : LengthType} {a : InfoArgs} {s : Str} (dbc : RetsDBC)
    (ht : TextBuffer.Given ⟨a.value, a.bufferLength, a.stringLength, l⟩)
    (hs : s.length < 2 ^ 15) :
    ∃ dbc', dbc.setString l.cell a s =
      { dbc := dbc'
        result := .ok (if a.bufferLength ≤ s.length then .successWithInfo else .success)
        writes := (copyString s a.value (toSize a.bufferLength)).1 ++
          storeIf a.stringLength (l.cell s.length) } := by
  have hvalue : a.value ≠ 0 := ht.text
  have hsmall : toSqlSmallint s.length = s.length := toSqlSmallint_of_lt (by omega) (by omega)
  unfold setString
  rw [if_pos hvalue]
  rcases copied_cases ht s with ⟨h, hcut⟩ | ⟨h, hwhole⟩
  · dsimp only at h hcut ⊢
    rw [if_pos hcut, if_pos h, hsmall]
    exact ⟨_, rfl⟩
  · dsimp only at h hwhole ⊢
    rw [hwhole, if_neg (Nat.lt_irrefl _), if_neg (not_le.mpr h), hsmall]
    exact ⟨_, rfl⟩

/-- `ColAttributeHelper::setString`. -/
theorem RetsSTMT.setString_eq {a : ColAttributeArgs} {s : Str} (stmt : RetsSTMT)
    (ht : TextBuffer.Given ⟨a.characterAttribute, a.bufferLength, a.stringLength, .smallint⟩)
    (hs : s.length < 2 ^ 15) :
    ∃ stmt', stmt.setString a s =
      ⟨stmt', .ok (if a.bufferLength ≤ s.length then .successWithInfo else .success),
        (copyString s a.characterAttribute (toSize a.bufferLength)).1 ++
          storeIf a.stringLength (.smallint s.length)⟩ := by
  have hsmall : toSqlSmallint s.length = s.length := toSqlSmallint_of_lt (by omega) (by omega)
  unfold setString
  rcases copied_cases ht s with ⟨h, hcut⟩ | ⟨h, hwhole⟩
  · dsimp only at h hcut ⊢
    rw [if_pos hcut, if_pos h, hsmall]
    exact ⟨_, rfl⟩
  · dsimp only at h hwhole ⊢
    rw [hwhole, if_neg (Nat.lt_irrefl _), if_neg (not_le.mpr h), hsmall]
    exact ⟨_, rfl⟩

/-! ## The calls that return a text -/

/-- The text among the values of an information type or an attribute. -/
def InfoValue.text : InfoValue → Option Str
  | .string value => some value
  | _ => none

namespace RetsDBC

/-- The connection string that a successful `SQLDriverConnect` hands back. -/
def connectionText (ctx : DbcContext) (dbc : RetsDBC) (inConnectionString : Str) : Option Str :=
  let dbc := dbc.clearErrors
  let d := (dbc.mDataSource.setFromOdbcConnectionString inConnectionString).mergeFromIni ctx.build
    ctx.ini
  if d.isComplete then
    match (login ctx.build ctx.answer { dbc with mDataSource := d }).2 with
    | .ok true => some d.getConnectionString
    | _ => none
  else none

end RetsDBC

namespace RetsSTMT

/-- The column that a call on a statement describes. -/
def columnAt (stmt : RetsSTMT) (columnNumber : Nat) : Option (ResultSet × Column) :=
  stmt.mQuery.mResultSet.bind fun rs => (rs.getColumn columnNumber).map fun column => (rs, column)

/-- The text of a column attribute. -/
def attributeText (ctx : CallContext) (stmt : RetsSTMT) (columnNumber fieldIdentifier : Nat) :
    Option Str :=
  (stmt.columnAt columnNumber).bind fun c =>
    match colAttribute ctx.conn c.1 c.2 fieldIdentifier with
    | .string value => some value
    | _ => none

end RetsSTMT

/-- A call of one of the six entry points, with the handle and what it reads besides. -/
inductive TextCall
  | getInfo (ctx : DbcContext) (dbc : RetsDBC) (infoType : Nat) (a : RetsDBC.InfoArgs)
  | getConnectAttr (ctx : DbcContext) (dbc : RetsDBC) (attr : Int) (a : RetsDBC.InfoArgs)
  | driverConnect (ctx : DbcContext) (dbc : RetsDBC) (inConnectionString : Str)
      (a : RetsDBC.DriverConnectArgs)
  | colAttribute (ctx : CallContext) (stmt : RetsSTMT) (columnNumber fieldIdentifier : Nat)
      (a : RetsSTMT.ColAttributeArgs)
  | describeCol (ctx : CallContext) (stmt : RetsSTMT) (columnNumber : Nat)
      (a : RetsSTMT.DescribeColArgs)
  | getDiagRec (h : HandleKind) (s : h.State) (recNumber : Int) (a : DiagArgs)

namespace TextCall

/-- The text that the call returns; `none` where it returns a number or fails. -/
def text : TextCall → Option Str
  | getInfo ctx dbc infoType _ =>
    (RetsDBC.infoValue ctx.texts dbc.mDataSource infoType).bind InfoValue.text
  | getConnectAttr _ dbc attr _ => (dbc.connectAttr attr).bind InfoValue.text
  | driverConnect ctx dbc inConnectionString _ => dbc.connectionText ctx inConnectionString
  | colAttribute ctx stmt columnNumber fieldIdentifier _ =>
    stmt.attributeText ctx columnNumber fieldIdentifier
  | describeCol _ stmt columnNumber _ => (stmt.columnAt columnNumber).map fun c => c.2.mName
  | getDiagRec h s recNumber _ => (errorAt (h.mErrors s) recNumber).map Error.mMessage

/-- The output arguments for the text.  Only `SQLGetConnectAttr` has an `SQLINTEGER` length. -/
def buffer : TextCall → TextBuffer
  | getInfo _ _ _ a => ⟨a.value, a.bufferLength, a.stringLength, .smallint⟩
  | getConnectAttr _ _ _ a => ⟨a.value, a.bufferLength, a.stringLength, .integer⟩
  | driverConnect _ _ _ a =>
    ⟨a.outConnectionString, a.bufferLength, a.outStringLengthPtr, .smallint⟩
  | colAttribute _ _ _ _ a => ⟨a.characterAttribute, a.bufferLength, a.stringLength, .smallint⟩
  | describeCol _ _ _ a => ⟨a.columnName, a.bufferLength, a.nameLength, .smallint⟩
  | getDiagRec _ _ _ a => ⟨a.messageText, a.bufferLength, a.textLength, .smallint⟩

/-- The other output arguments: those that are stored through unchecked are given, and none is the
cell for the length. -/
def OthersGiven : TextCall → Prop
  | describeCol _ _ _ a => a.nullable ≠ 0 ∧ (a.nameLength ≠ 0 →
      a.nameLength ∉ [a.columnSize, a.dataType, a.decimalDigits, a.nullable])
  | getDiagRec _ _ _ a => a.sqlstate ≠ 0 ∧ a.textLength ≠ 0 ∧ a.textLength ≠ a.nativeError
  | _ => True

/-- The return code and the stores of the call. -/
def made : TextCall → Except Fault (SqlReturn × List Write)
  | getInfo ctx dbc infoType a =>
    (dbc.call ctx (.getInfo infoType a)).map fun r => (r.result, r.writes)
  | getConnectAttr ctx dbc attr a =>
    (dbc.call ctx (.getConnectAttr attr a)).map fun r => (r.result, r.writes)
  | driverConnect ctx dbc inConnectionString a =>
    (dbc.call ctx (.session (.driverConnect inConnectionString a))).map fun r =>
      (r.result, r.writes)
  | colAttribute ctx stmt columnNumber fieldIdentifier a =>
    (stmt.call ctx (.colAttribute columnNumber fieldIdentifier a)).map fun r => (r.result, r.writes)
  | describeCol ctx stmt columnNumber a =>
    (stmt.call ctx (.describeCol columnNumber a)).map fun r => (r.result, r.writes)
  | getDiagRec h s recNumber a => h.getDiagRec s recNumber a

/-- The call hands on the return code of a helper that compares the whole text with what was
copied.  `SQLGetConnectAttr` and `SQL_DESC_TYPE_NAME` drop it, `SQLDescribeCol` has none, and
`SQLGetDiagRec` compares the text with the whole buffer. -/
def announces : TextCall → Bool
  | getInfo _ _ _ _ => true
  | driverConnect _ _ _ _ => true
  | colAttribute _ _ _ fieldIdentifier _ => fieldIdentifier ≠ 14
  | getConnectAttr _ _ _ _ => false
  | describeCol _ _ _ _ => false
  | getDiagRec _ _ _ _ => false

/-- The call returns the text `s`, of a length that `SQLSMALLINT` holds, through a buffer. -/
structure Returns (c : TextCall) (s : Str) : Prop where
  text : c.text = some s
  short : s.length < 2 ^ 15
  buffer : c.buffer.Given
  others : c.OthersGiven

/-- The call returns `s`, cut with notice. -/
def CutsWithNotice (c : TextCall) (s : Str) : Prop :=
  ∃ result ws, c.made = .ok (result, ws) ∧ CutWithNotice c.buffer s result ws

/-! ## What each call returns -/

variable {s : Str}

theorem cutsWithNotice_iff_of_made {c : TextCall} {result : SqlReturn} {ws : List Write}
    (hmade : c.made = .ok (result, ws)) :
    c.CutsWithNotice s ↔ CutWithNotice c.buffer s result ws := by
  constructor
  · rintro ⟨result', ws', hmade', hcut⟩
    rw [hmade] at hmade'
    cases hmade'
    exact hcut
  · intro hcut
    exact ⟨result, ws, hmade, hcut⟩

theorem text_eq_some {value : Option InfoValue} (h : value.bind InfoValue.text = some s) :
    value = some (.string s) := by
  obtain ⟨v, rfl, hv⟩ := Option.bind_eq_some_iff.mp h
  rcases v with n | n | s'
  · cases hv
  · cases hv
  · cases hv
    rfl

section Dbc

variable {ctx : DbcContext} {dbc : RetsDBC}

theorem getInfo_cutsWithNotice {infoType : Nat} {a : RetsDBC.InfoArgs}
    (htext : (getInfo ctx dbc infoType a).text = some s)
    (ht : (getInfo ctx dbc infoType a).buffer.Given) (hs : s.length < 2 ^ 15) :
    (getInfo ctx dbc infoType a).CutsWithNotice s := by
  have hvalue : RetsDBC.infoValue ctx.texts dbc.clearErrors.mDataSource infoType =
    some (.string s) := text_eq_some htext
  have hout : dbc.sqlGetInfo ctx.texts infoType a = dbc.clearErrors.setString .smallint a s := by
    unfold RetsDBC.sqlGetInfo
    dsimp only
    rw [hvalue]
  obtain ⟨dbc', hset⟩ := dbc.clearErrors.setString_eq (l := .smallint) ht hs
  refine ⟨_, _, ?_, cutWithNotice_of_announced ht⟩
  show Except.ok ((RetsDBC.entered (dbc.sqlGetInfo ctx.texts infoType a)).result,
    (RetsDBC.entered (dbc.sqlGetInfo ctx.texts infoType a)).writes) = _
  rw [hout, show RetsDBC.setString _ .smallint a s = _ from hset]
  rfl

/-- The only text among the connection attributes is empty, so the dropped return code does not
matter. -/
theorem getConnectAttr_text {attr : Int} {a : RetsDBC.InfoArgs}
    (htext : (getConnectAttr ctx dbc attr a).text = some s) : s = [] := by
  have hvalue : dbc.connectAttr attr = some (.string s) := text_eq_some htext
  unfold RetsDBC.connectAttr at hvalue
  split at hvalue
  all_goals cases hvalue
  rfl

theorem getConnectAttr_cutsWithNotice {attr : Int} {a : RetsDBC.InfoArgs}
    (htext : (getConnectAttr ctx dbc attr a).text = some s)
    (ht : (getConnectAttr ctx dbc attr a).buffer.Given) :
    (getConnectAttr ctx dbc attr a).CutsWithNotice s := by
  have hvalue : dbc.clearErrors.connectAttr attr = some (.string s) := text_eq_some htext
  obtain rfl := getConnectAttr_text htext
  have h1 : 1 ≤ a.bufferLength := ht.length.1
  have hfits : (([] : Str).length : Int) < a.bufferLength := h1
  obtain ⟨dbc', hset⟩ := dbc.clearErrors.setString_eq (l := .integer) (s := []) ht (by decide)
  have hout : dbc.sqlGetConnectAttr attr a =
      .ok { dbc.clearErrors.setString .integer a [] with result := .ok .success } := by
    unfold RetsDBC.sqlGetConnectAttr
    dsimp only
    rw [hvalue]
  refine ⟨_, _, ?_, (cutWithNotice_unannounced_iff ht).mpr hfits⟩
  show ((dbc.sqlGetConnectAttr attr a).map RetsDBC.entered).map _ = _
  rw [hout, show RetsDBC.setString _ .integer a [] = _ from hset]
  rfl

/-- A successful connect hands its connection string to the copy. -/
theorem sqlDriverConnect_of_connectionText {inConnectionString : Str} {a : RetsDBC.DriverConnectArgs}
    (htext : dbc.connectionText ctx inConnectionString = some s) (hs : s.length < 2 ^ 15) :
    ∃ dbc' attempt, dbc.sqlDriverConnect ctx.build ctx.ini ctx.answer inConnectionString a =
      let copied := copyString s a.outConnectionString (toSize a.bufferLength)
      let writes := copied.1 ++ storeIf a.outStringLengthPtr (.smallint (toSqlSmallint copied.2))
      if s.length > copied.2 then
        { dbc := dbc', result := .ok .successWithInfo, attempt := attempt
          writes := writes ++ storeIf a.outStringLengthPtr (.smallint s.length) }
      else { dbc := dbc', result := .ok .success, attempt := attempt, writes := writes } := by
  unfold RetsDBC.connectionText at htext
  unfold RetsDBC.sqlDriverConnect
  dsimp only at htext ⊢
  split at htext
  · rename_i hcomplete
    rw [hcomplete, Bool.not_true, if_neg (by decide)]
    split at htext
    · rename_i hlogin
      cases htext
      rw [hlogin, if_pos hs]
      dsimp only
      split_ifs
      · exact ⟨_, _, rfl⟩
      · exact ⟨_, _, rfl⟩
    · cases htext
  · cases htext

theorem driverConnect_cutsWithNotice {inConnectionString : Str} {a : RetsDBC.DriverConnectArgs}
    (htext : (driverConnect ctx dbc inConnectionString a).text = some s)
    (ht : (driverConnect ctx dbc inConnectionString a).buffer.Given) (hs : s.length < 2 ^ 15) :
    (driverConnect ctx dbc inConnectionString a).CutsWithNotice s := by
  obtain ⟨dbc', attempt, hout⟩ := sqlDriverConnect_of_connectionText (a := a) htext hs
  have hsmall : toSqlSmallint s.length = s.length := toSqlSmallint_of_lt (by omega) (by omega)
  have hmade : (driverConnect ctx dbc inConnectionString a).made =
      .ok ((RetsDBC.entered (dbc.sqlDriverConnect ctx.build ctx.ini ctx.answer inConnectionString
        a)).result, (RetsDBC.entered (dbc.sqlDriverConnect ctx.build ctx.ini ctx.answer
        inConnectionString a)).writes) := rfl
  rw [hout] at hmade
  rcases copied_cases ht s with ⟨h, hcut⟩ | ⟨h, hwhole⟩
  · dsimp only [buffer] at hmade hcut
    rw [if_pos hcut] at hmade
    have hstored (n : Int) := charAt_storeIf (p := a.outStringLengthPtr) (v := .smallint n) (by simp)
      (by simp)
    refine ⟨.successWithInfo, _, hmade, ?_⟩
    show CutWithNotice _ s .successWithInfo ((_ ++ _) ++ _)
    rw [List.append_assoc]
    refine (cutWithNotice_iff_of_copy_first ht ?_).mpr ⟨iff_of_true rfl h, ?_⟩
    · intro w hw
      rcases List.mem_append.mp hw with hw | hw
      · exact hstored _ w hw
      · exact hstored _ w hw
    · intro hp
      have hlast : cellAfter (storeIf a.outStringLengthPtr (.smallint s.length))
          a.outStringLengthPtr = some (.smallint s.length) := cellAfter_storeIf (by simp) hp
      rw [cellAfter_append]
      exact congrArg (Option.or · _) hlast
  · dsimp only [buffer] at hmade hwhole
    rw [hwhole, if_neg (Nat.lt_irrefl _), hsmall] at hmade
    exact ⟨_, _, hmade, (cutWithNotice_unannounced_iff ht).mpr h⟩

end Dbc

section Stmt

variable {ctx : CallContext} {stmt : RetsSTMT} {columnNumber : Nat}

theorem columnAt_eq_some {c : ResultSet × Column} (h : stmt.columnAt columnNumber = some c) :
    stmt.mQuery.mResultSet = some c.1 ∧ c.1.getColumn columnNumber = some c.2 := by
  obtain ⟨rs, hrs, hcolumn⟩ := Option.bind_eq_some_iff.mp h
  obtain ⟨column, hcolumn', rfl⟩ := Option.map_eq_some_iff.mp hcolumn
  exact ⟨hrs, hcolumn'⟩

/-- Every text attribute goes through `setString`; the type name loses its return code. -/
theorem call_colAttribute_text {fieldIdentifier : Nat} {a : RetsSTMT.ColAttributeArgs}
    (htext : stmt.attributeText ctx columnNumber fieldIdentifier = some s) :
    stmt.call ctx (.colAttribute columnNumber fieldIdentifier a) =
      let out := stmt.clearErrors.setString a s
      .ok (RetsSTMT.entered
        (if fieldIdentifier = 14 then { out with result := .ok .success } else out)) := by
  obtain ⟨c, hc, hvalue⟩ := Option.bind_eq_some_iff.mp htext
  obtain ⟨hrs, hcolumn⟩ := columnAt_eq_some hc
  have hrs' : stmt.clearErrors.mQuery.mResultSet = some c.1 := hrs
  have hnever : ¬ (columnNumber < 1 ∧ columnNumber > c.1.columnCount) := by omega
  refine RetsSTMT.call_of_uncaught rfl ?_
  show stmt.sqlColAttribute ctx columnNumber fieldIdentifier a = _
  unfold RetsSTMT.sqlColAttribute
  dsimp only
  rw [hrs']
  dsimp only
  rw [if_neg hnever, hcolumn]
  dsimp only
  split at hvalue
  · rename_i hattribute
    cases hvalue
    rw [hattribute]
  · cases hvalue

theorem colAttribute_cutsWithNotice_iff {fieldIdentifier : Nat} {a : RetsSTMT.ColAttributeArgs}
    (htext : (colAttribute ctx stmt columnNumber fieldIdentifier a).text = some s)
    (ht : (colAttribute ctx stmt columnNumber fieldIdentifier a).buffer.Given)
    (hs : s.length < 2 ^ 15) :
    (colAttribute ctx stmt columnNumber fieldIdentifier a).CutsWithNotice s ↔
      (s.length : Int) < a.bufferLength ∨ fieldIdentifier ≠ 14 := by
  obtain ⟨stmt', hset⟩ := stmt.clearErrors.setString_eq ht hs
  have hcall := call_colAttribute_text (a := a) htext
  have hmade : (colAttribute ctx stmt columnNumber fieldIdentifier a).made =
      (stmt.call ctx (.colAttribute columnNumber fieldIdentifier a)).map fun r =>
        (r.result, r.writes) := rfl
  rw [hset] at hcall
  dsimp only at hcall
  rw [hcall] at hmade
  by_cases hname : fieldIdentifier = 14
  · rw [if_pos hname] at hmade
    refine ((cutsWithNotice_iff_of_made hmade).trans (cutWithNotice_unannounced_iff ht)).trans ?_
    exact ⟨.inl, fun h => h.resolve_right fun h' => h' hname⟩
  · rw [if_neg hname] at hmade
    exact iff_of_true ((cutsWithNotice_iff_of_made hmade).mpr (cutWithNotice_of_announced ht))
      (.inr hname)

theorem describeStores_eq (a : RetsSTMT.DescribeColArgs) (name : Str) (d : Description) :
    RetsSTMT.describeStores a name d =
      (copyString name a.columnName (toSize a.bufferLength)).1 ++
        (storeIf a.nameLength (.smallint (toSqlSmallint
          (copyString name a.columnName (toSize a.bufferLength)).2)) ++
        (storeIf a.columnSize (.ulen d.columnSize) ++ (storeIf a.dataType (.smallint d.dataType) ++
          (storeIf a.decimalDigits (.smallint d.decimalDigits) ++ [⟨a.nullable, .smallint 1⟩])))) := by
  simp only [RetsSTMT.describeStores, List.append_assoc]

theorem describeCol_cutsWithNotice_iff {a : RetsSTMT.DescribeColArgs}
    (htext : (describeCol ctx stmt columnNumber a).text = some s)
    (ht : (describeCol ctx stmt columnNumber a).buffer.Given)
    (hothers : (describeCol ctx stmt columnNumber a).OthersGiven) (hs : s.length < 2 ^ 15) :
    (describeCol ctx stmt columnNumber a).CutsWithNotice s ↔ (s.length : Int) < a.bufferLength := by
  obtain ⟨c, hc, rfl⟩ := Option.map_eq_some_iff.mp htext
  obtain ⟨hrs, hcolumn⟩ := columnAt_eq_some hc
  obtain ⟨hnullable, hapart⟩ := hothers
  have hmade : (describeCol ctx stmt columnNumber a).made =
      (stmt.call ctx (.describeCol columnNumber a)).map fun r => (r.result, r.writes) := rfl
  rw [RetsSTMT.call_describeCol ctx hrs hcolumn hnullable, describeStores_eq] at hmade
  refine (cutsWithNotice_iff_of_made hmade).trans (cutWithNotice_silent_iff ht ?_ ?_)
  · have hstored {p : Ptr} {v : CValue} := charAt_storeIf (p := p) (v := v)
    intro w hw q
    simp only [List.mem_append, List.mem_singleton] at hw
    rcases hw with hw | hw | hw | hw | rfl
    · exact hstored (by simp) (by simp) w hw q
    · exact hstored (by simp) (by simp) w hw q
    · exact hstored (by simp) (by simp) w hw q
    · exact hstored (by simp) (by simp) w hw q
    · rfl
  · intro hlt (hp : a.nameLength ≠ 0)
    have hcopied : (copyString c.2.mName a.columnName (toSize a.bufferLength)).2 =
        c.2.mName.length := by
      rcases copied_cases ht c.2.mName with ⟨h, -⟩ | ⟨-, hwhole⟩
      · exact absurd hlt (not_lt.mpr h)
      · exact hwhole
    have hne := hapart hp
    simp only [List.mem_cons, List.not_mem_nil, or_false, not_or] at hne
    obtain ⟨hsize, htype, hdigits, hnull⟩ := hne
    show cellAfter _ a.nameLength = _
    rw [hcopied, toSqlSmallint_of_lt (by omega) (by omega), cellAfter_append, cellAfter_append,
      cellAfter_append, cellAfter_append, cellAfter_storeIf_of_ne (Ne.symm hsize),
      cellAfter_storeIf_of_ne (Ne.symm htype), cellAfter_storeIf_of_ne (Ne.symm hdigits),
      cellAfter_singleton (by simp), if_neg (Ne.symm hnull), cellAfter_storeIf (by simp) hp]
    rfl

end Stmt

/-- `SQLGetDiagRec` reports the length of what it copied, which is never that of a longer message. -/
theorem getDiagRec_cutsWithNotice_iff {h : HandleKind} {state : h.State} {recNumber : Int}
    {a : DiagArgs} (htext : (getDiagRec h state recNumber a).text = some s)
    (ht : (getDiagRec h state recNumber a).buffer.Given)
    (hothers : (getDiagRec h state recNumber a).OthersGiven) (hs : s.length < 2 ^ 15) :
    (getDiagRec h state recNumber a).CutsWithNotice s ↔ (s.length : Int) < a.bufferLength := by
  obtain ⟨e, he, rfl⟩ := Option.map_eq_some_iff.mp htext
  obtain ⟨hstate, hlengthPtr, hcells⟩ := hothers
  have h1 : 1 ≤ a.bufferLength := ht.length.1
  have hmade : (getDiagRec h state recNumber a).made =
      sqlGetDiagRec (h.mErrors state) recNumber a := rfl
  rw [sqlGetDiagRec_of_errorAt he (by omega) hstate hlengthPtr,
    diagWrites_eq ht.text (by omega)] at hmade
  have hpre : ∀ w ∈ ([⟨a.sqlstate, .chars (e.mSqlstate.take 5)⟩,
      ⟨a.sqlstate + 5, .chars ['\x00']⟩] : List Write), w.cell = none := by
    intro w hw
    simp only [List.mem_cons, List.not_mem_nil, or_false] at hw
    rcases hw with rfl | rfl
    · rfl
    · rfl
  refine (cutsWithNotice_iff_of_made hmade).trans
    ((cutWithNotice_iff_of_copy ht hpre charAt_diagCells).trans ?_)
  show _ ∧ (a.textLength ≠ 0 → cellAfter _ a.textLength = some (.smallint e.mMessage.length)) ↔ _
  have hcopied : (copyString e.mMessage a.messageText (toSize a.bufferLength)).2 =
    min e.mMessage.length (a.bufferLength.toNat - 1) := copyString_snd ht
  rw [cellAfter_diagCells hcells, hcopied, toSqlSmallint_of_lt (by omega) (by omega)]
  constructor
  · rintro ⟨-, hreported⟩
    have hlength := hreported hlengthPtr
    simp only [Option.some.injEq, CValue.smallint.injEq] at hlength
    omega
  · intro hlt
    refine ⟨?_, fun _ => ?_⟩
    · rw [if_neg (by omega)]
      exact iff_of_false (by decide) (by show ¬ a.bufferLength ≤ _; omega)
    · rw [min_eq_left (by omega)]

/-! ## Where a text is cut with notice -/

/-- **A text is cut with notice exactly where it is not cut, or the call announces it.** -/
theorem cutsWithNotice_iff {c : TextCall} (h : c.Returns s) :
    c.CutsWithNotice s ↔ (s.length : Int) < c.buffer.length ∨ c.announces = true := by
  obtain ⟨htext, hs, ht, hothers⟩ := h
  rcases c with ⟨ctx, dbc, infoType, a⟩ | ⟨ctx, dbc, attr, a⟩ | ⟨ctx, dbc, conString, a⟩ |
    ⟨ctx, stmt, columnNumber, fieldIdentifier, a⟩ | ⟨ctx, stmt, columnNumber, a⟩ |
    ⟨h, state, recNumber, a⟩
  · exact iff_of_true (getInfo_cutsWithNotice htext ht hs) (.inr rfl)
  · refine iff_of_true (getConnectAttr_cutsWithNotice htext ht) (.inl ?_)
    obtain rfl := getConnectAttr_text htext
    exact ht.length.1
  · exact iff_of_true (driverConnect_cutsWithNotice htext ht hs) (.inr rfl)
  · refine (colAttribute_cutsWithNotice_iff htext ht hs).trans (or_congr Iff.rfl ?_)
    exact decide_eq_true_iff.symm
  · exact (describeCol_cutsWithNotice_iff htext ht hothers hs).trans
      (or_iff_left Bool.false_ne_true).symm
  · exact (getDiagRec_cutsWithNotice_iff htext ht hothers hs).trans
      (or_iff_left Bool.false_ne_true).symm

/-! ### An integer column and a record -/

open RetsSTMT (idleContext selecting eightWide)

/-- The description of the only column. -/
def describeRooms : TextCall :=
  describeCol idleContext (selecting (eightWide "Rooms" .int)) 1 ⟨100, 4, 200, 210, 220, 230, 240⟩

/-- One of its attributes. -/
def attributeOfRooms (fieldIdentifier : Nat) : TextCall :=
  colAttribute idleContext (selecting (eightWide "Rooms" .int)) 1 fieldIdentifier
    ⟨100, 3, 200, 210⟩

/-- A record whose message is as long as the buffer. -/
def diagRecTransact : TextCall :=
  getDiagRec .env HandleKind.afterTransact 1 ⟨100, 200, 300, 27, 400⟩

theorem returns_describeRooms : describeRooms.Returns "Rooms".toList where
  text := rfl
  short := by decide
  buffer := ⟨by decide, by decide⟩
  others := ⟨by decide, by decide⟩

theorem returns_nameOfRooms : (attributeOfRooms 1).Returns "Rooms".toList where
  text := rfl
  short := by decide
  buffer := ⟨by decide, by decide⟩
  others := trivial

theorem returns_typeNameOfRooms : (attributeOfRooms 14).Returns "INT".toList where
  text := rfl
  short := by decide
  buffer := ⟨by decide, by decide⟩
  others := trivial

theorem returns_diagRecTransact :
    diagRecTransact.Returns "SQLTransact not implemented".toList where
  text := rfl
  short := by decide
  buffer := ⟨by decide, by decide⟩
  others := ⟨by decide, by decide, by decide⟩

/-- `SQLColAttribute` announces that the column's name is cut. -/
theorem cutsWithNotice_nameOfRooms : (attributeOfRooms 1).CutsWithNotice "Rooms".toList :=
  (cutsWithNotice_iff returns_nameOfRooms).mpr (.inr rfl)

/-- The same name, the type's name and a message are cut without a word. -/
theorem not_cutsWithNotice_rooms :
    (describeRooms.Returns "Rooms".toList ∧ ¬ describeRooms.CutsWithNotice "Rooms".toList) ∧
      ((attributeOfRooms 14).Returns "INT".toList ∧
        ¬ (attributeOfRooms 14).CutsWithNotice "INT".toList) ∧
      (diagRecTransact.Returns "SQLTransact not implemented".toList ∧
        ¬ diagRecTransact.CutsWithNotice "SQLTransact not implemented".toList) := by
  have hname := returns_describeRooms
  have htype := returns_typeNameOfRooms
  have hrecord := returns_diagRecTransact
  refine ⟨⟨hname, ?_⟩, ⟨htype, ?_⟩, ⟨hrecord, ?_⟩⟩
  · exact (describeCol_cutsWithNotice_iff hname.text hname.buffer hname.others hname.short).not.mpr
      (by decide)
  · exact (colAttribute_cutsWithNotice_iff htype.text htype.buffer htype.short).not.mpr (by decide)
  · exact (getDiagRec_cutsWithNotice_iff hrecord.text hrecord.buffer hrecord.others
      hrecord.short).not.mpr (by decide)

end TextCall

end EzRets
