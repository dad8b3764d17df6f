import EzRets.FetchTruncation
import EzRets.Lib.Chunks

/-!
# EzRets.GetData — reading a column in portions

`SQLGetData` delivers a column value over several calls.  The offset, the status and the column it
belongs to live in one `DataStreamInfo` for all columns, so the invariant speaks of the state that a
call on a given column starts from: the stored one, or a fresh one after another column.
-/

namespace EzRets

open FaultRun

theorem Column.getBestSqlType_text (dt : DataTranslator) (col : Column) {type : Int}
    (h : IsCharacter type ∨ IsBinary type) : col.getBestSqlType dt type = type := by
  rcases h with (rfl | rfl) | (rfl | rfl | rfl) <;> rfl

/-- What fits into the buffer of a read: character data leaves room for its terminator. -/
def Binding.capacity (b : Binding) : Nat :=
  if IsCharacter b.targetType then (b.bufferLength - 1).toNat else b.bufferLength.toNat

/-- A character or binary target with a buffer length from 0 to 2^31-1 and an indicator. -/
structure Binding.IsRead (b : Binding) : Prop where
  text : IsCharacter b.targetType ∨ IsBinary b.targetType
  target : b.targetValue ≠ 0
  indicator : b.strLenOrInd ≠ 0
  nonneg : 0 ≤ b.bufferLength
  lt : b.bufferLength < 2 ^ 31

/-! ## Streaming workers -/

section Streaming

variable {v : Str} {t : Target} {info : DataStreamInfo}

theorem lenAfter_eq_none {ws : List Write} {p : Ptr} (h : ∀ w ∈ ws, w.lenAt p = none) :
    lenAfter ws p = none := by
  induction ws with
  | nil => rfl
  | cons w ws ih =>
    have hw : w.lenAt p = none := h w (by simp)
    have hws : lenAfter ws p = none := ih fun w' hw' => h w' (by simp [hw'])
    rw [lenAfter_cons, hw, hws]
    rfl

/-- What a streaming worker leaves, whatever happens, belongs to the same column. -/
theorem translate_column (dt : DataTranslator) {type : Int}
    (h : IsCharacter type ∨ IsBinary type) (ht : t.streamInfo = some info) :
    ∃ info', (dt.translate v type t).streamInfo = some info' ∧ info'.column = info.column := by
  rcases h with h | h
  · rw [dt.translate_character h]
    unfold TranslationWorker.translateCharacter
    split
    · exact ⟨info, ht, rfl⟩
    · simp only [ht]
      split
      · split
        · exact ⟨info, ht, rfl⟩
        · exact ⟨_, rfl, rfl⟩
      · exact ⟨_, rfl, rfl⟩
  · rw [dt.translate_binary h]
    unfold TranslationWorker.translateBinary
    split
    · exact ⟨info, ht, rfl⟩
    · simp only [ht]
      split
      · exact ⟨info, ht, rfl⟩
      · exact ⟨_, rfl, rfl⟩

/-- A streaming worker stores lengths at the indicator only. -/
theorem lenAt_translate (dt : DataTranslator) {type : Int} {p : Ptr}
    (h : IsCharacter type ∨ IsBinary type) (ht : t.streamInfo = some info)
    (hp : p ≠ t.resultSize) : ∀ w ∈ (dt.translate v type t).writes, w.lenAt p = none := by
  have hsize : ∀ {n : Int}, ∀ w ∈ setResultSize t.resultSize n, w.lenAt p = none :=
    lenAt_setResultSize hp
  rcases h with h | h
  · rw [dt.translate_character h]
    unfold TranslationWorker.translateCharacter
    split
    · exact hsize
    · simp only [ht]
      split
      · split
        · intro w hw
          cases hw
        · intro w hw
          rcases List.mem_append.mp hw with hw | hw
          · simp only [List.mem_cons, List.not_mem_nil, or_false] at hw
            rcases hw with rfl | rfl <;> rfl
          · exact hsize w hw
      · exact hsize
  · rw [dt.translate_binary h]
    unfold TranslationWorker.translateBinary
    split
    · exact hsize
    · simp only [ht]
      split
      · intro w hw
        cases hw
      · intro w hw
        rcases List.mem_append.mp hw with hw | hw
        · split at hw
          · rw [List.mem_singleton] at hw
            subst hw
            rfl
          · cases hw
        · exact hsize w hw

/-- What one portion leaves behind: the next elements in the buffer, what remained before in the
indicator, and the offset and status after it. -/
structure Portion (v : Str) (off capacity : Nat) (t : Target) (info : DataStreamInfo)
    (out : Translated) : Prop where
  thrown : out.thrown = none
  streamInfo : out.streamInfo = some (info.advance (Chunks.chunk v off capacity).length v.length)
  indicator : lenAfter out.writes t.resultSize = some (v.length - off : Int)
  buffer : ∀ i < (Chunks.chunk v off capacity).length,
    charAfter out.writes (t.target + i) = (Chunks.chunk v off capacity)[i]?

/-- **A streamed copy** into a buffer with room for data: the terminator goes to the last byte. -/
theorem translateCharacter_streamed (hv : v ≠ []) (ht : t.streamInfo = some info)
    (hoff : info.offset ≤ v.length) (htarget : t.target ≠ 0) (hlen : t.targetLen - 1 > 0)
    (h31 : t.targetLen < 2 ^ 31) :
    TranslationWorker.translateCharacter v t =
      ⟨[⟨t.target, .chars (Chunks.chunk v info.offset (t.targetLen - 1).toNat)⟩,
          ⟨t.target + (t.targetLen - 1).toNat, .chars ['\x00']⟩] ++
        setResultSize t.resultSize (v.length - info.offset),
        some (info.advance (Chunks.chunk v info.offset (t.targetLen - 1).toNat).length v.length),
        none⟩ := by
  have hempty : v.isEmpty = false := by simpa using hv
  have htoSize : toSize (t.targetLen - 1) = (t.targetLen - 1).toNat :=
    toSize_of_lt (by omega) (by omega)
  simp only [TranslationWorker.translateCharacter, hempty, Bool.false_eq_true, if_false, ht]
  rw [if_pos ⟨htarget, hlen⟩, htoSize, copyFrom, if_pos hoff]
  rfl

/-- The characters that a streamed copy leaves in the buffer. -/
theorem charAfter_streamed (chunk : Str) (p room i : Nat) {post : List Write}
    (hpost : ∀ w ∈ post, w.charAt (p + i) = none) :
    charAfter ([⟨p, .chars chunk⟩, ⟨p + room, .chars ['\x00']⟩] ++ post) (p + i) =
      if i = room then some '\x00' else chunk[i]? := by
  rw [charAfter_append, charAfter_eq_none hpost, Option.none_or, charAfter_cons, charAfter_cons,
    charAfter_nil, Option.none_or, charAt_chars_add]
  by_cases hi : i = room
  · have hnul := charAt_chars_add (p + room) 0 ['\x00']
    rw [Nat.add_zero] at hnul
    rw [if_pos hi, hi, hnul]
    rfl
  · have hlength : ['\x00'].length = 1 := rfl
    rw [if_neg hi, charAt_chars_eq_none (by omega), Option.none_or]

theorem portion_character (hv : v ≠ []) (ht : t.streamInfo = some info)
    (hoff : info.offset ≤ v.length) (htarget : t.target ≠ 0) (hind : t.resultSize ≠ 0)
    (h31 : t.targetLen < 2 ^ 31) :
    Portion v info.offset (t.targetLen - 1).toNat t info
      (TranslationWorker.translateCharacter v t) := by
  have hempty : v.isEmpty = false := by simpa using hv
  by_cases hlen : t.targetLen - 1 > 0
  · rw [translateCharacter_streamed hv ht hoff htarget hlen h31]
    refine ⟨rfl, rfl, ?_, fun i hi => ?_⟩
    · rw [lenAfter_append, lenAfter_setResultSize hind]
      rfl
    · have hroom := Chunks.length_chunk v info.offset (t.targetLen - 1).toNat
      rw [charAfter_streamed _ _ _ _ charAt_setResultSize, if_neg (by omega)]
  · have hcapacity : (t.targetLen - 1).toNat = 0 := by omega
    have hchunk : Chunks.chunk v info.offset (t.targetLen - 1).toNat = [] := by
      rw [hcapacity, Chunks.chunk, List.take_zero]
    have hout : TranslationWorker.translateCharacter v t =
        ⟨setResultSize t.resultSize (v.length - info.offset), some (info.advance 0 v.length),
          none⟩ := by
      simp only [TranslationWorker.translateCharacter, hempty, Bool.false_eq_true, if_false, ht]
      rw [if_neg fun h => hlen h.2]
    rw [hout]
    refine ⟨rfl, ?_, lenAfter_setResultSize hind, fun i hi => ?_⟩
    · rw [hchunk]
      rfl
    · rw [hchunk] at hi
      exact absurd hi (Nat.not_lt_zero i)

theorem portion_binary (hv : v ≠ []) (ht : t.streamInfo = some info)
    (hoff : info.offset ≤ v.length) (hv31 : v.length < 2 ^ 31) (htarget : t.target ≠ 0)
    (hind : t.resultSize ≠ 0) (hlen : 0 ≤ t.targetLen) (h31 : t.targetLen < 2 ^ 31) :
    Portion v info.offset t.targetLen.toNat t info (TranslationWorker.translateBinary v t) := by
  have hempty : v.isEmpty = false := by simpa using hv
  have hsize : ∀ {p : Ptr} {n : Int}, charAfter (setResultSize t.resultSize n) p = none :=
    charAfter_eq_none charAt_setResultSize
  have hlength : toSize t.targetLen = t.targetLen.toNat := toSize_of_lt hlen (by omega)
  have hoffset : toSize (toSqlInteger info.offset) = info.offset := by
    rw [toSqlInteger_of_lt (by omega) (by omega)]
    exact toSize_natCast (by omega)
  have hout : TranslationWorker.translateBinary v t =
      ⟨⟨t.target, .chars (Chunks.chunk v info.offset t.targetLen.toNat)⟩ ::
        setResultSize t.resultSize (v.length - info.offset),
        some (info.advance (Chunks.chunk v info.offset t.targetLen.toNat).length v.length),
        none⟩ := by
    simp [TranslationWorker.translateBinary, hempty, ht, htarget, copyFrom, hoff, hlength,
      hoffset, Chunks.chunk]
  rw [hout]
  refine ⟨rfl, rfl, ?_, fun i hi => ?_⟩
  · rw [lenAfter_cons, lenAfter_setResultSize hind]
    rfl
  · rw [charAfter_cons, hsize, Option.none_or, charAt_chars_add]

end Streaming

/-! ## One call -/

/-- The worker that a read of column `c` goes to. -/
def ResultSet.readWorker (rs : ResultSet) (c : Nat) (targetType : Int) :
    Option TranslationWorker :=
  (rs.getColumn c).bind fun column =>
    rs.mTranslator.worker (column.getBestSqlType rs.mTranslator targetType)

/-- A read does what its worker does with the value. -/
theorem ResultSet.getData_serves {rs : ResultSet} {c : Nat} {b : Binding} {v : Str}
    {w : TranslationWorker} (hv : rs.value c = some v) (hw : rs.readWorker c b.targetType = some w)
    (deref : Deref) (ard : AppRowDesc) (info : DataStreamInfo) :
    ∃ out, rs.getData deref ard c b info = .ok out ∧ DataTranslator.Serves out
      (w.translate v (Column.adjustTarget deref ard (c - 1) b (some info))) := by
  obtain ⟨column, row, data, hcolumn, hrow, htext, rfl⟩ := ResultSet.value_eq_some hv
  unfold ResultSet.readWorker at hw
  rw [hcolumn] at hw
  unfold ResultSet.getData
  rw [hcolumn, hrow]
  dsimp only
  rw [Except.map, htext]
  exact ⟨_, rfl, DataTranslator.serves_translate hw _ _⟩

theorem ResultSet.getData_of_value {deref : Deref} {ard : AppRowDesc} {rs : ResultSet} {c : Nat}
    {b : Binding} {info : DataStreamInfo} {v : Str} (hv : rs.value c = some v)
    (h : IsCharacter b.targetType ∨ IsBinary b.targetType) :
    rs.getData deref ard c b info = .ok (rs.mTranslator.translate v b.targetType
      (Column.adjustTarget deref ard (c - 1) b (some info))) := by
  obtain ⟨column, row, data, hcolumn, hrow, htext, rfl⟩ := ResultSet.value_eq_some hv
  simp only [ResultSet.getData, hcolumn, hrow, Except.map, htext, Column.setData,
    Column.getBestSqlType_text _ _ h]

namespace RetsSTMT

section Call

variable {ctx : CallContext} {stmt : RetsSTMT} {rs : ResultSet} {row : RowData} {c : Nat}
  {b : Binding} {v : Str}

theorem isBadColumn_of_some (hrs : stmt.mQuery.mResultSet = some rs) (n : Nat) :
    stmt.isBadColumn n = .ok false := by
  have hrs' := (resultSet_eq_ok stmt).mpr hrs
  unfold isBadColumn
  split
  · rename_i hn
    have hcount : ¬ n > rs.columnCount := by omega
    simp [hrs', Except.map, hcount]
  · rfl

theorem streamFor_column (stmt : RetsSTMT) (c : Nat) : (stmt.streamFor c).column = c := by
  unfold streamFor
  split
  · rfl
  · rename_i h
    exact not_not.mp h

/-- Another column starts afresh. -/
theorem streamFor_of_ne (h : stmt.mDataStreamInfo.column ≠ c) :
    stmt.streamFor c = { DataStreamInfo.reset with column := c } := if_pos h

theorem streamFor_of_eq (h : stmt.mDataStreamInfo.column = c) :
    stmt.streamFor c = stmt.mDataStreamInfo := if_neg (not_not.mpr h)

theorem sqlGetData_noData (ctx : CallContext) (b : Binding)
    (hrs : stmt.mQuery.mResultSet = some rs)
    (hstatus : (stmt.streamFor c).status = .noMoreData) :
    stmt.sqlGetData ctx c b =
      .ok ({ stmt.clearErrors with mDataStreamInfo := stmt.streamFor c }.returns .noData) := by
  have hbad : stmt.clearErrors.isBadColumn c = .ok false := isBadColumn_of_some hrs c
  have hstatus' : (stmt.clearErrors.streamFor c).status = .noMoreData := hstatus
  simp only [sqlGetData, hbad, bind, Except.bind, Bool.false_eq_true, if_false]
  rw [if_pos hstatus']
  rfl

/-- The return code or exception of a read whose translation ended as `translated` and left the
stream `info`. -/
def readResult (translated : Translated) (info : DataStreamInfo) : Except Exn SqlReturn :=
  match translated.thrown with
  | some e =>
    match getDataError e with
    | some (_, result) => .ok result
    | none => .error e
  | none => .ok (if info.status = .hasMoreData then .successWithInfo else .success)

theorem readResult_of_none {translated : Translated} (h : translated.thrown = none)
    (info : DataStreamInfo) : readResult translated info =
      .ok (if info.status = .hasMoreData then .successWithInfo else .success) := by
  unfold readResult
  rw [h]

/-- **A read that is not at the end** stores what `getData` stores and keeps the stream that it
leaves. -/
theorem sqlGetData_of_getData {translated : Translated} (hrs : stmt.mQuery.mResultSet = some rs)
    (hstatus : (stmt.streamFor c).status ≠ .noMoreData)
    (hget : rs.getData ctx.deref stmt.ard c b (stmt.streamFor c) = .ok translated) :
    ∃ out, stmt.sqlGetData ctx c b = .ok out ∧ out.stmt.mQuery = stmt.mQuery ∧
      out.stmt.ard = stmt.ard ∧ out.writes = translated.writes ∧
      out.stmt.mDataStreamInfo = translated.streamInfo.getD (stmt.streamFor c) ∧
      out.result = readResult translated (translated.streamInfo.getD (stmt.streamFor c)) := by
  have hbad : stmt.clearErrors.isBadColumn c = .ok false := isBadColumn_of_some hrs c
  have hstream : stmt.clearErrors.streamFor c = stmt.streamFor c := rfl
  have hrs' : ({ stmt.clearErrors with mDataStreamInfo := stmt.streamFor c } : RetsSTMT).resultSet =
      .ok rs := (resultSet_eq_ok _).mpr hrs
  have hget' : rs.getData ctx.deref stmt.clearErrors.ard c b (stmt.streamFor c) =
      .ok translated := hget
  simp only [sqlGetData, hbad, bind, Except.bind, Bool.false_eq_true, if_false, hstream]
  rw [if_neg hstatus, hrs']
  dsimp only
  rw [hget']
  unfold readResult
  dsimp only
  rcases hthrown : translated.thrown with _ | e
  · dsimp only
    by_cases hmore : (translated.streamInfo.getD (stmt.streamFor c)).status = .hasMoreData
    · rw [if_pos hmore, if_pos hmore]
      exact ⟨_, rfl, rfl, rfl, rfl, rfl, rfl⟩
    · rw [if_neg hmore, if_neg hmore]
      exact ⟨_, rfl, rfl, rfl, rfl, rfl, rfl⟩
  · rcases hrecord : getDataError e with _ | record
    · simp only [hrecord]
      exact ⟨_, rfl, rfl, rfl, rfl, rfl, rfl⟩
    · simp only [hrecord]
      exact ⟨_, rfl, rfl, rfl, rfl, rfl, rfl⟩

/-- **Any read on a row** leaves the row where it is and the stream at the column it was for. -/
theorem sqlGetData_column (hrs : stmt.mQuery.mResultSet = some rs)
    (hcurrent : rs.rows.current = .ok row)
    (h : IsCharacter b.targetType ∨ IsBinary b.targetType) :
    ∃ out, stmt.sqlGetData ctx c b = .ok out ∧ out.stmt.mQuery = stmt.mQuery ∧
      out.stmt.ard = stmt.ard ∧ out.stmt.mDataStreamInfo.column = c := by
  by_cases hstatus : (stmt.streamFor c).status = .noMoreData
  · exact ⟨_, sqlGetData_noData _ _ hrs hstatus, rfl, rfl, streamFor_column stmt c⟩
  · have hget : ∃ translated info, rs.getData ctx.deref stmt.ard c b (stmt.streamFor c) =
        .ok translated ∧ translated.streamInfo = some info ∧ info.column = c := by
      unfold ResultSet.getData
      split
      · exact ⟨_, _, rfl, rfl, streamFor_column stmt c⟩
      · rename_i column hcolumn
        rw [hcurrent, Except.map]
        split
        · exact ⟨_, _, rfl, rfl, streamFor_column stmt c⟩
        · rename_i data htext
          have hbest := Column.getBestSqlType_text rs.mTranslator column h
          rw [Column.setData, hbest]
          obtain ⟨info, hinfo, hc⟩ := translate_column (v := column.modifyData data)
            (t := Column.adjustTarget ctx.deref stmt.ard (c - 1) b (some (stmt.streamFor c)))
            rs.mTranslator h rfl
          exact ⟨_, info, rfl, hinfo, hc.trans (streamFor_column stmt c)⟩
    obtain ⟨translated, info, hget, hinfo, hc⟩ := hget
    obtain ⟨out, hout, hq, hard, -, hstream, -⟩ := sqlGetData_of_getData hrs hstatus hget
    rw [hinfo] at hstream
    exact ⟨out, hout, hq, hard, hstream ▸ hc⟩

end Call

end RetsSTMT

end EzRets
