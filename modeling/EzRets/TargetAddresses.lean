import EzRets.ChunkTermination
import EzRets.WorkerStores

/-!
# EzRets.TargetAddresses — where the row descriptor moves the stores

The bind offset and the data pointer of a record both move the target and the indicator of a column
by the number that the application keeps behind them.  A fetch follows both, `SQLGetData` the data
pointer only; neither asks whether the pointer it moves is null.
-/

namespace EzRets

open FaultRun

/-- What `adjustDescPointer` adds to a pointer. -/
def descShift (deref : Deref) (offset : Ptr) : Nat := if offset ≠ 0 then deref offset else 0

theorem adjustDescPointer_eq (deref : Deref) (offset ptr : Ptr) :
    adjustDescPointer deref offset ptr = ptr + descShift deref offset := by
  unfold adjustDescPointer descShift
  split_ifs
  · rfl
  · exact (Nat.add_zero ptr).symm

namespace Column

variable {deref : Deref} {ard : AppRowDesc} {dt : DataTranslator} {col : Column} {colNo : Nat}
  {b : Binding}

/-! ## The indicator of a fetch -/

theorem adjustTarget_resultSize (deref : Deref) (ard : AppRowDesc) (colNo : Nat) (b : Binding) :
    (adjustTarget deref ard colNo b none).resultSize =
      b.strLenOrInd + descShift deref ard.mBindOffsetPtr +
        descShift deref (ard.getDataPtr colNo) := by
  unfold adjustTarget
  dsimp only
  rw [Option.isNone_none, if_pos rfl, adjustDescPointer_eq, adjustDescPointer_eq]

/-- A fetch of any value leaves the null indicator of a column alone. -/
structure IndicatorStaysNull (deref : Deref) (ard : AppRowDesc) (dt : DataTranslator)
    (col : Column) (colNo : Nat) (b : Binding) : Prop where
  pointer : (adjustTarget deref ard colNo b none).resultSize = 0
  unwritten : ∀ data, ∀ w ∈ (col.setData deref ard dt colNo data b none).writes,
    ∀ n, w.value ≠ .len n

/-- Through a null pointer no worker stores a size. -/
theorem len_unwritten {t : Target} (h : t.resultSize = 0) (dt : DataTranslator) (data : Str)
    (type : Int) : ∀ w ∈ (dt.translate data type t).writes, ∀ n, w.value ≠ .len n := by
  refine DataTranslator.forall_translate ⟨?_, ?_⟩ ?_ dt data type
  · intro size w hw
    unfold setResultSize at hw
    rw [if_neg (not_not.mpr h)] at hw
    cases hw
  · rintro p v hv n rfl
    cases hv
  · exact fun p s n h => nomatch h

/-- **A null indicator stays null** exactly when neither the bind offset nor the data pointer moves
it. -/
theorem indicatorStaysNull_iff (h : b.strLenOrInd = 0) :
    IndicatorStaysNull deref ard dt col colNo b ↔
      descShift deref ard.mBindOffsetPtr = 0 ∧ descShift deref (ard.getDataPtr colNo) = 0 := by
  have hpointer := adjustTarget_resultSize deref ard colNo b
  rw [h, Nat.zero_add] at hpointer
  constructor
  · intro hnull
    rw [hnull.pointer] at hpointer
    exact Nat.add_eq_zero_iff.mp hpointer.symm
  · rintro ⟨hoffset, hdata⟩
    have hzero : (adjustTarget deref ard colNo b none).resultSize = 0 := by
      rw [hpointer, hoffset, hdata]
    exact ⟨hzero, fun data => len_unwritten hzero _ _ _⟩

/-- A column bound without an indicator. -/
def withoutIndicator : Binding := ⟨sqlChar, 100, 50, 0⟩

/-- With a bind offset of nothing the indicator stays null. -/
theorem indicatorStaysNull_new :
    IndicatorStaysNull (fun _ => 0) { AppRowDesc.new with mBindOffsetPtr := 8 } .default
      (faux "A" sqlVarchar) 0 withoutIndicator :=
  (indicatorStaysNull_iff rfl).mpr ⟨rfl, rfl⟩

/-- With a bind offset of 64 the size of a value goes to address 64. -/
theorem not_indicatorStaysNull_offset :
    ¬ IndicatorStaysNull (fun _ => 64) { AppRowDesc.new with mBindOffsetPtr := 8 } .default
      (faux "A" sqlVarchar) 0 withoutIndicator := by
  intro h
  exact h.unwritten [] ⟨64, .len sqlNullData⟩ (by decide) sqlNullData rfl

end Column

namespace RetsSTMT

variable {ctx : CallContext} {stmt : RetsSTMT} {rs : ResultSet} {c : Nat} {column : Column}
  {data : Str}

/-! ## The target of a read -/

/-- The call has something to read: the server's or the driver's text of the column, of which the
stream is not yet at the end. -/
structure ReadsText (stmt : RetsSTMT) (c : Nat) (rs : ResultSet) (column : Column) (data : Str) :
    Prop where
  resultSet : stmt.mQuery.mResultSet = some rs
  getColumn : rs.getColumn c = some column
  text : ∃ row, rs.rows.current = .ok row ∧ row.text column.mName (c - 1) = .ok data
  more : (stmt.streamFor c).status ≠ .noMoreData

/-- The column has something to read. -/
def HasText (stmt : RetsSTMT) (c : Nat) : Prop := ∃ rs column data, ReadsText stmt c rs column data

/-- The stores of a read whose addresses are `shift` away from those passed. -/
def storesAt (shift : Nat) (stmt : RetsSTMT) (c : Nat) (rs : ResultSet) (column : Column)
    (data : Str) (b : Binding) : List Write :=
  (rs.mTranslator.translate (column.modifyData data)
    (column.getBestSqlType rs.mTranslator b.targetType)
    { target := b.targetValue + shift
      targetLen := toSqlInteger b.bufferLength
      resultSize := b.strLenOrInd + shift
      streamInfo := some (stmt.streamFor c) }).writes

/-- Every read of the column stores the value at the addresses that the call passes, and nothing
where there is no value. -/
structure WritesWhereTold (ctx : CallContext) (stmt : RetsSTMT) (c : Nat) : Prop where
  told : ∀ b out rs column data, stmt.sqlGetData ctx c b = .ok out →
    ReadsText stmt c rs column data → out.writes = storesAt 0 stmt c rs column data b
  silent : ∀ b out, stmt.sqlGetData ctx c b = .ok out → ¬ HasText stmt c → out.writes = []

/-- Every read of the column stores the same with either row descriptor. -/
def WritesAlike (ctx : CallContext) (stmt : RetsSTMT) (ard : AppRowDesc) (c : Nat) : Prop :=
  ∀ b out out', stmt.sqlGetData ctx c b = .ok out →
    { stmt with ard := ard }.sqlGetData ctx c b = .ok out' → out.writes = out'.writes

/-- The bind offset does not move a read, the data pointer of the record does. -/
theorem sqlGetData_readsText (ctx : CallContext) (h : ReadsText stmt c rs column data)
    (b : Binding) :
    ∃ out, stmt.sqlGetData ctx c b = .ok out ∧ out.writes =
      storesAt (descShift ctx.deref (stmt.ard.getDataPtr (c - 1 : Nat))) stmt c rs column data
        b := by
  obtain ⟨row, hrow, htext⟩ := h.text
  have hget : rs.getData ctx.deref stmt.ard c b (stmt.streamFor c) =
      .ok (column.setData ctx.deref stmt.ard rs.mTranslator (c - 1) data b
        (some (stmt.streamFor c))) := by
    unfold ResultSet.getData
    rw [h.getColumn, hrow]
    dsimp only
    rw [Except.map, htext]
  obtain ⟨out, hout, -, -, hwrites, -, -⟩ := sqlGetData_of_getData h.resultSet h.more hget
  refine ⟨out, hout, ?_⟩
  rw [hwrites]
  unfold Column.setData Column.adjustTarget storesAt
  dsimp only
  rw [Option.isNone_some, if_neg (by decide), adjustDescPointer_zero, adjustDescPointer_zero,
    adjustDescPointer_eq, adjustDescPointer_eq]

/-- A read without a value stores nothing. -/
theorem sqlGetData_silent {b : Binding} {out : StmtOut} (hout : stmt.sqlGetData ctx c b = .ok out)
    (h : ¬ HasText stmt c) : out.writes = [] := by
  simp only [sqlGetData, bind_eq_ok] at hout
  obtain ⟨bad, -, hout⟩ := hout
  rcases bad with _ | _
  · rw [if_neg (by decide)] at hout
    by_cases hstatus : (stmt.streamFor c).status = .noMoreData
    · have hstatus' : (stmt.clearErrors.streamFor c).status = .noMoreData := hstatus
      rw [if_pos hstatus'] at hout
      cases hout
      rfl
    · have hstatus' : ¬ (stmt.clearErrors.streamFor c).status = .noMoreData := hstatus
      rw [if_neg hstatus'] at hout
      obtain ⟨rs, hrs, hout⟩ := bind_eq_ok.mp hout
      obtain ⟨translated, hget, hout⟩ := bind_eq_ok.mp hout
      have hnone : translated.writes = [] := by
        unfold ResultSet.getData at hget
        split at hget
        · cases hget
          rfl
        · rename_i column hcolumn
          obtain ⟨row, hrow, rfl⟩ := map_eq_ok.mp hget
          split
          · rfl
          · rename_i data htext
            exact absurd ⟨rs, column, data, (resultSet_eq_ok _).mp hrs, hcolumn,
              ⟨row, hrow, htext⟩, hstatus⟩ h
      split at hout
      · split at hout
        · cases hout
          exact hnone
        · cases hout
          exact hnone
      · split_ifs at hout
        · cases hout
          exact hnone
        · cases hout
          exact hnone
  · cases hout
    rfl

/-- A call without room in its buffer stores the size alone, and shows where. -/
theorem storesAt_size (shift : Nat) (stmt : RetsSTMT) (c : Nat) (rs : ResultSet) (column : Column)
    (data : Str) : ∃ n, storesAt shift stmt c rs column data ⟨sqlChar, 1, 0, 1⟩ =
      [⟨1 + shift, .len n⟩] := by
  have htext : IsCharacter sqlChar := .inl rfl
  have hne : 1 + shift ≠ 0 := by omega
  have hsize : ∀ n, setResultSize (1 + shift) n = [⟨1 + shift, .len n⟩] := fun n => if_pos hne
  unfold storesAt
  dsimp only
  rw [Column.getBestSqlType_text _ _ (.inl htext), DataTranslator.translate_character _ htext]
  unfold TranslationWorker.translateCharacter
  dsimp only
  split_ifs with hempty hroom
  · exact ⟨_, hsize _⟩
  · exact absurd hroom.2 (by decide)
  · exact ⟨_, hsize _⟩

theorem storesAt_inj {shift shift' : Nat} (h : ∀ b, storesAt shift stmt c rs column data b =
    storesAt shift' stmt c rs column data b) : shift = shift' := by
  obtain ⟨n, hn⟩ := storesAt_size shift stmt c rs column data
  obtain ⟨n', hn'⟩ := storesAt_size shift' stmt c rs column data
  have hsame := h ⟨sqlChar, 1, 0, 1⟩
  rw [hn, hn'] at hsame
  have hptr : 1 + shift = 1 + shift' := congrArg Write.ptr (List.cons_eq_cons.mp hsame).1
  omega

/-- What a call has to read does not depend on the row descriptor. -/
theorem ReadsText.withDescriptor (h : ReadsText stmt c rs column data) (ard : AppRowDesc) :
    ReadsText { stmt with ard := ard } c rs column data :=
  ⟨h.resultSet, h.getColumn, h.text, h.more⟩

theorem hasText_of_withDescriptor {ard : AppRowDesc} (h : HasText { stmt with ard := ard } c) :
    HasText stmt c := by
  obtain ⟨rs, column, data, hreads⟩ := h
  exact ⟨rs, column, data, hreads.withDescriptor stmt.ard⟩

theorem writesWhereTold_iff_shift (ctx : CallContext) (stmt : RetsSTMT) (c : Nat) :
    WritesWhereTold ctx stmt c ↔
      ¬ HasText stmt c ∨ descShift ctx.deref (stmt.ard.getDataPtr (c - 1 : Nat)) = 0 := by
  constructor
  · intro h
    by_cases htext : HasText stmt c
    · obtain ⟨rs, column, data, hreads⟩ := htext
      have hsame : ∀ b, storesAt (descShift ctx.deref (stmt.ard.getDataPtr (c - 1 : Nat))) stmt c rs
          column data b = storesAt 0 stmt c rs column data b := by
        intro b
        obtain ⟨out, hout, hwrites⟩ := sqlGetData_readsText ctx hreads b
        rw [← hwrites, h.told b out rs column data hout hreads]
      exact .inr (storesAt_inj hsame)
    · exact .inl htext
  · intro h
    refine ⟨fun b out rs column data hout hreads => ?_, fun b out => sqlGetData_silent⟩
    have hshift := h.resolve_left (not_not.mpr ⟨rs, column, data, hreads⟩)
    obtain ⟨out', hout', hwrites⟩ := sqlGetData_readsText ctx hreads b
    rw [hout] at hout'
    cases hout'
    rw [hwrites, hshift]

theorem writesAlike_iff_shift (ctx : CallContext) (stmt : RetsSTMT) (ard : AppRowDesc) (c : Nat) :
    WritesAlike ctx stmt ard c ↔
      ¬ HasText stmt c ∨ descShift ctx.deref (stmt.ard.getDataPtr (c - 1 : Nat)) =
        descShift ctx.deref (ard.getDataPtr (c - 1 : Nat)) := by
  constructor
  · intro h
    by_cases htext : HasText stmt c
    · obtain ⟨rs, column, data, hreads⟩ := htext
      have hsame : ∀ b, storesAt (descShift ctx.deref (stmt.ard.getDataPtr (c - 1 : Nat))) stmt c rs
          column data b = storesAt (descShift ctx.deref (ard.getDataPtr (c - 1 : Nat))) stmt c rs
            column data b := by
        intro b
        obtain ⟨out, hout, hwrites⟩ := sqlGetData_readsText ctx hreads b
        obtain ⟨out', hout', hwrites'⟩ :=
          sqlGetData_readsText ctx (hreads.withDescriptor ard) b
        rw [← hwrites, h b out out' hout hout', hwrites']
        rfl
      exact .inr (storesAt_inj hsame)
    · exact .inl htext
  · intro h b out out' hout hout'
    by_cases htext : HasText stmt c
    · obtain ⟨rs, column, data, hreads⟩ := htext
      have hshift := h.resolve_left (not_not.mpr ⟨rs, column, data, hreads⟩)
      obtain ⟨out₁, hout₁, hwrites⟩ := sqlGetData_readsText ctx hreads b
      obtain ⟨out₂, hout₂, hwrites'⟩ :=
        sqlGetData_readsText ctx (hreads.withDescriptor ard) b
      rw [hout] at hout₁
      rw [hout'] at hout₂
      cases hout₁
      cases hout₂
      rw [hwrites, hwrites', hshift]
      rfl
    · rw [sqlGetData_silent hout htext,
        sqlGetData_silent hout' fun h => htext (hasText_of_withDescriptor h)]

/-- **`SQLGetData` writes where it is told** exactly when the column has nothing to read or no data
pointer moves it, and two row descriptors give the same stores exactly when their data pointers
move the column alike. -/
theorem writesWhereTold_iff (ctx : CallContext) (stmt : RetsSTMT) (c : Nat) :
    (WritesWhereTold ctx stmt c ↔
      ¬ HasText stmt c ∨ descShift ctx.deref (stmt.ard.getDataPtr (c - 1 : Nat)) = 0) ∧
    ∀ ard, WritesAlike ctx stmt ard c ↔
      ¬ HasText stmt c ∨ descShift ctx.deref (stmt.ard.getDataPtr (c - 1 : Nat)) =
        descShift ctx.deref (ard.getDataPtr (c - 1 : Nat)) :=
  ⟨writesWhereTold_iff_shift ctx stmt c, fun ard => writesAlike_iff_shift ctx stmt ard c⟩

/-- An application that keeps 64 behind every pointer. -/
def movedContext : CallContext := { idleContext with deref := fun _ => 64 }

/-- A data pointer for record 1 moves the reads of column 1 by 64 bytes. -/
theorem not_writesWhereTold_dataPtr :
    ¬ WritesWhereTold movedContext (countRow.sqlSetDescField .ard 1 sqlDescDataPtr 500).stmt 1 := by
  rw [writesWhereTold_iff_shift, not_or, not_not]
  have hmore : ((countRow.sqlSetDescField .ard 1 sqlDescDataPtr 500).stmt.streamFor 1).status ≠
      .noMoreData := by decide
  exact ⟨⟨_, _, _, rfl, rfl, ⟨_, rfl, rfl⟩, hmore⟩, by decide⟩

end RetsSTMT

end EzRets
