import EzRets.FetchTruncation
import EzRets.GetData

/-!
# EzRets.Delivery — what a fetch or a read of a catalog row delivers

The application sees a call through its memory, the return code and the records.  For a fetch and
for `SQLGetData` these depend on the translator of the result set through the values of the row only.
-/

namespace EzRets

open FaultRun

/-- What the application sees of a fetch or a read: the texts and the cells that it finds in its
memory, the return code or exception, the records, and where the next read of the column starts. -/
structure Delivery where
  text : Ptr → Option Char
  cell : Ptr → Option CValue
  outcome : Except Exn SqlReturn
  records : List Error
  stream : DataStreamInfo

def StmtOut.delivery (out : StmtOut) : Delivery :=
  ⟨charAfter out.writes, cellAfter out.writes, out.result, out.stmt.mErrors,
    out.stmt.mDataStreamInfo⟩

/-- The result set with the rows `rows` and the binding `bound i` at the column of index `i`. -/
def ResultSet.reading (rs : ResultSet) (bound : Nat → Option Binding) (rows : BulkRows) :
    ResultSet :=
  { rs with
    mColumns := rs.mColumns.mapIdx fun i col => { col with binding := bound i }
    rows := .bulk rows }

namespace RetsSTMT

section Delivered

variable {ctx : CallContext} {stmt : RetsSTMT} {rs : ResultSet}

/-- What a fetch delivers whose columns were sent `sent`; `cut` is what ends the loop over them. -/
def fetchDelivery (stmt : RetsSTMT) (sent : List Write × Option Exn) (cut : Option Exn) :
    Delivery :=
  match sent.2.or cut with
  | none =>
    StmtOut.delivery ⟨{ stmt with mErrors := [], mDataStreamInfo := .reset }, .ok .success,
      sent.1 ++ storeIf stmt.ird.mRowsProcessedPtr (.uinteger 1) ++
        storeIf stmt.ird.mArrayStatusPtr (.smallint sqlRowSuccess)⟩
  | some e =>
    match fetchError e with
    | some record =>
      StmtOut.delivery ⟨{ stmt with mErrors := [record], mDataStreamInfo := .reset }, .ok .error,
        sent.1 ++ storeIf stmt.ird.mArrayStatusPtr (.smallint sqlRowError)⟩
    | none =>
      StmtOut.delivery ⟨{ stmt with mErrors := [], mDataStreamInfo := .reset }, .error e, sent.1⟩

/-- **What a fetch delivers** depends on the translator through the cells of the row only. -/
theorem sqlFetch_delivery (hrs : stmt.mQuery.mResultSet = some rs) {rs' : ResultSet} {row : RowData}
    (hmove : rs.MovesTo row rs') :
    (stmt.sqlFetch ctx).map StmtOut.delivery =
      .ok (stmt.fetchDelivery
        (setCells ctx.deref stmt.ard rs.mTranslator 0 (row.cells rs.mColumns).cells)
        (row.cells rs.mColumns).thrown) := by
  obtain ⟨hempty, rows, rows', hnext, hadvance, rfl⟩ := hmove
  have hprocess : ({ rs with rows := rows } : ResultSet).processNextRow ctx.deref stmt.ard = _ :=
    ResultSet.processNextRow_of_advance ctx.deref stmt.ard hadvance
  rw [sqlFetch_of_hasNext ctx hrs hempty, hnext]
  generalize setCells ctx.deref stmt.ard rs.mTranslator 0 (row.cells rs.mColumns).cells = sent
    at hprocess ⊢
  unfold fetchRow fetchDelivery
  show Except.map _ (ResultSet.processNextRow ctx.deref stmt.ard _ >>= _) = _
  rw [hprocess]
  simp only [bind, Except.bind]
  rcases sent.2.or (row.cells rs.mColumns).thrown with _ | e
  · rfl
  · dsimp only
    rcases fetchError e with _ | record
    · rfl
    · rfl

/-- What a read delivers whose translation is `got`. -/
def readDelivery (stmt : RetsSTMT) (info : DataStreamInfo) (got : Translated) : Delivery :=
  let next := got.streamInfo.getD info
  match got.thrown with
  | some e =>
    match getDataError e with
    | some (record, result) =>
      StmtOut.delivery ⟨{ stmt with mErrors := [record], mDataStreamInfo := next }, .ok result,
        got.writes⟩
    | none =>
      StmtOut.delivery ⟨{ stmt with mErrors := [], mDataStreamInfo := next }, .error e, got.writes⟩
  | none =>
    if next.status = .hasMoreData then
      StmtOut.delivery
        ⟨{ stmt with mErrors := [.of "01004" "Data truncated"], mDataStreamInfo := next },
          .ok .successWithInfo, got.writes⟩
    else
      StmtOut.delivery ⟨{ stmt with mErrors := [], mDataStreamInfo := next }, .ok .success,
        got.writes⟩

/-- **What a read delivers** depends on the translator through the value only. -/
theorem sqlGetData_delivery {n : Nat} {b : Binding} {got : Translated}
    (hrs : stmt.mQuery.mResultSet = some rs) (hstatus : (stmt.streamFor n).status ≠ .noMoreData)
    (hget : rs.getData ctx.deref stmt.ard n b (stmt.streamFor n) = .ok got) :
    (stmt.sqlGetData ctx n b).map StmtOut.delivery =
      .ok (stmt.readDelivery (stmt.streamFor n) got) := by
  have hbad : stmt.clearErrors.isBadColumn n = .ok false := isBadColumn_of_some hrs n
  have hstream : stmt.clearErrors.streamFor n = stmt.streamFor n := rfl
  have hrs' : ({ stmt.clearErrors with mDataStreamInfo := stmt.streamFor n } : RetsSTMT).resultSet =
      .ok rs := (resultSet_eq_ok _).mpr hrs
  have hget' : rs.getData ctx.deref stmt.clearErrors.ard n b (stmt.streamFor n) =
      .ok got := hget
  simp only [sqlGetData, hbad, bind, Except.bind, Bool.false_eq_true, if_false, hstream]
  rw [if_neg hstatus, hrs']
  dsimp only
  rw [hget']
  unfold readDelivery
  dsimp only
  rcases got.thrown with _ | e
  · dsimp only
    split_ifs
    · rfl
    · rfl
  · dsimp only
    rcases getDataError e with _ | ⟨record, result⟩
    · rfl
    · rfl

/-- The status stores behind those of the columns are no text. -/
theorem fetchDelivery_text (stmt : RetsSTMT) (sent : List Write × Option Exn) (cut : Option Exn)
    (p : Ptr) : (stmt.fetchDelivery sent cut).text p = charAfter sent.1 p := by
  have hstatus : ∀ {q : Ptr} {v : CValue}, (∀ s, v ≠ .chars s) → (∀ n, v ≠ .len n) →
      charAfter (storeIf q v) p = none := fun hc hl =>
    charAfter_eq_none fun w hw => (isStatus_storeIf hc hl w hw).1 p
  unfold fetchDelivery
  rcases sent.2.or cut with _ | e
  · show charAfter (sent.1 ++ _ ++ _) p = _
    rw [charAfter_append, charAfter_append, hstatus (by simp) (by simp),
      hstatus (by simp) (by simp), Option.none_or, Option.none_or]
  · dsimp only
    rcases fetchError e with _ | record
    · rfl
    · show charAfter (sent.1 ++ _) p = _
      rw [charAfter_append, hstatus (by simp) (by simp), Option.none_or]

theorem readDelivery_text (stmt : RetsSTMT) (info : DataStreamInfo) (got : Translated) (p : Ptr) :
    (stmt.readDelivery info got).text p = charAfter got.writes p := by
  unfold readDelivery
  dsimp only
  rcases got.thrown with _ | e
  · dsimp only
    split_ifs <;> rfl
  · dsimp only
    rcases getDataError e with _ | ⟨record, result⟩ <;> rfl

end Delivered

/-! ## Result sets of columns with a type of their own -/

section Faux

variable {cols : List Column} {row : List Str} {bound : Nat → Option Binding} {rows : BulkRows}

/-- The columns have types of their own, not those of the metadata. -/
def AllFaux (cols : List Column) : Prop :=
  ∀ col ∈ cols, ∃ defaultType maxLength, col.kind = .faux defaultType maxLength

/-- A value of such a column goes to the translator as it is. -/
theorem setData_faux {col : Column}
    (hcol : ∃ defaultType maxLength, col.kind = .faux defaultType maxLength)
    (deref : Deref) (ard : AppRowDesc) (dt : DataTranslator) (bound : Option Binding) (i : Nat)
    (data : Str) (b : Binding) (streamInfo : Option DataStreamInfo) :
    ({ col with binding := bound } : Column).setData deref ard dt i data b streamInfo =
      dt.translate data (col.getBestSqlType .default b.targetType)
        (Column.adjustTarget deref ard i b streamInfo) := by
  obtain ⟨defaultType, maxLength, hkind⟩ := hcol
  simp only [Column.setData, Column.modifyData, Column.getBestSqlType, hkind]

/-- The cells of the row, bound as `bound` says. -/
theorem reading_cell {dt : DataTranslator} {j : Nat} {cell : Column × Str}
    (h : ((RowData.bulk row).cells
      ((bulkResultSet dt cols).reading bound rows).mColumns).cells[j]? = some cell) :
    ∃ col, cols[j]? = some col ∧ cell.1 = { col with binding := bound j } ∧
      row[j]? = some cell.2 := by
  obtain ⟨hcol, hdata⟩ := List.getElem?_zip_eq_some.mp h
  have hmap : (cols.mapIdx fun i col => { col with binding := bound i })[j]? = some cell.1 := hcol
  rw [List.getElem?_mapIdx] at hmap
  obtain ⟨col, hcol, hcell⟩ := Option.map_eq_some_iff.mp hmap
  exact ⟨col, hcol, hcell.symm, hdata⟩

/-- What is sent for a cell of such a column. -/
theorem cellData_faux (hfaux : AllFaux cols) {deref : Deref} {ard : AppRowDesc}
    {dt : DataTranslator} {j : Nat} {cell : Column × Str}
    (h : ((RowData.bulk row).cells
      ((bulkResultSet dt cols).reading bound rows).mColumns).cells[j]? = some cell) :
    (bound j = none ∧ ∀ dt', cellData deref ard dt' j cell = ⟨[], none, none⟩) ∨
      ∃ b col data, bound j = some b ∧ cols[j]? = some col ∧ row[j]? = some data ∧
        ∀ dt', cellData deref ard dt' j cell =
          dt'.translate data (col.getBestSqlType .default b.targetType)
            (Column.adjustTarget deref ard j b none) := by
  obtain ⟨col, hcol, hcell, hdata⟩ := reading_cell h
  obtain ⟨column, data⟩ := cell
  obtain rfl : column = { col with binding := bound j } := hcell
  rcases hb : bound j with _ | b
  · left
    refine ⟨rfl, fun dt' => ?_⟩
    simp only [cellData]
  · right
    refine ⟨b, col, data, rfl, hcol, hdata, fun dt' => ?_⟩
    have hset := setData_faux (hfaux col (List.mem_of_getElem? hcol)) deref ard dt' (bound j) j
      data b none
    rw [hb] at hset
    simp only [cellData]
    exact hset

theorem setCells_congr {deref : Deref} {ard : AppRowDesc} {dt dt' : DataTranslator} {count : Nat}
    {cells : List (Column × Str)} (h : ∀ j cell, cells[j]? = some cell →
      cellData deref ard dt (count + j) cell = cellData deref ard dt' (count + j) cell) :
    setCells deref ard dt count cells = setCells deref ard dt' count cells := by
  induction cells generalizing count with
  | nil => rfl
  | cons first cells ih =>
    have hfirst := h 0 first rfl
    have hrest : setCells deref ard dt (count + 1) cells =
        setCells deref ard dt' (count + 1) cells := by
      refine ih fun j cell hj => ?_
      have hj' := h (j + 1) cell hj
      rwa [Nat.add_comm j 1, ← Nat.add_assoc] at hj'
    rw [Nat.add_zero] at hfirst
    rw [setCells, setCells, hfirst, hrest]

/-! ## Reads -/

section Read

variable {n i : Nat} {b : Binding} {col : Column} {data : Str} {info : DataStreamInfo}
  {deref : Deref} {ard : AppRowDesc}

/-- A read of a value of such a column. -/
theorem getData_faux (hfaux : AllFaux cols) (hcol : cols[i]? = some col)
    (hdata : row[i]? = some data) (hrow : rows.mResults[rows.mResultIterator]? = some row)
    (dt : DataTranslator) :
    ((bulkResultSet dt cols).reading bound rows).getData deref ard (i + 1) b info =
      .ok (dt.translate data (col.getBestSqlType .default b.targetType)
        (Column.adjustTarget deref ard i b (some info))) := by
  have hcurrent : (RowSource.bulk rows).current = .ok (.bulk row) := by
    simp only [RowSource.current, hrow]
  have hcolumn : ((bulkResultSet dt cols).reading bound rows).getColumn (i + 1) =
      some { col with binding := bound i } := by
    show (cols.mapIdx fun i col => { col with binding := bound i })[i]? = _
    rw [List.getElem?_mapIdx, hcol]
    rfl
  have hset := setData_faux (hfaux col (List.mem_of_getElem? hcol)) deref ard dt (bound i) i data b
    (some info)
  unfold ResultSet.getData
  rw [hcolumn]
  show ((RowSource.bulk rows).current).map _ = _
  rw [hcurrent]
  simp only [Except.map, RowData.text, Nat.add_sub_cancel, hdata]
  exact congrArg Except.ok hset

/-- A read of a column or a value that the row does not have. -/
theorem getData_outOfRange (hrow : rows.mResults[rows.mResultIterator]? = some row)
    (h : n = 0 ∨ cols[n - 1]? = none ∨ row[n - 1]? = none) (dt : DataTranslator) :
    ((bulkResultSet dt cols).reading bound rows).getData deref ard n b info =
      .ok ⟨[], some info, some .outOfRange⟩ := by
  have hcurrent : ((bulkResultSet dt cols).reading bound rows).rows.current = .ok (.bulk row) := by
    show (RowSource.bulk rows).current = _
    simp only [RowSource.current, hrow]
  unfold ResultSet.getData
  rcases hcolumn : ((bulkResultSet dt cols).reading bound rows).getColumn n with _ | column
  · rfl
  · obtain ⟨hn, hcol⟩ := ResultSet.getColumn_eq_some hcolumn
    have hsome : (cols.mapIdx fun i col => { col with binding := bound i })[n - 1]? = some column :=
      hcol
    have hnone : row[n - 1]? = none := by
      rcases h with h | h | h
      · exact absurd h hn
      · rw [List.getElem?_mapIdx, h] at hsome
        cases hsome
      · exact h
    simp only [hcurrent, Except.map, RowData.text, hnone]

end Read

end Faux

end RetsSTMT

end EzRets
