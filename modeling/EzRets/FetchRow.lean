import EzRets.StatementSteps

/-!
# EzRets.FetchRow — one row on its way to the bound columns

What a fetch that returns a row has done: the result set has moved to the row, the row's texts have
gone through the bound columns one after the other, and the streaming state starts afresh.
-/

namespace EzRets

open FaultRun

/-! ## The row that a result set moves to -/

namespace RowSource

/-- The row that is handed to the columns is the one that `getData` reads afterwards. -/
theorem advance_current {rows rows' : RowSource} {row : RowData}
    (h : rows.advance = .ok (row, rows')) : rows'.current = .ok row := by
  cases rows with
  | bulk rs =>
    obtain ⟨⟨row', rs'⟩, hnext, hpair⟩ := map_eq_ok.mp h
    unfold BulkRows.next at hnext
    extract_lets iterator at hnext
    by_cases hi : iterator < rs.mResults.length
    · rw [dif_pos hi] at hnext
      cases hnext
      cases hpair
      simp [current, List.getElem?_eq_getElem hi]
    · rw [dif_neg hi] at hnext
      cases hnext
  | onDemand results =>
    cases results with
    | none => cases h
    | some results =>
      cases h
      rfl
  | onDemandObject pending map =>
    cases h
    rfl

end RowSource

/-- The result set has a next row, `row`, and is `rs'` once it has moved there. -/
def ResultSet.MovesTo (rs : ResultSet) (row : RowData) (rs' : ResultSet) : Prop :=
  rs.rows.isEmpty = false ∧ ∃ rows rows', rs.rows.hasNext = (.ok true, rows) ∧
    rows.advance = .ok (row, rows') ∧ rs' = { rs with rows := rows' }

theorem ResultSet.MovesTo.current {rs rs' : ResultSet} {row : RowData} (h : rs.MovesTo row rs') :
    rs'.rows.current = .ok row := by
  obtain ⟨-, rows, rows', -, hadvance, rfl⟩ := h
  exact RowSource.advance_current hadvance

theorem ResultSet.MovesTo.mColumns {rs rs' : ResultSet} {row : RowData} (h : rs.MovesTo row rs') :
    rs'.mColumns = rs.mColumns := by
  obtain ⟨-, rows, rows', -, -, rfl⟩ := h
  rfl

/-! ## Texts and columns -/

theorem columnCells_getElem {text : Str → Except Exn Str} {cols : List Column} {i : Nat}
    {cell : Column × Str} (h : (columnCells text cols).cells[i]? = some cell) :
    cols[i]? = some cell.1 ∧ text cell.1.mName = .ok cell.2 := by
  induction cols generalizing i with
  | nil => cases h
  | cons col cols ih =>
    rw [columnCells] at h
    cases htext : text col.mName with
    | error e =>
      rw [htext] at h
      cases h
    | ok data =>
      simp only [htext] at h
      cases i with
      | zero =>
        cases h
        exact ⟨rfl, htext⟩
      | succ i => exact ih h

/-- A loop that is not left early visits all columns. -/
theorem columnCells_columns {text : Str → Except Exn Str} {cols : List Column}
    (h : (columnCells text cols).thrown = none) :
    (columnCells text cols).cells.map Prod.fst = cols := by
  induction cols with
  | nil => rfl
  | cons col cols ih =>
    rw [columnCells] at h ⊢
    cases htext : text col.mName with
    | error e =>
      rw [htext] at h
      cases h
    | ok data =>
      simp only [htext] at h ⊢
      rw [List.map_cons, ih h]

theorem columnCells_of_getElem {text : Str → Except Exn Str} {cols : List Column} {i : Nat}
    {col : Column} {data : Str} (h : (columnCells text cols).thrown = none)
    (hc : cols[i]? = some col) (ht : text col.mName = .ok data) :
    (columnCells text cols).cells[i]? = some (col, data) := by
  have hfst : ((columnCells text cols).cells.map Prod.fst)[i]? = some col := by
    rw [columnCells_columns h]
    exact hc
  rw [List.getElem?_map, Option.map_eq_some_iff] at hfst
  obtain ⟨cell, hcell, rfl⟩ := hfst
  have htext := (columnCells_getElem hcell).2
  rw [ht] at htext
  rw [hcell, ← Except.ok.inj htext.symm]

namespace RowData

variable {row : RowData} {cols : List Column} {i : Nat}

/-- What is handed to a column is its text. -/
theorem cells_getElem {cell : Column × Str} (h : (row.cells cols).cells[i]? = some cell) :
    cols[i]? = some cell.1 ∧ row.text cell.1.mName i = .ok cell.2 := by
  cases row with
  | bulk row =>
    obtain ⟨hc, hd⟩ := List.getElem?_zip_eq_some.mp h
    refine ⟨hc, ?_⟩
    rw [text, hd]
  | search getString => exact columnCells_getElem h
  | object map => exact columnCells_getElem h

/-- A row that is read without an exception hands every column its text. -/
theorem cells_of_text {col : Column} {data : Str} (h : (row.cells cols).thrown = none)
    (hc : cols[i]? = some col) (ht : row.text col.mName i = .ok data) :
    (row.cells cols).cells[i]? = some (col, data) := by
  cases row with
  | bulk row =>
    refine List.getElem?_zip_eq_some.mpr ⟨hc, ?_⟩
    rw [text] at ht
    cases hd : row[i]? with
    | none =>
      rw [hd] at ht
      cases ht
    | some data' =>
      rw [hd] at ht
      exact congrArg some (Except.ok.inj ht)
  | search getString => exact columnCells_of_getElem h hc ht
  | object map => exact columnCells_of_getElem h hc ht

end RowData

/-! ## The stores of a row -/

section Stores

variable {deref : Deref} {ard : AppRowDesc} {dt : DataTranslator}

/-- Every store of a row is a store of one of its cells. -/
theorem mem_setCells {count : Nat} {cells : List (Column × Str)} {w : Write}
    (h : w ∈ (setCells deref ard dt count cells).1) :
    ∃ j cell, cells[j]? = some cell ∧ w ∈ (cellData deref ard dt (count + j) cell).writes := by
  induction cells generalizing count with
  | nil => cases h
  | cons cell cells ih =>
    rw [setCells] at h
    dsimp only at h
    split at h
    · exact ⟨0, cell, rfl, h⟩
    · rcases List.mem_append.mp h with h | h
      · exact ⟨0, cell, rfl, h⟩
      · obtain ⟨j, cell', hj, hw⟩ := ih h
        refine ⟨j + 1, cell', hj, ?_⟩
        rwa [Nat.add_assoc, Nat.add_comm 1 j] at hw

/-- **The stores of a cell stand together**, and the others come from other cells. -/
theorem setCells_split {count i : Nat} {cells : List (Column × Str)} {cell : Column × Str}
    (hthrown : (setCells deref ard dt count cells).2 = none) (hi : cells[i]? = some cell) :
    ∃ pre post, (setCells deref ard dt count cells).1 =
        pre ++ (cellData deref ard dt (count + i) cell).writes ++ post ∧
      ∀ w ∈ pre ++ post, ∃ j cell', j ≠ i ∧ cells[j]? = some cell' ∧
        w ∈ (cellData deref ard dt (count + j) cell').writes := by
  induction cells generalizing count i with
  | nil => cases hi
  | cons first cells ih =>
    rw [setCells] at hthrown ⊢
    dsimp only at hthrown ⊢
    split at hthrown
    · cases hthrown
    · rename_i hfirst
      cases i with
      | zero =>
        cases hi
        refine ⟨[], (setCells deref ard dt (count + 1) cells).1, rfl, ?_⟩
        intro w hw
        obtain ⟨j, cell', hj, hw'⟩ := mem_setCells hw
        refine ⟨j + 1, cell', by omega, hj, ?_⟩
        rwa [Nat.add_assoc, Nat.add_comm 1 j] at hw'
      | succ i =>
        obtain ⟨pre, post, hwrites, hother⟩ := ih hthrown hi
        refine ⟨(cellData deref ard dt count first).writes ++ pre, post, ?_, ?_⟩
        · rw [hwrites, Nat.add_assoc count 1 i, Nat.add_comm 1 i]
          simp only [List.append_assoc]
        · intro w hw
          rw [List.append_assoc] at hw
          rcases List.mem_append.mp hw with hw | hw
          · exact ⟨0, first, by omega, rfl, hw⟩
          · obtain ⟨j, cell', hj, hcell, hw'⟩ := hother w hw
            refine ⟨j + 1, cell', by omega, hcell, ?_⟩
            rwa [Nat.add_assoc, Nat.add_comm 1 j] at hw'

theorem setCells_thrown {count : Nat} {cells : List (Column × Str)}
    (h : ∀ j cell, cells[j]? = some cell →
      (cellData deref ard dt (count + j) cell).thrown = none) :
    (setCells deref ard dt count cells).2 = none := by
  induction cells generalizing count with
  | nil => rfl
  | cons first cells ih =>
    have hfirst := h 0 first rfl
    rw [Nat.add_zero] at hfirst
    rw [setCells]
    dsimp only
    rw [hfirst]
    refine ih fun j cell hj => ?_
    have hj' := h (j + 1) cell hj
    rwa [Nat.add_assoc, Nat.add_comm 1 j]

end Stores

/-! ## Fetches that return a row -/

/-- The store is no text and no length: the counters and states that a fetch reports. -/
def Write.IsStatus (w : Write) : Prop := (∀ p, w.charAt p = none) ∧ ∀ p, w.lenAt p = none

theorem isStatus_storeIf {p : Ptr} {v : CValue} (hc : ∀ s, v ≠ .chars s) (hl : ∀ n, v ≠ .len n) :
    ∀ w ∈ RetsSTMT.storeIf p v, w.IsStatus := by
  intro w hw
  unfold RetsSTMT.storeIf at hw
  split at hw
  · rw [List.mem_singleton] at hw
    subst hw
    constructor
    · intro q
      unfold Write.charAt
      split
      · exact absurd ‹_› (hc _)
      · rfl
    · intro q
      unfold Write.lenAt
      split
      · exact absurd ‹_› (hl _)
      · rfl
  · cases hw

namespace RetsSTMT

/-- What a fetch has done that returned the row `row`, to which the result set has moved. -/
structure RowFetched (ctx : CallContext) (stmt : RetsSTMT) (rs : ResultSet) (row : RowData)
    (out : StmtOut) : Prop where
  success : out.result = .ok .success
  mQuery : out.stmt.mQuery = { stmt.mQuery with mResultSet := some rs }
  mDataStreamInfo : out.stmt.mDataStreamInfo = .reset
  ard : out.stmt.ard = stmt.ard
  mErrors : out.stmt.mErrors = []
  readable : (row.cells rs.mColumns).thrown = none
  sent : (setCells ctx.deref stmt.ard rs.mTranslator 0 (row.cells rs.mColumns).cells).2 = none
  writes : ∃ status, (∀ w ∈ status, w.IsStatus) ∧ out.writes =
    (setCells ctx.deref stmt.ard rs.mTranslator 0 (row.cells rs.mColumns).cells).1 ++ status

variable {ctx : CallContext} {stmt : RetsSTMT}

/-- A fetch whose result set has another row, or none, does not process any. -/
theorem sqlFetch_of_hasNext (ctx : CallContext) {rs : ResultSet}
    (hrs : stmt.mQuery.mResultSet = some rs) (hempty : rs.rows.isEmpty = false) :
    stmt.sqlFetch ctx = match rs.rows.hasNext.1 with
      | .error e =>
        .ok ((stmt.clearErrors.setResultSet { rs with rows := rs.rows.hasNext.2 }).throws e)
      | .ok false =>
        .ok ((stmt.clearErrors.setResultSet { rs with rows := rs.rows.hasNext.2 }).returns .noData)
      | .ok true => stmt.clearErrors.fetchRow ctx { rs with rows := rs.rows.hasNext.2 } := by
  have hrs' : stmt.clearErrors.resultSet = .ok rs := (resultSet_eq_ok _).mpr hrs
  simp only [sqlFetch, hrs', bind, Except.bind, hempty]
  rfl

/-- What a fetch leaves that has moved to a row, whether its values convert or not. -/
structure RowVisited (ctx : CallContext) (stmt : RetsSTMT) (rs : ResultSet) (row : RowData)
    (out : StmtOut) : Prop where
  mQuery : out.stmt.mQuery = { stmt.mQuery with mResultSet := some rs }
  mDataStreamInfo : out.stmt.mDataStreamInfo = .reset
  ard : out.stmt.ard = stmt.ard
  writes : ∃ status, (∀ w ∈ status, w.IsStatus) ∧ out.writes =
    (setCells ctx.deref stmt.ard rs.mTranslator 0 (row.cells rs.mColumns).cells).1 ++ status

theorem RowVisited.resultSet {rs : ResultSet} {row : RowData} {out : StmtOut}
    (h : RowVisited ctx stmt rs row out) : out.stmt.mQuery.mResultSet = some rs :=
  congrArg Query.mResultSet h.mQuery

/-- The end of a fetch that has moved to a row. -/
theorem fetchRow_ends (ctx : CallContext) (stmt : RetsSTMT) (rs : ResultSet) {row : RowData}
    {rows rows' : RowSource} (hadvance : rows.advance = .ok (row, rows')) :
    ∃ out, stmt.fetchRow ctx { rs with rows := rows } = .ok out ∧
      RowVisited ctx stmt { rs with rows := rows' } row out ∧
      (match (setCells ctx.deref stmt.ard rs.mTranslator 0 (row.cells rs.mColumns).cells).2.or
          (row.cells rs.mColumns).thrown with
        | none => out.result = .ok .success ∧ out.stmt.mErrors = stmt.mErrors
        | some _ => out.result = .ok .error ∨ out.result = .error .unknown) := by
  unfold fetchRow
  dsimp only
  rw [ResultSet.processNextRow_of_advance ctx.deref stmt.ard hadvance]
  simp only [bind, Except.bind]
  rcases (setCells ctx.deref stmt.ard rs.mTranslator 0 (row.cells rs.mColumns).cells).2.or
    (row.cells rs.mColumns).thrown with _ | e
  · refine ⟨_, rfl, ⟨rfl, rfl, rfl, _, ?_, List.append_assoc _ _ _⟩, rfl, rfl⟩
    intro w hw
    rcases List.mem_append.mp hw with hw | hw
    · exact isStatus_storeIf (by simp) (by simp) w hw
    · exact isStatus_storeIf (by simp) (by simp) w hw
  · rcases hrecord : fetchError e with _ | record
    · have he : e = .unknown := by
        cases e <;> simp [fetchError] at hrecord
        rfl
      simp only [he]
      exact ⟨_, rfl, ⟨rfl, rfl, rfl, [], by simp, (List.append_nil _).symm⟩, .inr rfl⟩
    · simp only [hrecord]
      exact ⟨_, rfl, ⟨rfl, rfl, rfl, _, isStatus_storeIf (by simp) (by simp), rfl⟩, .inl rfl⟩

/-- **A fetch with a next row** moves to it, and succeeds where no column throws. -/
theorem sqlFetch_ends (ctx : CallContext) {rs rs' : ResultSet} {row : RowData}
    (hrs : stmt.mQuery.mResultSet = some rs) (hmove : rs.MovesTo row rs') :
    ∃ out, stmt.sqlFetch ctx = .ok out ∧ RowVisited ctx stmt rs' row out ∧
      (match (setCells ctx.deref stmt.ard rs'.mTranslator 0 (row.cells rs'.mColumns).cells).2.or
          (row.cells rs'.mColumns).thrown with
        | none => out.result = .ok .success ∧ out.stmt.mErrors = []
        | some _ => out.result = .ok .error ∨ out.result = .error .unknown) := by
  obtain ⟨hempty, rows, rows', hnext, hadvance, rfl⟩ := hmove
  obtain ⟨out, hout, hvisited, hends⟩ := fetchRow_ends ctx stmt.clearErrors rs hadvance
  have hfetch : stmt.sqlFetch ctx = .ok out := by
    rw [sqlFetch_of_hasNext ctx hrs hempty, hnext]
    exact hout
  exact ⟨out, hfetch,
    ⟨hvisited.mQuery, hvisited.mDataStreamInfo, hvisited.ard, hvisited.writes⟩, hends⟩

/-- It either hands the row to all columns or ends in an exception. -/
theorem sqlFetch_of_movesTo (ctx : CallContext) {rs rs' : ResultSet} {row : RowData}
    (hrs : stmt.mQuery.mResultSet = some rs) (hmove : rs.MovesTo row rs') :
    ∃ out, stmt.sqlFetch ctx = .ok out ∧
      out.stmt.mQuery = { stmt.mQuery with mResultSet := some rs' } ∧
      (RowFetched ctx stmt rs' row out ∨ ∃ e,
        (setCells ctx.deref stmt.ard rs'.mTranslator 0 (row.cells rs'.mColumns).cells).2.or
          (row.cells rs'.mColumns).thrown = some e ∧
        (out.result = .ok .error ∨ out.result = .error .unknown)) := by
  obtain ⟨out, hfetch, hvisited, hends⟩ := sqlFetch_ends ctx hrs hmove
  refine ⟨out, hfetch, hvisited.mQuery, ?_⟩
  rcases hthrown : (setCells ctx.deref stmt.ard rs'.mTranslator 0
    (row.cells rs'.mColumns).cells).2.or (row.cells rs'.mColumns).thrown with _ | e
  · obtain ⟨hsent, hreadable⟩ := Option.or_eq_none_iff.mp hthrown
    rw [hthrown] at hends
    exact .inl ⟨hends.1, hvisited.mQuery, hvisited.mDataStreamInfo, hvisited.ard, hends.2, hreadable,
      hsent, hvisited.writes⟩
  · rw [hthrown] at hends
    exact .inr ⟨e, rfl, hends⟩

/-- The entry wrapper around a fetch. -/
theorem call_fetch {out : StmtOut} (h : stmt.sqlFetch ctx = .ok out) : stmt.call ctx .fetch =
    .ok ⟨{ out.stmt with mErrors := (odbcEntry out.stmt.mErrors out.result).2 },
      (odbcEntry out.stmt.mErrors out.result).1, out.writes⟩ := by
  simp only [call, uncaught, h]
  rfl

/-- **A fetch that succeeds has returned a row.** -/
theorem sqlFetch_success {out : StmtOut} (h : stmt.sqlFetch ctx = .ok out)
    (hsuccess : out.result = .ok .success) :
    ∃ rs row rs', stmt.mQuery.mResultSet = some rs ∧ rs.MovesTo row rs' ∧
      RowFetched ctx stmt rs' row out := by
  have hrow : ∃ rs row rs', stmt.mQuery.mResultSet = some rs ∧ rs.MovesTo row rs' := by
    simp only [sqlFetch, bind_eq_ok] at h
    obtain ⟨rs, hrs, h⟩ := h
    have hrs' := (resultSet_eq_ok _).mp hrs
    split at h
    · cases h
      cases hsuccess
    · rename_i hempty
      split at h
      · cases h
        cases hsuccess
      · cases h
        cases hsuccess
      · rename_i hnext
        simp only [fetchRow, bind_eq_ok] at h
        obtain ⟨processed, hp, -⟩ := h
        obtain ⟨⟨row, rows'⟩, hadvance, -⟩ := map_eq_ok.mp hp
        refine ⟨rs, row, _, hrs', ?_, rs.rows.hasNext.2, rows', ?_, hadvance, rfl⟩
        · exact Bool.eq_false_iff.mpr hempty
        · exact Prod.ext hnext rfl
  obtain ⟨rs, row, rs', hrs, hmove⟩ := hrow
  obtain ⟨out', hout', -, hcases⟩ := sqlFetch_of_movesTo ctx hrs hmove
  rw [h] at hout'
  cases hout'
  rcases hcases with hfetched | ⟨e, -, herror | herror⟩
  · exact ⟨rs, row, rs', hrs, hmove, hfetched⟩
  · rw [hsuccess] at herror
    cases herror
  · rw [hsuccess] at herror
    cases herror

end RetsSTMT

end EzRets
