import EzRets.Bindings
import EzRets.TextData

/-!
# EzRets.FetchTruncation — what a fetch says about values that it cuts

`SQLFetch` has no way to report that a bound value was cut: its workers get no streaming state, and
nothing else travels back to the return code.  So it is right exactly about rows whose bound values
all fit.
-/

namespace EzRets

open FaultRun

theorem adjustDescPointer_ne_zero {deref : Deref} {offset ptr : Ptr} (h : ptr ≠ 0) :
    adjustDescPointer deref offset ptr ≠ 0 := by
  unfold adjustDescPointer
  split
  · exact fun hzero => h (Nat.eq_zero_of_add_eq_zero_right hzero)
  · exact h

/-! ## Bound values -/

namespace ResultSet

/-- Column `c` is bound with `b` to data of the type `type`. -/
def IsBound (rs : ResultSet) (c : Nat) (b : Binding) (type : Int) : Prop :=
  ∃ column, rs.getColumn c = some column ∧ column.binding = some b ∧
    column.getBestSqlType rs.mTranslator b.targetType = type

/-- Column `c` is bound, and `v` is its decoded value in the current row. -/
def BoundValue (rs : ResultSet) (c : Nat) (b : Binding) (type : Int) (v : Str) : Prop :=
  rs.IsBound c b type ∧ rs.value c = some v

end ResultSet

namespace RetsSTMT

section Bound

variable (ctx : CallContext) (stmt : RetsSTMT)

/-- Where a fetch stores column `c`: the bound addresses, moved as the row descriptor says. -/
def fetchTarget (c : Nat) (b : Binding) : Target :=
  Column.adjustTarget ctx.deref stmt.ard (c - 1) b none

/-- The bound columns hold character or binary data, each in a buffer of its own. -/
structure TextColumns (rs : ResultSet) : Prop where
  text : ∀ {c b type}, rs.IsBound c b type → IsCharacter type ∨ IsBinary type
  target : ∀ {c b type}, rs.IsBound c b type → b.targetValue ≠ 0
  length : ∀ {c b type}, rs.IsBound c b type → 1 ≤ b.bufferLength
  disjoint : ∀ {c c' b b' type type'}, c ≠ c' → rs.IsBound c b type → rs.IsBound c' b' type' →
    (fetchTarget ctx stmt c b).target + b.bufferLength ≤ (fetchTarget ctx stmt c' b').target ∨
    (fetchTarget ctx stmt c' b').target + b'.bufferLength ≤ (fetchTarget ctx stmt c b).target

/-- **No silent truncation** when a fetch moves to the row of `rs`: after `SQL_SUCCESS` every buffer
holds its whole value, and a value that does not fit is reported with `SQL_SUCCESS_WITH_INFO`, a
record 01004 and its full length. -/
def FetchesWhole (rs : ResultSet) : Prop :=
  ∃ returned, stmt.call ctx .fetch = .ok returned ∧
    (returned.result = .success → ∀ c b type v, rs.BoundValue c b type v →
      HoldsValue returned.writes (fetchTarget ctx stmt c b).target type v) ∧
    ((∃ c b type v, rs.BoundValue c b type v ∧ ¬ Fits type v b.bufferLength) →
      returned.result = .successWithInfo ∧
      (∃ e ∈ returned.stmt.mErrors, e.mSqlstate = "01004".toList) ∧
      ∀ c b type v, rs.BoundValue c b type v → ¬ Fits type v b.bufferLength →
        lenAfter returned.writes (fetchTarget ctx stmt c b).resultSize = some v.length)

end Bound

variable {ctx : CallContext} {stmt : RetsSTMT} {rs : ResultSet} {row : RowData}

theorem fetchTarget_ne_zero (ctx : CallContext) (stmt : RetsSTMT) (c : Nat) {b : Binding}
    (h : b.targetValue ≠ 0) : (fetchTarget ctx stmt c b).target ≠ 0 :=
  adjustDescPointer_ne_zero (adjustDescPointer_ne_zero h)

/-! ## Cells and bound values -/

/-- A bound value is what its cell sends to the translator. -/
theorem cell_of_boundValue (ctx : CallContext) (stmt : RetsSTMT) {c : Nat} {b : Binding}
    {type : Int} {v : Str} (hcurrent : rs.rows.current = .ok row)
    (hread : (row.cells rs.mColumns).thrown = none) (hb : rs.BoundValue c b type v) :
    ∃ cell, (row.cells rs.mColumns).cells[c - 1]? = some cell ∧
      cellData ctx.deref stmt.ard rs.mTranslator (0 + (c - 1)) cell =
        rs.mTranslator.translate v type (fetchTarget ctx stmt c b) := by
  obtain ⟨⟨column, hcolumn, hbinding, htype⟩, hv⟩ := hb
  obtain ⟨column', row', data, hcolumn', hrow, htext, rfl⟩ := ResultSet.value_eq_some hv
  rw [hcolumn] at hcolumn'
  cases hcolumn'
  rw [hcurrent] at hrow
  cases hrow
  have hget := (ResultSet.getColumn_eq_some hcolumn).2
  refine ⟨(column, data), RowData.cells_of_text hread hget htext, ?_⟩
  simp only [cellData, hbinding, Column.setData, htype, Nat.zero_add, fetchTarget]

/-- A cell of an unbound column sends nothing, another sends a bound value. -/
theorem boundValue_of_cell (ctx : CallContext) (stmt : RetsSTMT) {j : Nat} {cell : Column × Str}
    (hcurrent : rs.rows.current = .ok row)
    (hj : (row.cells rs.mColumns).cells[j]? = some cell) :
    cellData ctx.deref stmt.ard rs.mTranslator (0 + j) cell = ⟨[], none, none⟩ ∨
      ∃ b type v, rs.BoundValue (j + 1) b type v ∧
        cellData ctx.deref stmt.ard rs.mTranslator (0 + j) cell =
          rs.mTranslator.translate v type (fetchTarget ctx stmt (j + 1) b) := by
  obtain ⟨hget, htext⟩ := RowData.cells_getElem hj
  have hcolumn : rs.getColumn (j + 1) = some cell.1 := by
    unfold ResultSet.getColumn
    rw [if_neg (Nat.succ_ne_zero j)]
    exact hget
  cases hbinding : cell.1.binding with
  | none =>
    left
    simp only [cellData, hbinding]
  | some b =>
    refine .inr ⟨b, _, cell.1.modifyData cell.2, ⟨⟨cell.1, hcolumn, hbinding, rfl⟩, ?_⟩, ?_⟩
    · have htext' : row.text cell.1.mName (j + 1 - 1) = .ok cell.2 := htext
      simp only [ResultSet.value, hcolumn, hcurrent, htext']
    · simp only [cellData, hbinding, Column.setData, Nat.zero_add, fetchTarget]
      rfl

/-- Bound character and binary columns never throw. -/
theorem sent_of_textColumns (hcurrent : rs.rows.current = .ok row)
    (htext : TextColumns ctx stmt rs) :
    (setCells ctx.deref stmt.ard rs.mTranslator 0 (row.cells rs.mColumns).cells).2 = none := by
  refine setCells_thrown fun j cell hj => ?_
  obtain hnone | ⟨b, type, v, hb, hcell⟩ := boundValue_of_cell ctx stmt hcurrent hj
  · rw [hnone]
  · rw [hcell]
    exact translate_none_thrown _ (htext.text hb.1) rfl
      (fetchTarget_ne_zero ctx stmt (j + 1) (htext.target hb.1))

/-- A byte of one buffer lies outside what fits in another. -/
theorem outside_of_disjoint {a a' n p : Nat} {k k' : Int} (h : a' + k' ≤ a ∨ a + k ≤ a')
    (hroom : n ≤ k') (hlow : a ≤ p) (hhigh : p < a + k) : p < a' ∨ a' + n ≤ p := by
  omega

/-- **Inside its buffer a column's stores are alone**, when all bound values fit. -/
theorem RowFetched.charAfter_eq {out : StmtOut} {c : Nat} {b : Binding} {type : Int} {v : Str}
    (h : RowFetched ctx stmt rs row out) (hcurrent : rs.rows.current = .ok row)
    (htext : TextColumns ctx stmt rs)
    (hfits : ∀ c b type v, rs.BoundValue c b type v → Fits type v b.bufferLength)
    (hb : rs.BoundValue c b type v) {p : Nat} (hlow : (fetchTarget ctx stmt c b).target ≤ p)
    (hhigh : (p : Int) < (fetchTarget ctx stmt c b).target + b.bufferLength) :
    charAfter out.writes p =
      charAfter (rs.mTranslator.translate v type (fetchTarget ctx stmt c b)).writes p := by
  obtain ⟨cell, hget, hcell⟩ := cell_of_boundValue ctx stmt hcurrent h.readable hb
  obtain ⟨pre, post, hwrites, hother⟩ := setCells_split h.sent hget
  obtain ⟨status, hstatus, hout⟩ := h.writes
  rw [hout, hwrites, hcell, List.append_assoc]
  refine charAfter_append_append fun w hw => ?_
  have hw' : w ∈ pre ++ post ∨ w ∈ status := by
    simp only [List.mem_append] at hw ⊢
    tauto
  rcases hw' with hw' | hw'
  · obtain ⟨j, cell', hne, hj, hw''⟩ := hother w hw'
    obtain hnone | ⟨b', type', v', hb', hcell'⟩ := boundValue_of_cell ctx stmt hcurrent hj
    · rw [hnone] at hw''
      cases hw''
    · rw [hcell'] at hw''
      have hc : c ≠ 0 := by
        obtain ⟨⟨column, hcolumn, -⟩, -⟩ := hb
        exact (ResultSet.getColumn_eq_some hcolumn).1
      have hne' : j + 1 ≠ c := by omega
      refine translate_none_within _ (htext.text hb'.1) rfl
        (fetchTarget_ne_zero ctx stmt (j + 1) (htext.target hb'.1)) (fun hv => ?_) w hw''
      have hroom := hfits (j + 1) b' type' v' hb' hv
      have hdisjoint := htext.disjoint hne' hb'.1 hb.1
      rcases outside_of_disjoint hdisjoint hroom hlow hhigh with hp | hp
      · exact .inl hp
      · exact .inr (.inl hp)
  · exact (hstatus w hw').1 p

/-! ## Exactly the rows that fit -/

theorem length_wholeText_pos {type : Int} {v : Str} (hv : v ≠ []) :
    0 < (wholeText type v).length := by
  have hle : v.length ≤ (wholeText type v).length := by
    unfold wholeText
    split <;> simp
  have hpos := List.length_pos_of_ne_nil hv
  omega

/-- **What a successful fetch has stored** is the whole value exactly when the length that reaches
the worker leaves room for it. -/
theorem RowFetched.holdsValue_iff {out : StmtOut} {c : Nat} {b : Binding} {type : Int} {v : Str}
    (h : RowFetched ctx stmt rs row out) (hcurrent : rs.rows.current = .ok row)
    (htext : TextColumns ctx stmt rs)
    (hfits : ∀ c b type v, rs.BoundValue c b type v → Fits type v b.bufferLength)
    (hb : rs.BoundValue c b type v) :
    HoldsValue out.writes (fetchTarget ctx stmt c b).target type v ↔
      Fits type v (toSize (toSqlInteger b.bufferLength)) := by
  have htype := htext.text hb.1
  have htarget := fetchTarget_ne_zero ctx stmt c (htext.target hb.1)
  have halone : ∀ i < (wholeText type v).length, v ≠ [] →
      charAfter out.writes ((fetchTarget ctx stmt c b).target + i) =
        charAfter (rs.mTranslator.translate v type (fetchTarget ctx stmt c b)).writes
          ((fetchTarget ctx stmt c b).target + i) := by
    intro i hi hv
    have hroom := hfits c b type v hb hv
    refine h.charAfter_eq hcurrent htext hfits hb (Nat.le_add_right _ i) ?_
    push_cast
    omega
  constructor
  · intro hholds hv
    have hpos : 0 < (wholeText type v).length := length_wholeText_pos hv
    by_contra hlong
    -- the last byte of the value lies beyond what the worker stores
    have hlast := charAfter_of_bufferAfter (hholds hv) (i := (wholeText type v).length - 1)
      (by omega)
    have hbeyond : (fetchTarget ctx stmt c b).target + toSize (fetchTarget ctx stmt c b).targetLen ≤
        (fetchTarget ctx stmt c b).target + ((wholeText type v).length - 1) := by
      refine Nat.add_le_add_left ?_ _
      dsimp only [fetchTarget, Column.adjustTarget]
      omega
    have hnone := charAfter_eq_none (translate_none_within rs.mTranslator htype rfl htarget
      fun _ : v ≠ [] => .inr (.inr hbeyond))
    rw [halone _ (by omega) hv, hnone, List.getElem?_eq_getElem (by omega)] at hlast
    cases hlast
  · intro hroom hv
    have hholds := translate_none_holds rs.mTranslator htype (t := fetchTarget ctx stmt c b) rfl
      htarget hroom hv
    refine bufferAfter_eq_map_some fun i hi => ?_
    rw [halone i hi hv]
    exact charAfter_of_bufferAfter hholds hi

/-- **A fetch is right about truncation exactly when every bound value fits its buffer**, and,
unless the row cannot be read, also the length that is left of the argument in an `SQLINTEGER`. -/
theorem fetchesWhole_iff {rs' : ResultSet} (hrs : stmt.mQuery.mResultSet = some rs)
    (hmove : rs.MovesTo row rs') (htext : TextColumns ctx stmt rs') :
    FetchesWhole ctx stmt rs' ↔
      (∀ c b type v, rs'.BoundValue c b type v → Fits type v b.bufferLength) ∧
      ((row.cells rs'.mColumns).thrown = none → ∀ c b type v, rs'.BoundValue c b type v →
        Fits type v (toSize (toSqlInteger b.bufferLength))) := by
  obtain ⟨out, hout, -, hcases⟩ := sqlFetch_of_movesTo ctx hrs hmove
  have hcall := call_fetch hout
  have hsent := sent_of_textColumns hmove.current htext
  -- the fetch succeeds, or the row cannot be read and it fails
  have hresult : (RowFetched ctx stmt rs' row out ∧
        (odbcEntry out.stmt.mErrors out.result).1 = .success) ∨
      ((row.cells rs'.mColumns).thrown ≠ none ∧
        (odbcEntry out.stmt.mErrors out.result).1 = .error) := by
    rcases hcases with hfetched | ⟨e, hthrown, herror | herror⟩
    · exact .inl ⟨hfetched, by rw [hfetched.success]; rfl⟩
    · rw [hsent, Option.none_or] at hthrown
      exact .inr ⟨by simp [hthrown], by rw [herror]; rfl⟩
    · rw [hsent, Option.none_or] at hthrown
      exact .inr ⟨by simp [hthrown], by rw [herror]; rfl⟩
  constructor
  · rintro ⟨returned, hreturned, hwhole, hcut⟩
    rw [hcall] at hreturned
    cases hreturned
    have hfits : ∀ c b type v, rs'.BoundValue c b type v → Fits type v b.bufferLength := by
      intro c b type v hb
      by_contra hnot
      have hinfo := (hcut ⟨c, b, type, v, hb, hnot⟩).1
      rcases hresult with ⟨-, hcode⟩ | ⟨-, hcode⟩
      · exact absurd (hcode.symm.trans hinfo) (by decide)
      · exact absurd (hcode.symm.trans hinfo) (by decide)
    refine ⟨hfits, fun hread c b type v hb => ?_⟩
    rcases hresult with ⟨hfetched, hcode⟩ | ⟨hthrown, -⟩
    · exact (hfetched.holdsValue_iff hmove.current htext hfits hb).mp (hwhole hcode c b type v hb)
    · exact absurd hread hthrown
  · rintro ⟨hfits, hroom⟩
    refine ⟨_, hcall, fun hsuccess c b type v hb => ?_, ?_⟩
    · rcases hresult with ⟨hfetched, -⟩ | ⟨-, hcode⟩
      · exact (hfetched.holdsValue_iff hmove.current htext hfits hb).mpr
          (hroom hfetched.readable c b type v hb)
      · exact absurd (hcode.symm.trans hsuccess) (by decide)
    · rintro ⟨c, b, type, v, hb, hnot⟩
      exact absurd (hfits c b type v hb) hnot

/-! ## A counted statement -/

/-- The result of `count(*)` with its column bound. -/
def countResult (b : Binding) (rows : BulkRows) : ResultSet :=
  ⟨.default, DataCountQuery.columns.map (Column.bind · b), .bulk rows⟩

/-- The count before and after it is fetched. -/
def countAdded (count : Str) : BulkRows := BulkRows.new.addRow [count]

def countFetched (count : Str) : BulkRows := ⟨true, [[count]], 0, by simp, by simp⟩

/-- A statement that has executed a `count(*)` query with the answer `count`. -/
def countStatement (b : Binding) (count : Str) : RetsSTMT :=
  new.setQuery ⟨.dataCount ⟨"Property".toList, "RES".toList, none, none, 0, 0, true⟩,
    some (countResult b (countAdded count))⟩

theorem countResult_movesTo (b : Binding) (count : Str) :
    (countResult b (countAdded count)).MovesTo (.bulk [count])
      (countResult b (countFetched count)) := ⟨rfl, _, _, rfl, rfl, rfl⟩

/-- Its only column is the bound one. -/
theorem isBound_countResult {b b' : Binding} {rows : BulkRows} {c : Nat} {type : Int}
    (h : (countResult b rows).IsBound c b' type) :
    c = 1 ∧ b' = b ∧
      (Column.faux "count(*)" sqlInteger).getBestSqlType .default b.targetType = type := by
  obtain ⟨column, hcolumn, hbinding, htype⟩ := h
  obtain ⟨hc, hget⟩ := ResultSet.getColumn_eq_some hcolumn
  have hlt : c - 1 < 1 := (List.getElem?_eq_some_iff.mp hget).1
  have hc1 : c = 1 := by omega
  subst hc1
  cases hget
  cases hbinding
  exact ⟨rfl, rfl, htype⟩

theorem textColumns_count {ctx : CallContext} {b : Binding} {rows : BulkRows}
    (htype : IsCharacter ((Column.faux "count(*)" sqlInteger).getBestSqlType .default b.targetType))
    (htarget : b.targetValue ≠ 0) (hlength : 1 ≤ b.bufferLength) :
    TextColumns ctx stmt (countResult b rows) where
  text h := .inl ((isBound_countResult h).2.2 ▸ htype)
  target h := by rwa [(isBound_countResult h).2.1]
  length h := by rwa [(isBound_countResult h).2.1]
  disjoint hne h h' := absurd ((isBound_countResult h).1.trans (isBound_countResult h').1.symm) hne

/-- A count of six digits fits a buffer of 50 bytes. -/
theorem fetchesWhole_count :
    FetchesWhole idleContext (countStatement nameBinding "123456".toList)
      (countResult nameBinding (countFetched "123456".toList)) := by
  have hmove := countResult_movesTo nameBinding "123456".toList
  refine (fetchesWhole_iff rfl hmove
    (textColumns_count (by decide) (by decide) (by decide))).mpr ?_
  have hvalue : ∀ {c b type v}, (countResult nameBinding
      (countFetched "123456".toList)).BoundValue c b type v →
      b = nameBinding ∧ type = sqlChar ∧ v = "123456".toList := by
    rintro c b type v ⟨hbound, hv⟩
    obtain ⟨rfl, rfl, rfl⟩ := isBound_countResult hbound
    exact ⟨rfl, rfl, (Option.some.inj hv).symm⟩
  constructor
  · intro c b type v hb
    obtain ⟨rfl, rfl, rfl⟩ := hvalue hb
    exact fun _ => by decide
  · intro _ c b type v hb
    obtain ⟨rfl, rfl, rfl⟩ := hvalue hb
    exact fun _ => by decide

/-- In a buffer of four bytes it is cut to three digits, and the fetch succeeds. -/
theorem not_fetchesWhole_count :
    ¬ ∀ ctx stmt rs row rs', stmt.mQuery.mResultSet = some rs → rs.MovesTo row rs' →
      TextColumns ctx stmt rs' → FetchesWhole ctx stmt rs' := by
  intro h
  have hmove := countResult_movesTo ⟨sqlChar, 100, 4, 200⟩ "123456".toList
  obtain ⟨returned, hreturned, hwhole, -⟩ := h idleContext
    (countStatement ⟨sqlChar, 100, 4, 200⟩ "123456".toList) _ _ _ rfl hmove
    (textColumns_count (by decide) (by decide) (by decide))
  cases hreturned
  have hholds := hwhole rfl 1 ⟨sqlChar, 100, 4, 200⟩ sqlChar "123456".toList
    ⟨⟨_, rfl, rfl, rfl⟩, rfl⟩ (by decide)
  exact absurd hholds (by decide)

end RetsSTMT

end EzRets
