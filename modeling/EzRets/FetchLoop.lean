import EzRets.FetchTruncation
import EzRets.GetData
import EzRets.ReExecution
import EzRets.Lib.Component

/-!
# EzRets.FetchLoop — what a fetch leaves in the buffers of an application

An application binds its text columns to buffers and indicators that it keeps apart.  Then a fetch
delivers the row that it moves to: every value whole in its buffer, and its length, or that it is
null, in its indicator.
-/

namespace EzRets

open FaultRun

/-! ## What a fetch of text leaves in the indicators -/

section Indicators

variable {v : Str} {t : Target} (dt : DataTranslator) {type : Int}

/-- Without a streaming state, too, lengths are stored at the indicator only. -/
theorem lenAt_translate_none {p : Ptr} (h : IsCharacter type ∨ IsBinary type)
    (ht : t.streamInfo = none) (htarget : t.target ≠ 0) (hp : p ≠ t.resultSize) :
    ∀ w ∈ (dt.translate v type t).writes, w.lenAt p = none := by
  have hsize : ∀ {n : Int}, ∀ w ∈ setResultSize t.resultSize n, w.lenAt p = none :=
    lenAt_setResultSize hp
  intro w hw
  by_cases hv : v = []
  · rw [hv, translate_nil dt h] at hw
    exact hsize w hw
  · rcases h with h | h
    · rw [dt.translate_character h, translateCharacter_none hv ht] at hw
      rcases List.mem_append.mp hw with hw | hw
      · unfold copyString at hw
        split at hw
        · cases hw
        · dsimp only at hw
          split at hw
          · simp only [List.mem_cons, List.not_mem_nil, or_false] at hw
            rcases hw with rfl | rfl <;> rfl
          · simp only [List.mem_cons, List.not_mem_nil, or_false] at hw
            rcases hw with rfl | rfl <;> rfl
      · exact hsize w hw
    · rw [dt.translate_binary h, translateBinary_none hv ht htarget] at hw
      rcases List.mem_cons.mp hw with rfl | hw
      · rfl
      · exact hsize w hw

/-- What the indicator of a value has to say. -/
def indicatorOf (v : Str) : Int := if v = [] then sqlNullData else v.length

/-- **A value that fits has its length in the indicator**, and an empty one is an SQL `NULL`. -/
theorem lenAfter_translate_none (h : IsCharacter type ∨ IsBinary type) (ht : t.streamInfo = none)
    (htarget : t.target ≠ 0) (hsize : t.resultSize ≠ 0) (hfits : Fits type v (toSize t.targetLen)) :
    lenAfter (dt.translate v type t).writes t.resultSize = some (indicatorOf v) := by
  unfold indicatorOf
  by_cases hv : v = []
  · rw [if_pos hv, hv, translate_nil dt h]
    exact lenAfter_setResultSize hsize
  · rw [if_neg hv]
    have hroom := hfits hv
    rcases h with h | h
    · have hwhole : (wholeText type v).length = v.length + 1 := by simp [wholeText, h]
      rw [hwhole] at hroom
      have hlt : v.length < toSize t.targetLen := by omega
      rw [dt.translate_character h, translateCharacter_none hv ht, copyString_of_fits htarget hlt,
        lenAfter_append, lenAfter_setResultSize hsize]
      rfl
    · have hwhole : (wholeText type v).length = v.length := by
        simp [wholeText, h.not_isCharacter]
      rw [hwhole] at hroom
      have hmin : (min (toSize t.targetLen) v.length : Int) = v.length := by omega
      rw [dt.translate_binary h, translateBinary_none hv ht htarget, lenAfter_cons, hmin,
        lenAfter_setResultSize hsize]
      rfl

end Indicators

/-! ## Rows and buffers -/

namespace ResultSet

/-- Column `c` is bound, and `v` is the decoded value that the row has for it. -/
def RowValue (rs : ResultSet) (row : RowData) (c : Nat) (b : Binding) (type : Int) (v : Str) :
    Prop :=
  rs.IsBound c b type ∧ ∃ column data, rs.getColumn c = some column ∧
    row.text column.mName (c - 1) = .ok data ∧ column.modifyData data = v

/-- The row can be read, and the buffers have room for all of its bound values. -/
structure RowHasRoom (rs : ResultSet) (row : RowData) : Prop where
  readable : (row.cells rs.mColumns).thrown = none
  fits : ∀ {c b type v}, rs.RowValue row c b type v → Fits type v b.bufferLength
  /-- The length of a binding is an `SQLLEN`, and only an `SQLINTEGER` reaches the worker. -/
  lt : ∀ {c b type}, rs.IsBound c b type → b.bufferLength < 2 ^ 31

/-- The values of the row are those of the result set that has moved to it. -/
theorem boundValue_iff {rs : ResultSet} {rows : RowSource} {row : RowData} {c : Nat} {b : Binding}
    {type : Int} {v : Str} (hcurrent : rows.current = .ok row) :
    ({ rs with rows := rows } : ResultSet).BoundValue c b type v ↔ rs.RowValue row c b type v := by
  refine and_congr Iff.rfl ?_
  constructor
  · intro hv
    obtain ⟨column, row', data, hcolumn, hrow, htext, rfl⟩ := value_eq_some hv
    obtain rfl := Except.ok.inj (hcurrent.symm.trans hrow)
    exact ⟨column, data, hcolumn, htext, rfl⟩
  · rintro ⟨column, data, hcolumn, htext, rfl⟩
    have hcolumn' : ({ rs with rows := rows } : ResultSet).getColumn c = some column := hcolumn
    simp only [value, hcolumn', hcurrent, htext]

end ResultSet

namespace RetsSTMT

/-- Bound text columns that have an indicator each, where nothing else is stored. -/
structure RowBuffers (ctx : CallContext) (stmt : RetsSTMT) (rs : ResultSet) : Prop extends
    TextColumns ctx stmt rs where
  indicator : ∀ {c b type}, rs.IsBound c b type → (fetchTarget ctx stmt c b).resultSize ≠ 0
  apart : ∀ {c c' b b' type type'}, c ≠ c' → rs.IsBound c b type → rs.IsBound c' b' type' →
    (fetchTarget ctx stmt c b).resultSize + 8 ≤ (fetchTarget ctx stmt c' b').resultSize ∨
    (fetchTarget ctx stmt c' b').resultSize + 8 ≤ (fetchTarget ctx stmt c b).resultSize
  outside : ∀ {c c' b b' type type'}, rs.IsBound c b type → rs.IsBound c' b' type' →
    (fetchTarget ctx stmt c b).target + b.bufferLength ≤ (fetchTarget ctx stmt c' b').resultSize ∨
    (fetchTarget ctx stmt c' b').resultSize + 8 ≤ (fetchTarget ctx stmt c b).target

/-- The answer of a fetch to an application: its return code and what it has stored. -/
structure RowInBuffers (ctx : CallContext) (stmt : RetsSTMT) (rs : ResultSet) (row : RowData)
    (answer : SqlReturn × List Write) : Prop where
  success : answer.1 = .success
  value : ∀ {c b type v}, rs.RowValue row c b type v →
    HoldsValue answer.2 (fetchTarget ctx stmt c b).target type v
  length : ∀ {c b type v}, rs.RowValue row c b type v →
    lenAfter answer.2 (fetchTarget ctx stmt c b).resultSize = some (indicatorOf v)

/-- What the loop gets from a fetch: the row, or that there is none. -/
def LoopAnswer (ctx : CallContext) (stmt : RetsSTMT) (rs : ResultSet) (row : Option RowData)
    (answer : SqlReturn × List Write) : Prop :=
  match row with
  | some row => RowInBuffers ctx stmt rs row answer
  | none => answer.1 = .noData

variable {ctx : CallContext} {stmt stmt' : RetsSTMT} {rs : ResultSet} {row : RowData}

theorem fetchTarget_congr (ctx : CallContext) (h : stmt'.ard = stmt.ard) :
    fetchTarget ctx stmt' = fetchTarget ctx stmt := by
  ext c b
  all_goals simp only [fetchTarget, h]

theorem LoopAnswer.of_ard {rows : RowSource} {row : Option RowData}
    {result : SqlReturn × List Write}
    (h : LoopAnswer ctx stmt' { rs with rows := rows } row result) (hard : stmt'.ard = stmt.ard) :
    LoopAnswer ctx stmt rs row result := by
  have htarget := fetchTarget_congr ctx hard
  unfold LoopAnswer at h ⊢
  split
  · refine ⟨h.success, fun hv => ?_, fun hv => ?_⟩
    · have hholds := h.value hv
      rwa [htarget] at hholds
    · have hlength := h.length hv
      rwa [htarget] at hlength
  · exact h

/-- Buffers are described by the row descriptor and by the columns. -/
theorem RowBuffers.of_ard {rows : RowSource} (h : RowBuffers ctx stmt rs)
    (hard : stmt'.ard = stmt.ard) : RowBuffers ctx stmt' { rs with rows := rows } := by
  have htarget := fetchTarget_congr ctx hard
  constructor
  · constructor
    · exact h.text
    · exact h.target
    · exact h.length
    · rw [htarget]
      exact h.disjoint
  · rw [htarget]
    exact h.indicator
  · rw [htarget]
    exact h.apart
  · rw [htarget]
    exact h.outside

/-! ## One fetch of the loop -/

/-- The indicators of other columns are elsewhere. -/
theorem RowBuffers.resultSize_ne (h : RowBuffers ctx stmt rs) {c c' : Nat} {b b' : Binding}
    {type type' : Int} (hne : c ≠ c') (hb : rs.IsBound c b type) (hb' : rs.IsBound c' b' type') :
    (fetchTarget ctx stmt c b).resultSize ≠ (fetchTarget ctx stmt c' b').resultSize := by
  intro heq
  have hapart := h.apart hne hb hb'
  rw [heq] at hapart
  have hcell : ∀ p : Nat, ¬ (p + 8 ≤ p ∨ p + 8 ≤ p) := by
    intro p
    omega
  exact hcell _ hapart

/-- **A length that reaches the worker**, as long as it is one of an `SQLINTEGER`. -/
theorem toSize_bufferLength {n : Int} (h1 : 1 ≤ n) (h2 : n < 2 ^ 31) :
    (toSize (toSqlInteger n) : Int) = n := by
  rw [toSqlInteger_of_lt (by omega) h2, toSize_of_lt (by omega) (by omega)]
  omega

/-- **The indicator of a column** holds what its own value leaves there. -/
theorem RowFetched.lenAfter_eq {out : StmtOut} {c : Nat} {b : Binding} {type : Int} {v : Str}
    (h : RowFetched ctx stmt rs row out) (hcurrent : rs.rows.current = .ok row)
    (hbuffers : RowBuffers ctx stmt rs) (hb : rs.BoundValue c b type v) :
    lenAfter out.writes (fetchTarget ctx stmt c b).resultSize =
      lenAfter (rs.mTranslator.translate v type (fetchTarget ctx stmt c b)).writes
        (fetchTarget ctx stmt c b).resultSize := by
  obtain ⟨cell, hget, hcell⟩ := cell_of_boundValue ctx stmt hcurrent h.readable hb
  obtain ⟨pre, post, hwrites, hother⟩ := setCells_split h.sent hget
  obtain ⟨status, hstatus, hout⟩ := h.writes
  have hrest : ∀ w ∈ pre ++ post, w.lenAt (fetchTarget ctx stmt c b).resultSize = none := by
    intro w hw
    obtain ⟨j, cell', hne, hj, hw'⟩ := hother w hw
    obtain hnone | ⟨b', type', v', hb', hcell'⟩ := boundValue_of_cell ctx stmt hcurrent hj
    · rw [hnone] at hw'
      cases hw'
    · rw [hcell'] at hw'
      have hc : c ≠ 0 := by
        obtain ⟨⟨column, hcolumn, -⟩, -⟩ := hb
        exact (ResultSet.getColumn_eq_some hcolumn).1
      exact lenAt_translate_none _ (hbuffers.text hb'.1) rfl
        (fetchTarget_ne_zero ctx stmt (j + 1) (hbuffers.target hb'.1))
        (hbuffers.resultSize_ne (by omega) hb.1 hb'.1) w hw'
  have hpre := lenAfter_eq_none fun w hw => hrest w (List.mem_append_left post hw)
  have hpost := lenAfter_eq_none fun w hw => hrest w (List.mem_append_right pre hw)
  have hstatus' := lenAfter_eq_none fun w hw =>
    (hstatus w hw).2 (fetchTarget ctx stmt c b).resultSize
  rw [hout, hwrites, hcell, lenAfter_append, lenAfter_append, lenAfter_append, hpre, hpost,
    hstatus']
  simp

/-- **One fetch of the loop** delivers the row that it moves to. -/
theorem answer_fetch_of_movesTo {rs' : ResultSet} (hrs : stmt.mQuery.mResultSet = some rs)
    (hmove : rs.MovesTo row rs') (hbuffers : RowBuffers ctx stmt rs)
    (hroom : rs.RowHasRoom row) :
    ∃ stmt' result, answer (ctx, .fetch) stmt = .ok (stmt', result) ∧
      RowInBuffers ctx stmt rs row result ∧ stmt'.ard = stmt.ard ∧
      stmt'.mQuery.mResultSet = some rs' ∧ stmt'.mDataStreamInfo = .reset := by
  obtain ⟨out, hout, hquery, hends⟩ := sqlFetch_of_movesTo ctx hrs hmove
  have hcurrent := hmove.current
  obtain ⟨-, rows, rows', -, -, rfl⟩ := hmove
  have hbuffers' : RowBuffers ctx stmt { rs with rows := rows' } := hbuffers.of_ard rfl
  have hsent := sent_of_textColumns hcurrent hbuffers'.toTextColumns
  -- a readable row of text converts
  have hfetched : RowFetched ctx stmt { rs with rows := rows' } row out := by
    rcases hends with hfetched | ⟨e, hthrown, -⟩
    · exact hfetched
    · rw [hsent, Option.none_or] at hthrown
      exact absurd (hroom.readable.symm.trans hthrown) (by simp)
  have hfits : ∀ c b type v, ({ rs with rows := rows' } : ResultSet).BoundValue c b type v →
      Fits type v b.bufferLength := fun c b type v hb =>
    hroom.fits ((ResultSet.boundValue_iff hcurrent).mp hb)
  have hworker : ∀ c b type v, rs.RowValue row c b type v →
      Fits type v (toSize (toSqlInteger b.bufferLength)) := by
    intro c b type v hv hne
    rw [toSize_bufferLength (hbuffers.length hv.1) (hroom.lt hv.1)]
    exact hroom.fits hv hne
  refine ⟨_, _, congrArg (Except.map _) (call_fetch hout), ?_, hfetched.ard, ?_,
    hfetched.mDataStreamInfo⟩
  · constructor
    · show (odbcEntry out.stmt.mErrors out.result).1 = .success
      rw [hfetched.success]
      rfl
    · intro c b type v hv
      have hb := (ResultSet.boundValue_iff hcurrent).mpr hv
      exact (hfetched.holdsValue_iff hcurrent hbuffers'.toTextColumns hfits hb).mpr
        (hworker c b type v hv)
    · intro c b type v hv
      have hb := (ResultSet.boundValue_iff hcurrent).mpr hv
      refine (hfetched.lenAfter_eq hcurrent hbuffers' hb).trans ?_
      exact lenAfter_translate_none _ (hbuffers.text hv.1) rfl
        (fetchTarget_ne_zero ctx stmt c (hbuffers.target hv.1)) (hbuffers.indicator hv.1)
        (hworker c b type v hv)
  · exact congrArg Query.mResultSet hquery

/-! ## Bindings and rows -/

/-- Binding a column moves no rows. -/
theorem step_bindCol_pendingRows {n : Nat} {b : Binding}
    (h : step (ctx, .bindCol n b) stmt = .ok stmt') : stmt'.pendingRows = stmt.pendingRows := by
  obtain ⟨returned, hcall, rfl⟩ := map_eq_ok.mp h
  obtain ⟨out, hout, rfl⟩ := map_eq_ok.mp hcall
  show out.stmt.pendingRows = stmt.pendingRows
  have hbind : stmt.sqlBindCol n b = .ok out := hout
  simp only [sqlBindCol, bind_eq_ok] at hbind
  obtain ⟨bad, -, hbind⟩ := hbind
  split at hbind
  · obtain rfl := Except.ok.inj hbind
    rfl
  · split at hbind
    · obtain rfl := Except.ok.inj hbind
      rfl
    · obtain ⟨rs, hrs, hbind⟩ := bind_eq_ok.mp hbind
      have hrs' : stmt.mQuery.mResultSet = some rs := (resultSet_eq_ok _).mp hrs
      rcases hbound : rs.bindColumn n b with _ | rs'
      · rw [hbound] at hbind
        obtain rfl := Except.ok.inj hbind
        rfl
      · rw [hbound] at hbind
        obtain rfl := Except.ok.inj hbind
        obtain ⟨column, -, rfl⟩ := Option.map_eq_some_iff.mp hbound
        rw [pendingRows_of_some hrs']
        rfl

theorem run_binds_pendingRows {binds : List (CallContext × StmtCall)}
    (hbinds : ∀ p ∈ binds, ∃ n b, p.2 = .bindCol n b) (h : run binds stmt = .ok stmt') :
    stmt'.pendingRows = stmt.pendingRows := by
  induction binds generalizing stmt with
  | nil =>
    cases h
    rfl
  | cons p binds ih =>
    obtain ⟨stmt₁, hstep, hrest⟩ := bind_eq_ok.mp h
    obtain ⟨ctx, call⟩ := p
    obtain ⟨n, b, hcall⟩ := hbinds (ctx, call) List.mem_cons_self
    have hcall' : call = .bindCol n b := hcall
    subst hcall'
    have hlater := ih (fun p hp => hbinds p (List.mem_cons_of_mem _ hp)) hrest
    exact hlater.trans (step_bindCol_pendingRows hstep)

/-- The statement that has prepared the text of a count. -/
def countPrepared : RetsSTMT :=
  new.setQuery ⟨.dataCount ⟨"Property".toList, "RES".toList, none, some "(ListPrice=1+)".toList, 0, 0,
    true⟩, some ⟨.default, DataCountQuery.columns, .bulk .new⟩⟩

/-- The buffers of a bound count are apart, and every count of at most 49 digits fits. -/
theorem rowBuffers_count {rows : BulkRows} (hard : stmt.ard = new.ard) :
    RowBuffers ctx stmt (countResult nameBinding rows) := by
  have hbound : ∀ {c b type}, (countResult nameBinding rows).IsBound c b type →
      c = 1 ∧ b = nameBinding :=
    fun h => ⟨(isBound_countResult h).1, (isBound_countResult h).2.1⟩
  have htarget := fetchTarget_congr ctx hard
  refine ⟨textColumns_count (by decide) (by decide) (by decide), fun h => ?_,
    fun hne h h' => absurd ((hbound h).1.trans (hbound h').1.symm) hne, fun h h' => ?_⟩
  · obtain ⟨rfl, rfl⟩ := hbound h
    rw [htarget]
    exact show (200 : Nat) ≠ 0 by decide
  · obtain ⟨rfl, rfl⟩ := hbound h
    obtain ⟨rfl, rfl⟩ := hbound h'
    rw [htarget]
    exact .inl (show ((100 : Nat) : Int) + 50 ≤ ((200 : Nat) : Int) by decide)

theorem rowHasRoom_count {rows : BulkRows} {count : Str} (hcount : count.length < 50) :
    (countResult nameBinding rows).RowHasRoom (.bulk [count]) := by
  refine ⟨rfl, fun h => ?_, fun h => ?_⟩
  · obtain ⟨hone, column, data, hcolumn, htext, rfl⟩ := h
    obtain ⟨rfl, rfl, rfl⟩ := isBound_countResult hone
    obtain rfl := Option.some.inj hcolumn
    obtain rfl := Except.ok.inj htext
    intro _
    have hwhole : (wholeText sqlChar count).length = count.length + 1 := List.length_append
    show ((wholeText sqlChar count).length : Int) ≤ 50
    omega
  · obtain ⟨-, rfl, -⟩ := isBound_countResult h
    decide

end RetsSTMT

end EzRets
