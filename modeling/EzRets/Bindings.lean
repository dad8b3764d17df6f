import EzRets.FetchRow
import EzRets.Lib.FirstFailure

/-!
# EzRets.Bindings — how long a column stays bound

A binding lives in a column of the current result set.  It survives every call that keeps the
query, and it is gone with the result set when a call installs a new query.
-/

namespace EzRets

open FaultRun FirstFailure

/-- The calls that fetch the next row. -/
def StmtCall.fetches : StmtCall → Bool
  | .fetch | .extendedFetch _ _ => true
  | .fetchScroll fetchOrientation => fetchOrientation = 1
  | _ => false

/-- The calls that end the binding of column `c`. -/
def StmtCall.undoes (c : Nat) : StmtCall → Bool
  | .freeStmt option => option = RetsSTMT.sqlUnbind
  | .bindCol columnNumber _ => columnNumber = c
  | _ => false

theorem ResultSet.getColumn_eq_some {rs : ResultSet} {c : Nat} {column : Column}
    (h : rs.getColumn c = some column) : c ≠ 0 ∧ rs.mColumns[c - 1]? = some column := by
  unfold ResultSet.getColumn at h
  split at h
  · cases h
  · exact ⟨‹_›, h⟩

theorem ResultSet.exists_getColumn {rs : ResultSet} {c : Nat} (hpos : 1 ≤ c)
    (hle : c ≤ rs.columnCount) : ∃ column, rs.getColumn c = some column := by
  have hlt : c - 1 < rs.mColumns.length := by
    have hcount : rs.mColumns.length = rs.columnCount := rfl
    omega
  refine ⟨rs.mColumns[c - 1], ?_⟩
  unfold ResultSet.getColumn
  rw [if_neg (by omega), List.getElem?_eq_getElem hlt]

theorem ResultSet.value_eq_some {rs : ResultSet} {c : Nat} {v : Str} (h : rs.value c = some v) :
    ∃ column row data, rs.getColumn c = some column ∧ rs.rows.current = .ok row ∧
      row.text column.mName (c - 1) = .ok data ∧ v = column.modifyData data := by
  unfold ResultSet.value at h
  split at h
  · rename_i column row hcolumn hrow
    split at h
    · rename_i data hdata
      exact ⟨column, row, data, hcolumn, hrow, hdata, (Option.some.inj h).symm⟩
    · cases h
  · cases h

/-! ## The bound columns of a row -/

/-- A bound column with the value that a row has for it. -/
structure BoundCell where
  index : Nat
  column : Column
  binding : Binding
  value : Str

/-- The bound columns of a row, in column order. -/
def boundCells (cols : List Column) (row : List Str) : List BoundCell :=
  (cols.zip row).zipIdx.filterMap fun cell =>
    cell.1.1.binding.map fun b => ⟨cell.2, cell.1.1, b, cell.1.2⟩

/-- The translation of a value for its binding. -/
def BoundCell.translated (deref : Deref) (ard : AppRowDesc) (dt : DataTranslator)
    (cell : BoundCell) : Translated :=
  cell.column.setData deref ard dt cell.index cell.value cell.binding none

/-- What the bound columns of a row receive: the stores of the translations, in column order, up to
the first that fails. -/
def boundStores (deref : Deref) (ard : AppRowDesc) (dt : DataTranslator) (cols : List Column)
    (row : List Str) : List Write :=
  (through (fun cell => (cell.translated deref ard dt).thrown.isSome)
    (boundCells cols row)).flatMap fun cell => (cell.translated deref ard dt).writes

section Stores

variable {deref : Deref} {ard : AppRowDesc} {dt : DataTranslator}

theorem setCells_eq_emit (count : Nat) (cells : List (Column × Str)) :
    setCells deref ard dt count cells =
      emit (fun cell => ((cellData deref ard dt cell.2 cell.1).writes,
        (cellData deref ard dt cell.2 cell.1).thrown)) (cells.zipIdx count) := by
  induction cells generalizing count with
  | nil => rfl
  | cons cell cells ih =>
    rw [setCells, List.zipIdx_cons, emit]
    dsimp only
    rcases (cellData deref ard dt count cell).thrown with _ | e
    · rw [ih]
    · rfl

/-- **The loop over the columns stores what the bound ones receive.** -/
theorem setCells_bulk (deref : Deref) (ard : AppRowDesc) (dt : DataTranslator) (cols : List Column)
    (row : List Str) :
    (setCells deref ard dt 0 (cols.zip row)).1 = boundStores deref ard dt cols row ∧
      (setCells deref ard dt 0 (cols.zip row)).2 =
        (boundCells cols row).findSome? fun cell => (cell.translated deref ard dt).thrown := by
  have hbound : setCells deref ard dt 0 (cols.zip row) =
      emit (fun cell : BoundCell => ((cell.translated deref ard dt).writes,
        (cell.translated deref ard dt).thrown)) (boundCells cols row) := by
    rw [setCells_eq_emit]
    refine emit_filterMap (fun cell hnone => ?_) (fun cell bound hsome => ?_) _
    · have hunbound : cell.1.1.binding = none := Option.map_eq_none_iff.mp hnone
      simp [cellData, hunbound]
    · obtain ⟨b, hb, rfl⟩ := Option.map_eq_some_iff.mp hsome
      simp [cellData, hb, BoundCell.translated]
  rw [hbound]
  exact ⟨emit_fst _, emit_snd _⟩

end Stores

namespace RetsSTMT

/-- Column `c` of the current result set is bound with the arguments `b`. -/
def BoundTo (stmt : RetsSTMT) (c : Nat) (b : Binding) : Prop :=
  ∃ rs column, stmt.mQuery.mResultSet = some rs ∧ rs.getColumn c = some column ∧
    column.binding = some b

/-- No column of the current result set is bound. -/
def Unbound (stmt : RetsSTMT) : Prop :=
  ∀ rs, stmt.mQuery.mResultSet = some rs → ∀ column ∈ rs.mColumns, column.binding = none

theorem BoundTo.not_unbound {stmt : RetsSTMT} {c : Nat} {b : Binding} (h : stmt.BoundTo c b) :
    ¬ stmt.Unbound := by
  obtain ⟨rs, column, hrs, hcolumn, hb⟩ := h
  intro hunbound
  have hmem := List.mem_of_getElem? (ResultSet.getColumn_eq_some hcolumn).2
  have hnone := hunbound rs hrs column hmem
  rw [hb] at hnone
  cases hnone

variable {ctx : CallContext} {stmt stmt' : RetsSTMT} {c : Nat} {b : Binding}

/-- A successful `SQLBindCol` binds the column. -/
theorem boundTo_of_bindCol {returned : Returned}
    (h : stmt.call ctx (.bindCol c b) = .ok returned) (hsuccess : returned.result = .success) :
    returned.stmt.BoundTo c b := by
  obtain ⟨out, hout, rfl⟩ := map_eq_ok.mp h
  simp only [uncaught, sqlBindCol, bind_eq_ok] at hout
  obtain ⟨bad, -, hout⟩ := hout
  split at hout
  · cases hout
    cases hsuccess
  · split at hout
    · cases hout
      cases hsuccess
    · obtain ⟨rs, hrs, hout⟩ := bind_eq_ok.mp hout
      cases hcolumn : rs.getColumn c with
      | none =>
        simp only [ResultSet.bindColumn, hcolumn] at hout
        cases hout
        cases hsuccess
      | some column =>
        simp only [ResultSet.bindColumn, hcolumn] at hout
        cases hout
        obtain ⟨hc, hget⟩ := ResultSet.getColumn_eq_some hcolumn
        have hlt : c - 1 < rs.mColumns.length := (List.getElem?_eq_some_iff.mp hget).1
        refine ⟨_, column.bind b, rfl, ?_, rfl⟩
        simp [ResultSet.getColumn, hc, hlt]

/-- **A step keeps a binding** unless it undoes it or installs a new query. -/
theorem StmtStep.boundTo {call : StmtCall} (hstep : StmtStep ctx call stmt stmt')
    (hb : stmt.BoundTo c b) (hundoes : call.undoes c = false)
    (hinstalls : call.installs ctx = false) : stmt'.BoundTo c b := by
  obtain ⟨rs, column, hrs, hcolumn, hbinding⟩ := hb
  cases hstep with
  | keep hq _ => exact ⟨rs, column, hq ▸ hrs, hcolumn, hbinding⟩
  | stream hq _ => exact ⟨rs, column, hq ▸ hrs, hcolumn, hbinding⟩
  | rows hrs' _ hq =>
    rw [hrs] at hrs'
    cases hrs'
    exact ⟨_, column, congrArg Query.mResultSet hq, hcolumn, hbinding⟩
  | bind hcall hrs' hbind hq =>
    subst hcall
    rw [hrs] at hrs'
    cases hrs'
    obtain ⟨other, hother, rfl⟩ := Option.map_eq_some_iff.mp hbind
    refine ⟨_, column, congrArg Query.mResultSet hq, ?_, hbinding⟩
    obtain ⟨hc, hget⟩ := ResultSet.getColumn_eq_some hcolumn
    obtain ⟨hn, -⟩ := ResultSet.getColumn_eq_some hother
    rename_i n _
    have hne : n - 1 ≠ c - 1 := by
      intro heq
      have hnc : n = c := by omega
      simp [StmtCall.undoes, hnc] at hundoes
    simp only [ResultSet.getColumn, if_neg hc]
    rw [List.getElem?_set_ne hne]
    exact hget
  | unbind hcall =>
    subst hcall
    simp [StmtCall.undoes] at hundoes
  | install hinst =>
    rw [hinst] at hinstalls
    cases hinstalls

/-! ## What a fetch writes -/

/-- The fetch stores column `c` of the row that the result set has moved to through `b`: the
translator's stores for its value stand in the list of all stores. -/
def WritesThrough (ctx : CallContext) (stmt : RetsSTMT) (c : Nat) (b : Binding) (rs : ResultSet)
    (writes : List Write) : Prop :=
  ∀ column v, rs.getColumn c = some column → rs.value c = some v → ∃ pre post, writes = pre ++
    (rs.mTranslator.translate v (column.getBestSqlType rs.mTranslator b.targetType)
      (Column.adjustTarget ctx.deref stmt.ard (c - 1) b none)).writes ++ post

/-- A fetch that returned a row has stored its bound columns. -/
theorem RowFetched.writesThrough {rs : ResultSet} {row : RowData} {out : StmtOut}
    (h : RowFetched ctx stmt rs row out) (hcurrent : rs.rows.current = .ok row)
    {column : Column} (hcolumn : rs.getColumn c = some column) (hb : column.binding = some b) :
    WritesThrough ctx stmt c b rs out.writes := by
  intro column' v hcolumn' hv
  obtain ⟨column'', row', data, hcolumn'', hrow', htext, rfl⟩ := ResultSet.value_eq_some hv
  rw [hcolumn] at hcolumn' hcolumn''
  cases hcolumn'
  cases hcolumn''
  rw [hcurrent] at hrow'
  cases hrow'
  have hget := (ResultSet.getColumn_eq_some hcolumn).2
  have hcell := RowData.cells_of_text h.readable hget htext
  obtain ⟨pre, post, hwrites, -⟩ := setCells_split h.sent hcell
  obtain ⟨status, -, hout⟩ := h.writes
  refine ⟨pre, post ++ status, ?_⟩
  rw [hout, hwrites]
  simp only [cellData, hb, Column.setData, Nat.zero_add, List.append_assoc]

/-- The fetching calls are `SQLFetch` and what it leaves. -/
theorem call_fetches {f : StmtCall} {returned : Returned} (hf : f.fetches = true)
    (h : stmt.call ctx f = .ok returned) :
    ∃ out post, stmt.sqlFetch ctx = .ok out ∧ returned.stmt.mQuery = out.stmt.mQuery ∧
      returned.result = (odbcEntry out.stmt.mErrors out.result).1 ∧
      returned.writes = out.writes ++ post := by
  obtain ⟨out, hout, rfl⟩ := map_eq_ok.mp h
  cases f with
  | fetch => exact ⟨out, [], hout, rfl, rfl, (List.append_nil _).symm⟩
  | fetchScroll orientation =>
    have horientation : orientation = 1 := of_decide_eq_true hf
    subst horientation
    exact ⟨out, [], hout, rfl, rfl, (List.append_nil _).symm⟩
  | extendedFetch p p' =>
    obtain ⟨fetched, hfetched, hout⟩ := bind_eq_ok.mp hout
    refine ⟨fetched, ?_⟩
    split at hout
    · cases hout
      exact ⟨[], hfetched, rfl, rfl, (List.append_nil _).symm⟩
    · split at hout
      · cases hout
      · cases hout
        exact ⟨_, hfetched, rfl, rfl, rfl⟩
  | _ => cases hf

/-- **A fetch stores a bound column.** -/
theorem writesThrough_of_boundTo {f : StmtCall} {returned : Returned} {rs rs' : ResultSet}
    {row : RowData} (hb : stmt.BoundTo c b) (hf : f.fetches = true)
    (hrs : stmt.mQuery.mResultSet = some rs) (hmove : rs.MovesTo row rs')
    (h : stmt.call ctx f = .ok returned) (hsuccess : returned.result = .success) :
    WritesThrough ctx stmt c b rs' returned.writes := by
  obtain ⟨out, post, hout, -, hresult, hwrites⟩ := call_fetches hf h
  obtain ⟨out', hout', -, hcases⟩ := sqlFetch_of_movesTo ctx hrs hmove
  rw [hout] at hout'
  cases hout'
  rw [hresult] at hsuccess
  obtain ⟨rs₀, column, hrs₀, hcolumn, hbinding⟩ := hb
  rw [hrs] at hrs₀
  cases hrs₀
  have hcolumn' : rs'.getColumn c = some column := by
    unfold ResultSet.getColumn
    rw [hmove.mColumns]
    exact hcolumn
  rcases hcases with hfetched | ⟨e, -, herror | herror⟩
  · intro column' v hc hv
    obtain ⟨pre, post', hout⟩ :=
      hfetched.writesThrough hmove.current hcolumn' hbinding column' v hc hv
    refine ⟨pre, post' ++ post, ?_⟩
    rw [hwrites, hout]
    simp only [List.append_assoc]
  · rw [herror] at hsuccess
    cases hsuccess
  · rw [herror] at hsuccess
    cases hsuccess

/-! ## Runs -/

/-- **Bindings last until they are undone**: after a successful `SQLBindCol`, every later fetch
that returns a row and succeeds writes the column through the binding, when no call in between
unbinds the columns or binds the same column again. -/
def BindingsLast (calls : List (CallContext × StmtCall)) : Prop :=
  ∀ before ctxB c b between ctxF f post stmt bound stmt' rs row rs' returned,
    calls = before ++ (ctxB, .bindCol c b) :: (between ++ (ctxF, f) :: post) →
    run before new = .ok stmt → stmt.call ctxB (.bindCol c b) = .ok bound →
    bound.result = .success → run between bound.stmt = .ok stmt' →
    (∀ p ∈ between, p.2.undoes c = false) → f.fetches = true →
    stmt'.mQuery.mResultSet = some rs → rs.MovesTo row rs' →
    stmt'.call ctxF f = .ok returned → returned.result = .success →
    WritesThrough ctxF stmt' c b rs' returned.writes

/-- The call installs no new query while a column is bound. -/
def SparesBindings (p : CallContext × StmtCall) (stmt : RetsSTMT) : Prop :=
  p.2.installs p.1 = true → stmt.Unbound

/-- A step over a call that spares bindings and does not undo this one keeps it. -/
theorem step_boundTo {p : CallContext × StmtCall} (hq : stmt.mQuery.WellFormed)
    (hspares : SparesBindings p stmt) (hundoes : p.2.undoes c = false) (hb : stmt.BoundTo c b)
    (h : step p stmt = .ok stmt') : stmt'.BoundTo c b := by
  obtain ⟨returned, hcall, rfl⟩ := map_eq_ok.mp h
  have hinstalls : p.2.installs p.1 = false := by
    rw [Bool.eq_false_iff]
    exact fun hinstalls => hb.not_unbound (hspares hinstalls)
  exact (call_step hq hcall).boundTo hb hundoes hinstalls

/-- **In a run that installs no query while a column is bound, the bindings last.** -/
theorem bindingsLast_of_meets {calls : List (CallContext × StmtCall)}
    (h : Meets step SparesBindings calls new) : BindingsLast calls := by
  intro before ctxB c b between ctxF f post stmt bound stmt' rs row rs' returned hcalls hbefore
    hbind hsuccess hbetween hundoes hf hrs hmove hcall hresult
  subst hcalls
  have hrun : step (ctxB, .bindCol c b) stmt = .ok bound.stmt := by
    unfold step
    rw [hbind]
    rfl
  have hmeets : Meets step SparesBindings between bound.stmt :=
    ((h.append hbefore).2 bound.stmt hrun).of_append
  have hwf : stmt.mQuery.WellFormed := run_wellFormed Query.wellFormed_new hbefore
  have hwf' : bound.stmt.mQuery.WellFormed := (call_step hwf hbind).wellFormed hwf
  have hbound : bound.stmt.BoundTo c b := boundTo_of_bindCol hbind hsuccess
  -- along the calls in between the query stays well formed and the column bound
  have hkept : stmt'.mQuery.WellFormed ∧ stmt'.BoundTo c b := by
    refine hmeets.invariant (I := fun s => s.mQuery.WellFormed ∧ s.BoundTo c b) ?_ ⟨hwf', hbound⟩
      hbetween
    rintro p hp s s' hspares ⟨hs, hsb⟩ hstep
    refine ⟨?_, step_boundTo hs hspares (hundoes p hp) hsb hstep⟩
    obtain ⟨r, hr, rfl⟩ := map_eq_ok.mp hstep
    exact (call_step hs hr).wellFormed hs
  exact writesThrough_of_boundTo hkept.2 hf hrs hmove hcall hresult

/-- A connection without a session, and memory that is all zero. -/
def idleContext : CallContext :=
  ⟨⟨DataSource.init, none, none, fun _ => .error (.retsSql [])⟩, fun _ => 0, fun _ => 0⟩

/-- A character buffer of 50 bytes at 100 with its indicator at 200. -/
def nameBinding : Binding := ⟨sqlChar, 100, 50, 200⟩

/-- The bound column of a type list is written by the fetch. -/
theorem bindingsLast_typeInfo :
    BindingsLast [(idleContext, .getTypeInfo sqlBit), (idleContext, .bindCol 1 nameBinding),
      (idleContext, .execute), (idleContext, .fetch)] := by
  refine bindingsLast_of_meets ⟨?_, fun s _ => ⟨?_, fun s _ => ⟨?_, fun s _ => ⟨?_, ?_⟩⟩⟩⟩
  · -- the fresh statement has no columns yet
    intro _ rs hrs
    cases hrs
  · exact fun h => (by cases h)
  · exact fun h => (by cases h)
  · exact fun h => (by cases h)
  · exact fun s _ => trivial

/-- Listing the types once more drops the binding: the fetch succeeds and writes nothing. -/
theorem not_bindingsLast_typeInfo :
    ¬ BindingsLast [(idleContext, .getTypeInfo sqlBit), (idleContext, .bindCol 1 nameBinding),
      (idleContext, .getTypeInfo sqlBit), (idleContext, .fetch)] := by
  intro h
  have hwrites := h [(idleContext, .getTypeInfo sqlBit)] idleContext 1 nameBinding
    [(idleContext, .getTypeInfo sqlBit)] idleContext .fetch [] _ _ _ _ _ _ _ rfl rfl rfl rfl rfl
    (by decide) rfl rfl ⟨rfl, _, _, rfl, rfl, rfl⟩ rfl rfl
  obtain ⟨pre, post, heq⟩ := hwrites _ "BOOLEAN".toList rfl rfl
  -- the list of stores is empty, the stores for the value are not
  have hprefix := (List.append_eq_nil_iff.mp heq.symm).1
  have hvalue := (List.append_eq_nil_iff.mp hprefix).2
  cases hvalue

end RetsSTMT

end EzRets
