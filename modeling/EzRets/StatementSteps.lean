import EzRets.StatementCalls

/-!
# EzRets.StatementSteps — what a call can do to the query of a statement

One inversion lemma for all calls: a call keeps the query, moves the rows of its result set,
changes the bindings of its columns, or installs a new query that is prepared.  The invariants of
statements are read off these cases.
-/

namespace EzRets

open FaultRun

/-! ## Queries and their result sets -/

namespace Query

/-- A query has the result set of its type, and the `NullQuery` has none. -/
def WellFormed (q : Query) : Prop := q.mResultSet.map (·.rows.type) = q.kind.resultSetType

theorem wellFormed_new : new.WellFormed := rfl

theorem resultSetType_eq_none_iff {kind : QueryKind} :
    kind.resultSetType = none ↔ kind = .null := by
  cases kind <;> simp [QueryKind.resultSetType]

theorem WellFormed.kind_ne_null {q : Query} {rs : ResultSet} (hq : q.WellFormed)
    (hrs : q.mResultSet = some rs) : q.kind ≠ .null := by
  intro hkind
  rw [WellFormed, hrs, hkind] at hq
  cases hq

theorem WellFormed.exists_resultSet {q : Query} (hq : q.WellFormed) (hkind : q.kind ≠ .null) :
    ∃ rs, q.mResultSet = some rs := by
  cases hrs : q.mResultSet with
  | some rs => exact ⟨rs, rfl⟩
  | none =>
    rw [WellFormed, hrs] at hq
    exact absurd (resultSetType_eq_none_iff.mp hq.symm) hkind

theorem WellFormed.resultSet_eq_none {q : Query} (hq : q.WellFormed) (hkind : q.kind = .null) :
    q.mResultSet = none := by
  cases hrs : q.mResultSet with
  | none => rfl
  | some rs => exact absurd hkind (hq.kind_ne_null hrs)

/-- Other rows of the same type and other bindings keep a query well formed. -/
theorem WellFormed.of_type_eq {q : Query} {rs rs' : ResultSet} (hq : q.WellFormed)
    (hrs : q.mResultSet = some rs) (ht : rs'.rows.type = rs.rows.type) :
    ({ q with mResultSet := some rs' } : Query).WellFormed := by
  rw [WellFormed, hrs] at hq
  simpa [WellFormed, ht] using hq

theorem prepareChecked_rows {columns : List Column} {check : Option Exn} {rs : ResultSet}
    (h : prepareChecked columns check = .ok rs) : rs.rows.type = .bulk := by
  cases check with
  | some e => cases h
  | none =>
    cases h
    rfl

theorem onDemandData_rows {conn : Connection} {useCompactFormat : Bool} {q : DmqlQuery}
    {rs : ResultSet}
    (h : OnDemandDataQuery.prepareResultSet conn useCompactFormat q = .ok (.ok rs)) :
    rs.rows.type = .onDemand := by
  simp only [OnDemandDataQuery.prepareResultSet, bind_eq_ok] at h
  obtain ⟨v, -, h⟩ := h
  cases hc : v.getClass q.getResource q.getClass with
  | none =>
    rw [hc] at h
    cases h
  | some clazz =>
    rw [hc] at h
    dsimp only at h
    split at h
    · cases h
    · obtain ⟨_, -, h⟩ := bind_eq_ok.mp h
      cases h
      rfl

/-- **Preparing a query makes a result set of its type.** -/
theorem prepareResultSet_wellFormed {conn : Connection} {kind : QueryKind} {rs : ResultSet}
    (hkind : kind ≠ .null) (h : prepareResultSet conn kind = .ok (.ok rs)) :
    (⟨kind, some rs⟩ : Query).WellFormed := by
  have checked : ∀ {columns : List Column} {check : Except Fault (Option Exn)},
      check.map (prepareChecked columns) = .ok (.ok rs) → rs.rows.type = .bulk := by
    intro columns check h
    obtain ⟨e, -, he⟩ := map_eq_ok.mp h
    exact prepareChecked_rows he
  unfold WellFormed
  cases kind with
  | null => exact absurd rfl hkind
  | dataCount q => exact congrArg some (checked h)
  | lookup q => exact congrArg some (checked h)
  | lookupColumns q => exact congrArg some (checked h)
  | onDemandData useCompactFormat q => exact congrArg some (onDemandData_rows h)
  | onDemandObject q =>
    cases h
    rfl
  | tableMetadata _ _ _ _ =>
    cases h
    rfl
  | columnMetadata _ _ =>
    cases h
    rfl
  | typeInfo _ =>
    cases h
    rfl
  | specialColumns _ _ _ _ =>
    cases h
    rfl
  | statistics =>
    cases h
    rfl
  | primaryKeys _ =>
    cases h
    rfl

theorem executeOnDemand_query {α : Type} {q : Query} {answer : Except Exn α} {store : α → RowSource}
    {out : Executed} (h : q.executeOnDemand answer store = .ok out) :
    out.query = q ∨
      ∃ rs results, q.mResultSet = some rs ∧ out.query = q.setRows rs (store results) := by
  unfold executeOnDemand at h
  cases answer with
  | error e =>
    cases h
    exact .inl rfl
  | ok results =>
    cases hrs : q.mResultSet with
    | none =>
      simp only [hrs] at h
      cases h
    | some rs =>
      simp only [hrs] at h
      cases h
      exact .inr ⟨rs, results, rfl, rfl⟩

/-- **An execution moves the rows of the result set, or leaves the query alone.** -/
theorem execute_query {conn : Connection} {q : Query} {out : Executed} (hq : q.WellFormed)
    (h : q.execute conn = .ok out) :
    out.query = q ∨ ∃ rs rows, q.mResultSet = some rs ∧ rows.type = rs.rows.type ∧
      out.query = q.setRows rs rows := by
  have htype : ∀ {rs : ResultSet} {t : ResultSetType}, q.mResultSet = some rs →
      q.kind.resultSetType = some t → t = rs.rows.type := by
    intro rs t hrs ht
    rw [WellFormed, hrs, ht] at hq
    exact (Option.some.inj hq).symm
  unfold execute at h
  split at h
  · cases h
    exact .inl rfl
  · rename_i hkind
    split at h
    · obtain ⟨answer, -, h⟩ := bind_eq_ok.mp h
      obtain h | ⟨rs, results, hrs, h⟩ := executeOnDemand_query h
      · exact .inl h
      · exact .inr ⟨rs, _, hrs, htype hrs (by rw [hkind]; rfl), h⟩
    · cases h
      exact .inl rfl
  · rename_i hkind
    obtain ⟨answer, -, h⟩ := bind_eq_ok.mp h
    obtain h | ⟨rs, results, hrs, h⟩ := executeOnDemand_query h
    · exact .inl h
    · exact .inr ⟨rs, _, hrs, htype hrs (by rw [hkind]; rfl), h⟩
  · split at h
    · rename_i hrs
      split at h
      · obtain ⟨execution, -, rfl⟩ := map_eq_ok.mp h
        refine .inr ⟨_, _, hrs, ?_, rfl⟩
        rfl
      · cases h
        exact .inl rfl
    · cases h

end Query

namespace RetsSTMT

/-! ## Steps of a statement -/

section Fields

variable (stmt : RetsSTMT)

@[simp] theorem clearErrors_mQuery : stmt.clearErrors.mQuery = stmt.mQuery := rfl

@[simp] theorem clearErrors_mDataStreamInfo :
    stmt.clearErrors.mDataStreamInfo = stmt.mDataStreamInfo := rfl

@[simp] theorem clearErrors_ard : stmt.clearErrors.ard = stmt.ard := rfl

@[simp] theorem clearErrors_resultSet : stmt.clearErrors.resultSet = stmt.resultSet := rfl

@[simp] theorem addError_mQuery (e : Error) : (stmt.addError e).mQuery = stmt.mQuery := rfl

@[simp] theorem addError_mDataStreamInfo (e : Error) :
    (stmt.addError e).mDataStreamInfo = stmt.mDataStreamInfo := rfl

theorem resultSet_eq_ok {rs : ResultSet} :
    stmt.resultSet = .ok rs ↔ stmt.mQuery.mResultSet = some rs := by
  unfold resultSet
  cases stmt.mQuery.mResultSet with
  | none => exact ⟨fun h => (by cases h), fun h => (by cases h)⟩
  | some rs' => exact ⟨fun h => congrArg some (Except.ok.inj h),
      fun h => congrArg Except.ok (Option.some.inj h)⟩

theorem resultSet_eq_error {f : Fault} :
    stmt.resultSet = .error f ↔ stmt.mQuery.mResultSet = none ∧ f = .nullResultSet := by
  unfold resultSet
  cases stmt.mQuery.mResultSet with
  | none =>
    exact ⟨fun h => ⟨rfl, (Except.error.inj h).symm⟩, fun h => congrArg Except.error h.2.symm⟩
  | some rs' => exact ⟨fun h => (by cases h), fun h => (by cases h.1)⟩

end Fields

/-- What the entry wrapper of a recording call makes of its outcome. -/
def entered (out : StmtOut) : Returned :=
  ⟨{ out.stmt with mErrors := (odbcEntry out.stmt.mErrors out.result).2 },
    (odbcEntry out.stmt.mErrors out.result).1, out.writes⟩

theorem call_of_uncaught {ctx : CallContext} {stmt : RetsSTMT} {c : StmtCall} {out : StmtOut}
    (hc : entryRecords c = true) (h : stmt.uncaught ctx c = .ok out) :
    stmt.call ctx c = .ok (entered out) := by
  unfold call
  rw [h]
  simp only [Except.map, hc, if_true]
  rfl

/-- What a call `c` can do to the query and the streaming state of a statement. -/
inductive StmtStep (ctx : CallContext) (c : StmtCall) (stmt : RetsSTMT) : RetsSTMT → Prop
  /-- Neither is touched. -/
  | keep {stmt' : RetsSTMT} : stmt'.mQuery = stmt.mQuery →
      stmt'.mDataStreamInfo = stmt.mDataStreamInfo → StmtStep ctx c stmt stmt'
  /-- A column is read in portions, or has been read to its end before. -/
  | stream {stmt' : RetsSTMT} : stmt'.mQuery = stmt.mQuery →
      (stmt.mQuery.mResultSet.isSome ∨ stmt.mDataStreamInfo.status = .noMoreData) →
      StmtStep ctx c stmt stmt'
  /-- The cursor moves, or an execution refills the result set. -/
  | rows {stmt' : RetsSTMT} {rs : ResultSet} {rows : RowSource} :
      stmt.mQuery.mResultSet = some rs → rows.type = rs.rows.type →
      stmt'.mQuery = stmt.mQuery.setRows rs rows → StmtStep ctx c stmt stmt'
  /-- A column is bound. -/
  | bind {stmt' : RetsSTMT} {n : Nat} {b : Binding} {rs rs' : ResultSet} :
      c = .bindCol n b → stmt.mQuery.mResultSet = some rs → rs.bindColumn n b = some rs' →
      stmt'.mQuery = { stmt.mQuery with mResultSet := some rs' } → StmtStep ctx c stmt stmt'
  /-- All columns are unbound. -/
  | unbind {stmt' : RetsSTMT} {rs : ResultSet} :
      c = .freeStmt sqlUnbind → stmt.mQuery.mResultSet = some rs →
      stmt'.mQuery = { stmt.mQuery with mResultSet := some rs.unbindColumns } →
      StmtStep ctx c stmt stmt'
  /-- A new query is installed and perhaps executed. -/
  | install {stmt' : RetsSTMT} {kind : QueryKind} {rs : ResultSet} {rows : RowSource} :
      c.installs ctx = true → kind ≠ .null →
      Query.prepareResultSet ctx.conn kind = .ok (.ok rs) → rows.type = rs.rows.type →
      stmt'.mQuery = ⟨kind, some { rs with rows := rows }⟩ → StmtStep ctx c stmt stmt'

/-- Only the query and the streaming state of the two statements count. -/
theorem StmtStep.congr {ctx : CallContext} {c : StmtCall} {stmt₁ stmt₂ stmt₁' stmt₂' : RetsSTMT}
    (hq : stmt₁.mQuery = stmt₂.mQuery) (hi : stmt₁.mDataStreamInfo = stmt₂.mDataStreamInfo)
    (hq' : stmt₁'.mQuery = stmt₂'.mQuery) (hi' : stmt₁'.mDataStreamInfo = stmt₂'.mDataStreamInfo)
    (h : StmtStep ctx c stmt₁ stmt₁') : StmtStep ctx c stmt₂ stmt₂' := by
  cases h with
  | keep h1 h2 => exact .keep (hq' ▸ hq ▸ h1) (hi' ▸ hi ▸ h2)
  | stream h1 h2 => exact .stream (hq' ▸ hq ▸ h1) (hq ▸ hi ▸ h2)
  | rows h1 h2 h3 => exact .rows (hq ▸ h1) h2 (hq' ▸ hq ▸ h3)
  | bind h1 h2 h3 h4 => exact .bind h1 (hq ▸ h2) h3 (hq' ▸ hq ▸ h4)
  | unbind h1 h2 h3 => exact .unbind h1 (hq ▸ h2) (hq' ▸ hq ▸ h3)
  | install h1 h2 h3 h4 h5 => exact .install h1 h2 h3 h4 (hq' ▸ h5)

variable {ctx : CallContext} {stmt : RetsSTMT} {out : StmtOut}

theorem sqlBindCol_step {n : Nat} {b : Binding} (h : stmt.sqlBindCol n b = .ok out) :
    StmtStep ctx (.bindCol n b) stmt out.stmt := by
  simp only [sqlBindCol, bind_eq_ok] at h
  obtain ⟨bad, -, h⟩ := h
  split at h
  · cases h
    exact .keep rfl rfl
  · split at h
    · cases h
      exact .keep rfl rfl
    · obtain ⟨rs, hrs, h⟩ := bind_eq_ok.mp h
      have hrs' := (resultSet_eq_ok _).mp hrs
      cases hb : rs.bindColumn n b with
      | none =>
        rw [hb] at h
        cases h
        exact .keep rfl rfl
      | some rs' =>
        rw [hb] at h
        cases h
        exact .bind rfl hrs' hb rfl

theorem sqlDescribeCol_step {c : StmtCall} {n : Nat} {a : DescribeColArgs}
    (h : stmt.sqlDescribeCol n a = .ok out) : StmtStep ctx c stmt out.stmt := by
  simp only [sqlDescribeCol, bind_eq_ok] at h
  obtain ⟨bad, -, h⟩ := h
  split at h
  · cases h
    exact .keep rfl rfl
  · obtain ⟨rs, -, h⟩ := bind_eq_ok.mp h
    split at h
    · cases h
      exact .keep rfl rfl
    · split at h
      · cases h
      · cases h
        exact .keep rfl rfl

theorem sqlNumResultCols_step {c : StmtCall} {p : Ptr} (h : stmt.sqlNumResultCols p = .ok out) :
    StmtStep ctx c stmt out.stmt := by
  simp only [sqlNumResultCols, bind_eq_ok] at h
  obtain ⟨rs, -, h⟩ := h
  split_ifs at h
  · cases h
    exact .keep rfl rfl
  · cases h
    exact .keep rfl rfl

theorem sqlRowCount_step {c : StmtCall} {p : Ptr} (h : stmt.sqlRowCount p = .ok out) :
    StmtStep ctx c stmt out.stmt := by
  simp only [sqlRowCount, bind_eq_ok] at h
  obtain ⟨rs, -, h⟩ := h
  split_ifs at h
  cases h
  exact .keep rfl rfl

theorem sqlColAttribute_step {c : StmtCall} {n f : Nat} {a : ColAttributeArgs}
    (h : stmt.sqlColAttribute ctx n f a = .ok out) : StmtStep ctx c stmt out.stmt := by
  have hset : ∀ (s : RetsSTMT) (value : Str), (s.setString a value).stmt.mQuery = s.mQuery ∧
      (s.setString a value).stmt.mDataStreamInfo = s.mDataStreamInfo := by
    intro s value
    unfold setString
    dsimp only
    split <;> exact ⟨rfl, rfl⟩
  unfold sqlColAttribute at h
  dsimp only at h
  split at h
  · cases h
    exact .keep rfl rfl
  · split at h
    · cases h
      exact .keep rfl rfl
    · split at h
      · cases h
        exact .keep rfl rfl
      · split at h
        · cases h
          exact .keep rfl rfl
        · cases h
          split
          · exact .keep (hset _ _).1 (hset _ _).2
          · exact .keep (hset _ _).1 (hset _ _).2
        · split at h
          · cases h
          · cases h
            exact .keep rfl rfl

theorem fetchRow_step {c : StmtCall} {rs : ResultSet} {rows : RowSource}
    (hrs : stmt.mQuery.mResultSet = some rs) (ht : rows.type = rs.rows.type)
    (h : stmt.fetchRow ctx { rs with rows := rows } = .ok out) : StmtStep ctx c stmt out.stmt := by
  simp only [fetchRow, bind_eq_ok] at h
  obtain ⟨processed, hp, h⟩ := h
  obtain ⟨⟨row, rows'⟩, hadvance, rfl⟩ := map_eq_ok.mp hp
  have ht' : rows'.type = rs.rows.type := (RowSource.advance_type hadvance).trans ht
  split at h
  · cases h
    exact .rows hrs ht' rfl
  · split at h
    · cases h
      exact .rows hrs ht' rfl
    · cases h
      exact .rows hrs ht' rfl

theorem sqlFetch_step {c : StmtCall} (h : stmt.sqlFetch ctx = .ok out) :
    StmtStep ctx c stmt out.stmt := by
  simp only [sqlFetch, bind_eq_ok] at h
  obtain ⟨rs, hrs, h⟩ := h
  have hrs' := (resultSet_eq_ok _).mp hrs
  have ht := rs.rows.hasNext_type
  split at h
  · cases h
    exact .keep rfl rfl
  · split at h
    · cases h
      exact .rows hrs' ht rfl
    · cases h
      exact .rows hrs' ht rfl
    · have hstep : StmtStep ctx c stmt.clearErrors out.stmt := fetchRow_step hrs' ht h
      refine StmtStep.congr ?_ ?_ ?_ ?_ hstep <;> rfl

theorem sqlExtendedFetch_step {c : StmtCall} {p p' : Ptr}
    (h : stmt.sqlExtendedFetch ctx p p' = .ok out) : StmtStep ctx c stmt out.stmt := by
  simp only [sqlExtendedFetch, bind_eq_ok] at h
  obtain ⟨fetched, hf, h⟩ := h
  have hstep : StmtStep ctx c stmt.clearErrors fetched.stmt := sqlFetch_step hf
  have hstep' : StmtStep ctx c stmt fetched.stmt := by
    refine StmtStep.congr ?_ ?_ ?_ ?_ hstep <;> rfl
  split at h
  · cases h
    exact hstep'
  · split at h
    · cases h
    · cases h
      exact hstep'

theorem sqlFetchScroll_step {c : StmtCall} {orientation : Int}
    (h : stmt.sqlFetchScroll ctx orientation = .ok out) : StmtStep ctx c stmt out.stmt := by
  unfold sqlFetchScroll at h
  dsimp only at h
  split at h
  · cases h
    exact .keep rfl rfl
  · have hstep : StmtStep ctx c stmt.clearErrors out.stmt := sqlFetch_step h
    refine StmtStep.congr ?_ ?_ ?_ ?_ hstep <;> rfl

theorem sqlGetData_step {c : StmtCall} {n : Nat} {b : Binding}
    (h : stmt.sqlGetData ctx n b = .ok out) : StmtStep ctx c stmt out.stmt := by
  simp only [sqlGetData, bind_eq_ok] at h
  obtain ⟨bad, -, h⟩ := h
  split at h
  · cases h
    exact .keep rfl rfl
  · split at h
    · rename_i hstatus
      cases h
      -- a column that starts afresh is not at its end
      have hcolumn : stmt.mDataStreamInfo.column = n := by
        by_contra hne
        simp [streamFor, clearErrors, hne, DataStreamInfo.reset] at hstatus
      have hstream : stmt.streamFor n = stmt.mDataStreamInfo := by
        simp [streamFor, hcolumn]
      refine .stream rfl (.inr ?_)
      rw [← hstream]
      exact hstatus
    · obtain ⟨rs, hrs, h⟩ := bind_eq_ok.mp h
      have hsome : stmt.mQuery.mResultSet.isSome := by
        have hrs' := (resultSet_eq_ok _).mp hrs
        exact Option.isSome_iff_exists.mpr ⟨rs, hrs'⟩
      obtain ⟨translated, -, h⟩ := bind_eq_ok.mp h
      split at h
      · split at h
        · cases h
          exact .stream rfl (.inl hsome)
        · cases h
          exact .stream rfl (.inl hsome)
      · split at h
        · cases h
          exact .stream rfl (.inl hsome)
        · cases h
          exact .stream rfl (.inl hsome)

theorem sqlFreeStmt_step {option : Nat} (h : stmt.sqlFreeStmt option = .ok out) :
    StmtStep ctx (.freeStmt option) stmt out.stmt := by
  unfold sqlFreeStmt at h
  split at h
  · rename_i hoption
    obtain ⟨rs, hrs, rfl⟩ := map_eq_ok.mp h
    have hrs' := (resultSet_eq_ok _).mp hrs
    exact .unbind (congrArg StmtCall.freeStmt hoption) hrs' rfl
  · cases h
    exact .keep rfl rfl

/-! ### Preparing and executing -/

theorem executed_mQuery (stmt : RetsSTMT) (done : Query.Executed) (caught : Exn → Option Error) :
    (stmt.executed done caught).stmt.mQuery = done.query := by
  unfold executed
  split
  · rfl
  · split <;> rfl

theorem executed_mDataStreamInfo (stmt : RetsSTMT) (done : Query.Executed)
    (caught : Exn → Option Error) :
    (stmt.executed done caught).stmt.mDataStreamInfo = stmt.mDataStreamInfo := by
  unfold executed
  split
  · rfl
  · split <;> rfl

theorem sqlExecute_query (hq : stmt.mQuery.WellFormed) (h : stmt.sqlExecute ctx = .ok out) :
    out.stmt.mQuery = stmt.mQuery ∨ ∃ rs rows, stmt.mQuery.mResultSet = some rs ∧
      rows.type = rs.rows.type ∧ out.stmt.mQuery = stmt.mQuery.setRows rs rows := by
  obtain ⟨done, hdone, rfl⟩ := map_eq_ok.mp h
  rw [executed_mQuery]
  exact Query.execute_query hq hdone

theorem sqlExecute_step {c : StmtCall} (hq : stmt.mQuery.WellFormed)
    (h : stmt.sqlExecute ctx = .ok out) : StmtStep ctx c stmt out.stmt := by
  obtain hkeep | ⟨rs, rows, hrs, ht, hrows⟩ := sqlExecute_query hq h
  · obtain ⟨done, -, rfl⟩ := map_eq_ok.mp h
    exact .keep hkeep (executed_mDataStreamInfo _ _ _)
  · exact .rows hrs ht hrows

/-- A query that compiles comes from a kind other than `NullQuery` that prepares. -/
theorem createSqlQuery_eq_ok {conn : Connection} {statement : Str} {q : Query}
    (h : Query.createSqlQuery conn statement = .ok (.ok q)) :
    ∃ kind rs, kind ≠ .null ∧ Query.prepareResultSet conn kind = .ok (.ok rs) ∧
      q = ⟨kind, some rs⟩ := by
  unfold Query.createSqlQuery at h
  split at h
  · cases h
  · rename_i kind hkind
    obtain ⟨prepared, hprepared, hq⟩ := map_eq_ok.mp h
    obtain ⟨rs, rfl, rfl⟩ := map_eq_ok.mp hq
    refine ⟨kind, rs, ?_, hprepared, rfl⟩
    obtain ⟨compiled, -, hcompiled⟩ := bind_eq_ok.mp hkind
    rintro rfl
    cases compiled with
    | dmql q =>
      simp only [Query.ofCompiled] at hcompiled
      split at hcompiled <;> cases hcompiled
    | getObject q => cases hcompiled
    | lookup q => cases hcompiled
    | lookupColumns q => cases hcompiled
    | other => cases hcompiled

/-- An exception is not the read of a null text. -/
theorem avoids_thrown (x : Except Exn Str) :
    Avoids ArgumentFailure.nullText (x.mapError .thrown) := by
  cases x with
  | error e => exact avoids_error (by simp)
  | ok text => exact avoids_ok _ _

/-- A statement text that is null is refused, not read. -/
theorem avoids_statement (t : SqlText) : Avoids ArgumentFailure.nullText t.statement := by
  unfold SqlText.statement
  split_ifs
  · exact avoids_error (by simp)
  · exact avoids_thrown _

theorem avoids_toStr {t : SqlText} (ht : t.bytes.isSome ∨ ¬ t.ReadsBytes) :
    Avoids ArgumentFailure.nullText t.toStr := by
  unfold SqlText.toStr
  rw [if_neg]
  · exact avoids_thrown _
  · rintro ⟨hnull, hreads⟩
    rcases ht with hsome | hspared
    · rw [Option.isNone_iff_eq_none.mp hnull] at hsome
      cases hsome
    · exact hspared hreads

theorem avoids_loggedText (t : SqlText) : Avoids ArgumentFailure.nullText t.loggedText := by
  unfold SqlText.loggedText
  split_ifs
  · exact avoids_thrown _
  · exact avoids_ok _ _

theorem avoids_refuseCatalog (t : SqlText) :
    Avoids ArgumentFailure.nullText (refuseCatalog t) := by
  unfold refuseCatalog
  split_ifs
  · exact (avoids_thrown _).bind fun _ _ => avoids_error (by simp [catalogRefused])
  · exact avoids_ok _ _

theorem avoids_refuseRestricted (t : SqlText) {failure : ArgumentFailure}
    (h : failure ≠ .nullText) : Avoids ArgumentFailure.nullText (refuseRestricted t failure) := by
  refine (avoids_thrown _).bind fun pattern _ => ?_
  split_ifs
  · exact avoids_error h
  · exact avoids_ok _ _

/-- Arguments that come to nothing without undefined behaviour end the call. -/
theorem fails_returns {failure : ArgumentFailure} (h : failure ≠ .nullText) :
    ∃ out, stmt.fails failure = .ok out := by
  cases failure with
  | nullText => exact absurd rfl h
  | thrown e => exact ⟨_, rfl⟩
  | refused e => exact ⟨_, rfl⟩

/-- Arguments that come to nothing keep the query and the stream. -/
theorem fails_keeps {failure : ArgumentFailure} (h : stmt.fails failure = .ok out) :
    out.stmt.mQuery = stmt.mQuery ∧ out.stmt.mDataStreamInfo = stmt.mDataStreamInfo ∧
      out.result ≠ .ok .success := by
  cases failure with
  | nullText => cases h
  | thrown e =>
    cases h
    exact ⟨rfl, rfl, by simp [throws]⟩
  | refused e =>
    cases h
    exact ⟨rfl, rfl, by simp [raises]⟩

/-- `SQLPrepare` installs the query that it compiled, or changes neither query nor stream. -/
theorem sqlPrepare_cases {statementText : SqlText}
    (h : stmt.sqlPrepare ctx statementText = .ok out) :
    (∃ statement q, statementText.statement = .ok statement ∧
      Query.createSqlQuery ctx.conn statement = .ok (.ok q) ∧ out.stmt.mQuery = q ∧
      out.result = .ok .success) ∨
    (out.stmt.mQuery = stmt.mQuery ∧ out.stmt.mDataStreamInfo = stmt.mDataStreamInfo ∧
      out.result ≠ .ok .success) := by
  unfold sqlPrepare at h
  split at h
  · obtain ⟨hq, hi, hresult⟩ := fails_keeps h
    exact .inr ⟨hq, hi, hresult⟩
  · rename_i statement hstatement
    obtain ⟨created, hcreated, rfl⟩ := map_eq_ok.mp h
    split
    · exact .inl ⟨statement, _, hstatement, hcreated, rfl, rfl⟩
    · exact .inr ⟨rfl, rfl, by simp [raises]⟩
    · exact .inr ⟨rfl, rfl, by simp [raises]⟩
    · exact .inr ⟨rfl, rfl, by simp [throws]⟩

theorem sqlPrepare_step {statementText : SqlText}
    (h : stmt.sqlPrepare ctx statementText = .ok out) :
    StmtStep ctx (.prepare statementText) stmt out.stmt := by
  obtain ⟨statement, q, hstatement, hcreated, hq, -⟩ | ⟨hq, hi, -⟩ := sqlPrepare_cases h
  · obtain ⟨kind, rs, hkind, hprepared, rfl⟩ := createSqlQuery_eq_ok hcreated
    refine .install ?_ hkind hprepared rfl hq
    simp [StmtCall.installs, hstatement, hcreated]
  · exact .keep hq hi

theorem sqlExecDirect_step {statementText : SqlText}
    (h : stmt.sqlExecDirect ctx statementText = .ok out) :
    StmtStep ctx (.execDirect statementText) stmt out.stmt := by
  simp only [sqlExecDirect, bind_eq_ok] at h
  obtain ⟨prepared, hprep, h⟩ := h
  obtain ⟨statement, q, hstatement, hcreated, hq, hresult⟩ | ⟨hq, hi, hresult⟩ :=
    sqlPrepare_cases hprep
  · obtain ⟨kind, rs, hkind, hprepared, rfl⟩ := createSqlQuery_eq_ok hcreated
    have hinstalls : StmtCall.installs ctx (.execDirect statementText) = true := by
      simp [StmtCall.installs, hstatement, hcreated]
    have hwf : prepared.stmt.mQuery.WellFormed := by
      rw [hq]
      exact Query.prepareResultSet_wellFormed hkind hprepared
    simp only [hresult] at h
    obtain hkeep | ⟨rs', rows, hrs', ht, hrows⟩ := sqlExecute_query hwf h
    · exact .install hinstalls hkind hprepared rfl (hkeep.trans hq)
    · rw [hq] at hrs' hrows
      cases hrs'
      exact .install hinstalls hkind hprepared ht hrows
  · split at h
    · rename_i hsuccess
      exact absurd hsuccess hresult
    · cases h
      exact .keep hq hi

/-- The catalog queries always prepare. -/
def QueryKind.IsCatalog (kind : QueryKind) : Prop :=
  kind ≠ .null ∧ ∀ conn, ∃ rs, Query.prepareResultSet conn kind = .ok (.ok rs)

/-- The query that a catalog call leaves. -/
theorem runCatalog_query {kind : QueryKind} {caught : Exn → Option Error}
    (hkind : QueryKind.IsCatalog kind) (h : stmt.runCatalog ctx kind caught = .ok out) :
    ∃ rs rows, Query.prepareResultSet ctx.conn kind = .ok (.ok rs) ∧ rows.type = rs.rows.type ∧
      out.stmt.mQuery = (⟨kind, some rs⟩ : Query).setRows rs rows := by
  obtain ⟨rs, hprepared⟩ := hkind.2 ctx.conn
  simp only [runCatalog, bind_eq_ok] at h
  obtain ⟨prepared, hprep, h⟩ := h
  rw [hprepared] at hprep
  cases hprep
  obtain ⟨done, hdone, h⟩ := bind_eq_ok.mp h
  cases h
  have hwf := Query.prepareResultSet_wellFormed hkind.1 hprepared
  rw [executed_mQuery]
  obtain hkeep | ⟨rs', rows, hrs', ht, hrows⟩ := Query.execute_query hwf hdone
  · exact ⟨rs, rs.rows, hprepared, rfl, hkeep⟩
  · cases hrs'
    exact ⟨rs, rows, hprepared, ht, hrows⟩

theorem runCatalog_step {c : StmtCall} {kind : QueryKind} {caught : Exn → Option Error}
    {before : RetsSTMT} (hinstalls : c.installs ctx = true) (hkind : QueryKind.IsCatalog kind)
    (h : stmt.runCatalog ctx kind caught = .ok out) : StmtStep ctx c before out.stmt := by
  obtain ⟨rs, rows, hprepared, ht, hrows⟩ := runCatalog_query hkind h
  exact .install hinstalls hkind.1 hprepared ht hrows

/-- The queries of the catalog functions. -/
def QueryKind.listsCatalog : QueryKind → Bool
  | .tableMetadata _ _ _ _ | .columnMetadata _ _ | .typeInfo _ | .specialColumns _ _ _ _
  | .statistics | .primaryKeys _ => true
  | _ => false

theorem listsCatalog_of_catalogArguments {c : StmtCall} {kind : QueryKind}
    (hc : c.catalogArguments = some (.ok kind)) : QueryKind.listsCatalog kind = true := by
  cases c with
  | tables catalogName schemaName tableName tableType =>
    simp only [StmtCall.catalogArguments, Option.some.injEq, tablesArguments, bind_eq_ok] at hc
    obtain ⟨catalog, -, schema, -, table, -, type, -, hc⟩ := hc
    cases hc
    rfl
  | columns catalogName tableName columnName =>
    simp only [StmtCall.catalogArguments, Option.some.injEq, columnsArguments, bind_eq_ok] at hc
    obtain ⟨_, -, table, -, column, -, hc⟩ := hc
    cases hc
    rfl
  | getTypeInfo dataType =>
    cases hc
    rfl
  | specialColumns identifierType catalogName tableName scope nullable =>
    simp only [StmtCall.catalogArguments, Option.some.injEq, specialColumnsArguments,
      bind_eq_ok] at hc
    obtain ⟨_, -, table, -, hc⟩ := hc
    cases hc
    rfl
  | statistics catalogName schemaName =>
    simp only [StmtCall.catalogArguments, Option.some.injEq, statisticsArguments,
      bind_eq_ok] at hc
    obtain ⟨_, -, _, -, hc⟩ := hc
    cases hc
    rfl
  | primaryKeys catalogName schemaName tableName =>
    simp only [StmtCall.catalogArguments, Option.some.injEq, primaryKeysArguments,
      bind_eq_ok] at hc
    obtain ⟨_, -, _, -, table, -, hc⟩ := hc
    cases hc
    rfl
  | _ => cases hc

/-- The query of a catalog call is a catalog query. -/
theorem isCatalog_of_catalogArguments {c : StmtCall} {kind : QueryKind}
    (hc : c.catalogArguments = some (.ok kind)) : QueryKind.IsCatalog kind := by
  have hlists := listsCatalog_of_catalogArguments hc
  cases kind with
  | tableMetadata _ _ _ _ | columnMetadata _ _ | typeInfo _ | specialColumns _ _ _ _ | statistics
  | primaryKeys _ => exact ⟨by simp, fun _ => ⟨_, rfl⟩⟩
  | _ => cases hlists

/-- A catalog call reads its arguments and runs their query. -/
theorem uncaught_catalog {c : StmtCall} {arguments : Except ArgumentFailure QueryKind}
    (hc : c.catalogArguments = some arguments) : ∃ caught : Exn → Option Error,
      ∀ ctx (stmt : RetsSTMT),
        stmt.uncaught ctx c = stmt.clearErrors.runArguments ctx arguments caught := by
  cases c <;> cases hc <;> exact ⟨_, fun _ _ => rfl⟩

/-- A catalog call installs the query that its arguments come to. -/
theorem catalog_installs_iff {c : StmtCall} {arguments : Except ArgumentFailure QueryKind}
    (hc : c.catalogArguments = some arguments) :
    c.installs ctx = true ↔ ∃ kind, arguments = .ok kind := by
  cases c with
  | prepare _ | execDirect _ => cases hc
  | _ =>
    unfold StmtCall.installs
    dsimp only
    rw [hc]
    cases arguments with
    | error failure => simp
    | ok kind => simp

theorem catalog_step {c : StmtCall} {arguments : Except ArgumentFailure QueryKind}
    (hc : c.catalogArguments = some arguments) (h : stmt.uncaught ctx c = .ok out) :
    StmtStep ctx c stmt out.stmt := by
  obtain ⟨caught, hcall⟩ := uncaught_catalog hc
  rw [hcall] at h
  cases arguments with
  | error failure => exact .keep (fails_keeps h).1 (fails_keeps h).2.1
  | ok kind =>
    exact runCatalog_step ((catalog_installs_iff hc).mpr ⟨kind, rfl⟩)
      (isCatalog_of_catalogArguments hc) h

theorem sqlSetStmtAttr_keeps (stmt : RetsSTMT) (attr : Int) (value : Nat) :
    (stmt.sqlSetStmtAttr attr value).stmt.mQuery = stmt.mQuery ∧
      (stmt.sqlSetStmtAttr attr value).stmt.mDataStreamInfo = stmt.mDataStreamInfo := by
  have hoption : ∀ (s : RetsSTMT) (unchanged : Bool),
      (s.keepsOption unchanged).stmt.mQuery = s.mQuery ∧
        (s.keepsOption unchanged).stmt.mDataStreamInfo = s.mDataStreamInfo := by
    intro s unchanged
    cases unchanged <;> exact ⟨rfl, rfl⟩
  unfold sqlSetStmtAttr
  dsimp only
  split <;> first
    | exact hoption _ _
    | exact ⟨rfl, rfl⟩

theorem sqlGetStmtAttr_step {c : StmtCall} {attr : Int} {p p' : Ptr}
    (h : stmt.sqlGetStmtAttr ctx attr p p' = .ok out) : StmtStep ctx c stmt out.stmt := by
  unfold sqlGetStmtAttr at h
  dsimp only at h
  split at h
  case h_12 =>
    cases h
    exact .keep rfl rfl
  all_goals
    split at h
    · cases h
    · cases h
      exact .keep rfl rfl

/-- **What any call can do.** -/
theorem uncaught_step {c : StmtCall} (hq : stmt.mQuery.WellFormed)
    (h : stmt.uncaught ctx c = .ok out) : StmtStep ctx c stmt out.stmt := by
  cases c with
  | bindCol n b => exact sqlBindCol_step h
  | describeCol n a => exact sqlDescribeCol_step h
  | numResultCols p => exact sqlNumResultCols_step h
  | fetch => exact sqlFetch_step h
  | fetchScroll orientation => exact sqlFetchScroll_step h
  | extendedFetch p p' => exact sqlExtendedFetch_step h
  | getData n b => exact sqlGetData_step h
  | rowCount p => exact sqlRowCount_step h
  | colAttribute n f a => exact sqlColAttribute_step h
  | freeStmt option => exact sqlFreeStmt_step h
  | getDiagField r f a =>
    obtain ⟨answer, -, rfl⟩ := map_eq_ok.mp h
    exact .keep rfl rfl
  | getDiagRec r a =>
    obtain ⟨answer, -, rfl⟩ := map_eq_ok.mp h
    exact .keep rfl rfl
  | error a =>
    obtain ⟨answer, -, rfl⟩ := map_eq_ok.mp h
    exact .keep rfl rfl
  | prepare text => exact sqlPrepare_step h
  | execDirect text => exact sqlExecDirect_step h
  | execute => exact sqlExecute_step hq h
  | tables catalog schema table type => exact catalog_step rfl h
  | columns catalog table column => exact catalog_step rfl h
  | getTypeInfo dataType => exact catalog_step rfl h
  | specialColumns identifierType catalog table scope nullable => exact catalog_step rfl h
  | statistics catalog schema => exact catalog_step rfl h
  | primaryKeys catalog schema table => exact catalog_step rfl h
  | setStmtAttr attr value =>
    cases h
    exact .keep (sqlSetStmtAttr_keeps _ _ _).1 (sqlSetStmtAttr_keeps _ _ _).2
  | getStmtAttr attr p p' => exact sqlGetStmtAttr_step h
  | paramOptions crow pirow =>
    cases h
    have h22 := sqlSetStmtAttr_keeps stmt 22 crow
    have h21 := sqlSetStmtAttr_keeps (stmt.sqlSetStmtAttr 22 crow).stmt 21 pirow
    unfold sqlParamOptions
    dsimp only
    split
    · exact .keep h22.1 h22.2
    · exact .keep (h21.1.trans h22.1) (h21.2.trans h22.2)
  | setDescField desc r f value =>
    cases h
    cases desc <;> exact .keep rfl rfl
  | numParams p =>
    simp only [uncaught, sqlNumParams] at h
    split at h
    · cases h
    · cases h
      exact .keep rfl rfl
  | moreResults =>
    cases h
    exact .keep rfl rfl
  | cancel =>
    cases h
    exact .keep rfl rfl

/-- The entry wrapper touches nothing but the diagnostic records. -/
theorem call_step {c : StmtCall} {returned : Returned} (hq : stmt.mQuery.WellFormed)
    (h : stmt.call ctx c = .ok returned) : StmtStep ctx c stmt returned.stmt := by
  obtain ⟨out, hout, rfl⟩ := map_eq_ok.mp h
  have hstep := uncaught_step hq hout
  dsimp only
  split
  · refine StmtStep.congr ?_ ?_ ?_ ?_ hstep <;> rfl
  · exact hstep

/-! ### Well-formed queries -/

theorem StmtStep.wellFormed {c : StmtCall} {stmt' : RetsSTMT} (hq : stmt.mQuery.WellFormed)
    (h : StmtStep ctx c stmt stmt') : stmt'.mQuery.WellFormed := by
  cases h with
  | keep hkeep _ => rwa [hkeep]
  | stream hkeep _ => rwa [hkeep]
  | rows hrs ht hrows =>
    rw [hrows]
    exact hq.of_type_eq hrs ht
  | bind _ hrs hbind hquery =>
    rw [hquery]
    refine hq.of_type_eq hrs ?_
    obtain ⟨column, -, rfl⟩ := Option.map_eq_some_iff.mp hbind
    rfl
  | unbind _ hrs hquery =>
    rw [hquery]
    exact hq.of_type_eq hrs rfl
  | install _ hkind hprepared ht hquery =>
    rw [hquery]
    exact (Query.prepareResultSet_wellFormed hkind hprepared).of_type_eq rfl ht

/-- **In every reachable state the query has the result set of its kind.** -/
theorem run_wellFormed {calls : List (CallContext × StmtCall)} {stmt' : RetsSTMT}
    (hq : stmt.mQuery.WellFormed) (h : run calls stmt = .ok stmt') : stmt'.mQuery.WellFormed := by
  have hstep : ∀ p s s', s.mQuery.WellFormed → step p s = .ok s' → s'.mQuery.WellFormed := by
    intro p s s' hs hp
    obtain ⟨returned, hcall, rfl⟩ := map_eq_ok.mp hp
    exact (call_step hs hcall).wellFormed hs
  exact run_invariant hstep hq h

end RetsSTMT

end EzRets
