import EzRets.KnownQueries
import EzRets.HandleCalls
import EzRets.LentMemory

/-!
# EzRets.CarefulCalls — the calls that follow no null pointer

The driver looks at few of the pointers that it follows.  `Careful` says of a call on a statement
what it relies on: output pointers, targets that can be moved and stored through, true lengths, a
query that has been prepared, a row under the cursor and names that the metadata of an open
connection lists.  Such a call returns, and leaves a statement whose query can be executed again.
The other handles rely on output pointers only.
-/

namespace EzRets

open AbstractHandle FaultRun

/-! ## What the calls rely on -/

/-- The outputs of a record that are stored unchecked. -/
def DiagArgs.Given (a : DiagArgs) : Prop := a.sqlstate ≠ 0 ∧ a.textLength ≠ 0

namespace AbstractHandle

/-- The outputs of the field `f`: a text also has a length. -/
def DiagFieldArgs.Given (f : Int) (a : DiagFieldArgs) : Prop :=
  a.diagInfoPtr ≠ 0 ∧ (f ∈ [6, 8, 9, 10, 11] → a.stringLengthPtr ≠ 0)

end AbstractHandle

/-- There is a row that `getData` can read: an empty bulk result set has none, and a data query must
have been executed. -/
def RowSource.Positioned : RowSource → Prop
  | .bulk rs => rs.mResults ≠ []
  | .onDemand results => results.isSome
  | .onDemandObject _ _ => True

/-- The column attributes that are texts. -/
def textAttributes : List Nat := [1, 22, 18, 1011, 23, 17, 27, 28, 29, 16, 15, 14]

namespace StmtCall

/-- The output pointers that are stored through unchecked, and the table names that are read so.  The
targets of `SQLGetData` and of the bound columns depend on the statement: see `PointersUsable`. -/
def OutputsGiven : StmtCall → Prop
  | .describeCol _ a => a.nullable ≠ 0
  | .numResultCols p | .rowCount p | .numParams p | .getStmtAttr _ p _ => p ≠ 0
  | .extendedFetch pcrow rgfRowStatus => pcrow ≠ 0 ∧ rgfRowStatus ≠ 0
  | .colAttribute _ fieldIdentifier a =>
    fieldIdentifier ∉ textAttributes → a.numericAttribute ≠ 0
  | .getDiagField _ f a => a.Given f
  | .getDiagRec _ a | .error a => a.Given
  | .specialColumns _ _ tableName _ _ | .primaryKeys _ _ tableName =>
    tableName.bytes.isSome ∨ ¬ tableName.ReadsBytes
  | _ => True

/-- The query that the call asks for: what the text compiles to, or that of a catalog function whose
arguments come to one. -/
def asks (ctx : CallContext) : StmtCall → Option QueryKind
  | .prepare statementText | .execDirect statementText =>
    match statementText.statement with
    | .error _ => none
    | .ok statement =>
      ((ctx.conn.sqlToDmql statement).bind
        (Query.ofCompiled (ctx.conn.mDataSource.bool .useCompactFormat))).toOption
  | c => c.catalogArguments.bind Except.toOption

/-- The call follows no null pointer: a query is there when its result set is read, the outputs are
given, the targets of `SQLGetData` and of the bound columns can be used, with lengths that are true,
`SQLGetData` has a row, and what the call asks for is known to an open connection. -/
structure Careful (ctx : CallContext) (stmt : RetsSTMT) (c : StmtCall) : Prop where
  prepared : c.readsResultSet stmt.mErrors → stmt.mQuery.kind ≠ .null
  outputs : c.OutputsGiven
  honest : c.Honest
  usable : stmt.PointersUsable ctx c
  positioned : ∀ n b rs, c = .getData n b → stmt.mQuery.mResultSet = some rs → rs.rows.Positioned
  known : ∀ kind, c.asks ctx = some kind → ∃ v, ctx.conn.Shows v ∧ kind.Known v

end StmtCall

/-! ## Diagnostics -/

theorem returns_sqlGetDiagRec {a : DiagArgs} (ha : a.Given) (mErrors : List Error) (r : Int) :
    Returns (fun _ => True) (sqlGetDiagRec mErrors r a) := by
  unfold sqlGetDiagRec
  split
  · exact returns_ok trivial
  · split
    · exact returns_ok trivial
    · rw [if_neg (not_or.mpr ha)]
      exact returns_ok trivial

theorem returns_sqlError {a : DiagArgs} (ha : a.Given) (mErrors : List Error) :
    Returns (fun _ => True) (sqlError mErrors a) :=
  (returns_sqlGetDiagRec ha mErrors 1).map fun _ _ _ => trivial

section Fields

variable {a : DiagFieldArgs}

theorem returns_diagInteger (ha : a.diagInfoPtr ≠ 0) (n : Int) (result : SqlReturn) :
    Returns (fun _ => True) (diagInteger a n result) := by
  unfold diagInteger
  rw [if_neg ha]
  exact returns_ok trivial

theorem returns_diagText (ha : a.stringLengthPtr ≠ 0) (text : Str) :
    Returns (fun _ => True) (diagText a text) := by
  unfold diagText
  dsimp only
  split
  · exact returns_ok trivial
  · exact returns_ok trivial

theorem returns_diagTextOptional (text : Str) :
    Returns (fun _ => True) (diagTextOptional a text) := by
  unfold diagTextOptional
  split
  · exact returns_ok trivial
  · exact returns_diagText ‹_› text

/-- The methods of a class of handles return where the field `f` of record `r` calls them. -/
structure AbstractHandle.DiagMethods.Return (m : DiagMethods) (mErrors : List Error) (r f : Int)
    (a : DiagFieldArgs) : Prop where
  cursorRowCount : f = -1249 → 0 ≤ r → r ≤ mErrors.length →
    Returns (fun _ => True) (m.cursorRowCount a)
  dynamicFunction : Returns (fun _ => True) (m.dynamicFunction a)
  dynamicFunctionCode : Returns (fun _ => True) (m.dynamicFunctionCode a)
  rowCount : Returns (fun _ => True) (m.rowCount a)
  connectionName : f = 10 → Returns (fun _ => True) (m.connectionName a)
  rowNumber : Returns (fun _ => True) (m.rowNumber a)
  serverName : f = 11 → Returns (fun _ => True) (m.serverName a)

/-- A record number of 1 or more that passes the checks has a record. -/
theorem errorAt_of_le {mErrors : List Error} {r : Int} (hpos : 0 < r) (hle : r ≤ mErrors.length) :
    ∃ e, errorAt mErrors r = some e := by
  have hlt : (r - 1).toNat < mErrors.length := by omega
  exact ⟨mErrors[(r - 1).toNat], by rw [errorAt, if_pos hpos, List.getElem?_eq_getElem hlt]⟩

theorem returns_sqlGetDiagField {m : DiagMethods} {mErrors : List Error} {r f : Int}
    (ha : a.Given f) (hm : m.Return mErrors r f a) :
    Returns (fun _ => True) (sqlGetDiagField m mErrors r f a) := by
  unfold sqlGetDiagField
  split
  · exact returns_ok trivial
  split
  · exact returns_ok trivial
  split
  · exact returns_ok trivial
  rename_i hneg hlong hheader
  have hnonneg : 0 ≤ r := by omega
  have hle : r ≤ mErrors.length := by omega
  split
  · exact hm.cursorRowCount rfl hnonneg hle
  · exact hm.dynamicFunction
  · exact hm.dynamicFunctionCode
  · exact returns_diagInteger ha.1 _ _
  · exact hm.rowCount
  · exact returns_diagText (ha.2 (by decide)) _
  · exact returns_diagText (ha.2 (by decide)) _
  · exact returns_diagInteger ha.1 _ _
  · exact hm.connectionName rfl
  · obtain ⟨e, he⟩ := @errorAt_of_le mErrors r (by omega) hle
    rw [he]
    exact returns_diagText (ha.2 (by decide)) _
  · exact returns_diagInteger ha.1 _ _
  · exact hm.rowNumber
  · exact hm.serverName rfl
  · obtain ⟨e, he⟩ := @errorAt_of_le mErrors r (by omega) hle
    rw [he]
    dsimp only
    rw [if_neg ha.1]
    exact returns_ok trivial
  · exact returns_ok trivial

/-- The empty text for the names of the connection and of the server. -/
theorem returns_emptyText (ha : a.diagInfoPtr ≠ 0) (hlength : a.stringLengthPtr ≠ 0) :
    Returns (fun _ => True) (DiagMethods.base.connectionName a) := by
  unfold DiagMethods.base
  dsimp only
  rw [if_neg (not_or.mpr ⟨ha, hlength⟩)]
  exact returns_ok trivial

/-- The methods of the classes that override none. -/
theorem return_base {mErrors : List Error} {r f : Int} (ha : a.Given f) :
    DiagMethods.base.Return mErrors r f a where
  cursorRowCount _ _ _ := returns_ok trivial
  dynamicFunction := returns_ok trivial
  dynamicFunctionCode := returns_ok trivial
  rowCount := returns_ok trivial
  connectionName hf := returns_emptyText ha.1 (ha.2 (by simp [hf]))
  rowNumber := by
    unfold DiagMethods.base
    dsimp only
    rw [if_neg ha.1]
    exact returns_ok trivial
  serverName hf := returns_emptyText ha.1 (ha.2 (by simp [hf]))

/-- Those of a statement: the row count of the cursor needs its result set. -/
theorem RetsSTMT.return_diagMethods {ctx : CallContext} {stmt : RetsSTMT} {r f : Int}
    (ha : a.Given f)
    (hprepared : f = -1249 ∧ 0 ≤ r ∧ r ≤ stmt.mErrors.length →
      ∃ rs, stmt.mQuery.mResultSet = some rs) :
    (stmt.diagMethods ctx).Return stmt.mErrors r f a where
  cursorRowCount hf hnonneg hle := by
    obtain ⟨rs, hrs⟩ := hprepared ⟨hf, hnonneg, hle⟩
    have hread : Returns (fun _ => True) stmt.resultSet :=
      ⟨rs, stmt.resultSet_eq_ok.mpr hrs, trivial⟩
    exact hread.bind fun _ _ _ => returns_diagInteger ha.1 _ _
  dynamicFunction := returns_diagTextOptional _
  dynamicFunctionCode := returns_diagInteger ha.1 _ _
  rowCount := returns_diagInteger ha.1 _ _
  connectionName _ := returns_diagTextOptional _
  rowNumber := returns_diagInteger ha.1 _ _
  serverName _ := returns_diagTextOptional _

end Fields

/-! ## Rows -/

/-- A row that `hasNext` announces is there. -/
theorem RowSource.returns_advance {rows rows' : RowSource} (h : rows.hasNext = (.ok true, rows')) :
    Returns (fun _ => True) rows'.advance := by
  cases rows with
  | bulk rs =>
    obtain ⟨hnext, rfl⟩ := Prod.ext_iff.mp h
    have hnext : rs.hasNext = true := Except.ok.inj hnext
    have hlt : (if rs.mGotFirst then rs.mResultIterator + 1 else rs.mResultIterator) <
        rs.mResults.length := by
      unfold BulkRows.hasNext at hnext
      split_ifs at hnext ⊢ with hfirst
      · have hfetched := rs.fetched hfirst
        have hne := of_decide_eq_true hnext
        omega
      · have hzero := rs.unfetched (Bool.not_eq_true _ ▸ hfirst)
        have hne := of_decide_eq_true hnext
        omega
    have hread : Returns (fun _ => True) rs.next := by
      unfold BulkRows.next
      rw [dif_pos hlt]
      exact returns_ok trivial
    exact hread.map fun _ _ _ => trivial
  | onDemand results =>
    rcases results with _ | results
    · cases h
    · unfold hasNext at h
      dsimp only at h
      split at h
      · cases h
      · cases h
      · obtain ⟨-, rfl⟩ := Prod.ext_iff.mp h
        exact returns_ok trivial
  | onDemandObject pending map =>
    rcases pending with _ | pending
    · cases h
    · obtain ⟨-, rfl⟩ := Prod.ext_iff.mp h
      exact returns_ok trivial

theorem RowSource.Positioned.returns_current {rows : RowSource} (h : rows.Positioned) :
    Returns (fun _ => True) rows.current := by
  cases rows with
  | bulk rs =>
    have hlt : rs.mResultIterator < rs.mResults.length := by
      rcases hfirst : rs.mGotFirst with _ | _
      · rw [rs.unfetched hfirst]
        exact List.length_pos_iff.mpr h
      · exact rs.fetched hfirst
    unfold current
    dsimp only
    rw [List.getElem?_eq_getElem hlt]
    exact returns_ok trivial
  | onDemand results =>
    obtain ⟨results, rfl⟩ := Option.isSome_iff_exists.mp h
    exact returns_ok trivial
  | onDemandObject pending map => exact returns_ok trivial

/-! ## The calls -/

namespace RetsSTMT

variable {ctx : CallContext} {stmt : RetsSTMT} {rs : ResultSet}

theorem returns_resultSet (hrs : stmt.mQuery.mResultSet = some rs) :
    Returns (fun rs' => rs' = rs) stmt.resultSet := ⟨rs, stmt.resultSet_eq_ok.mpr hrs, rfl⟩

theorem returns_isBadColumn {n : Nat} (hread : n = 0 → ∃ rs, stmt.mQuery.mResultSet = some rs) :
    Returns (fun bad => bad = false) (stmt.isBadColumn n) := by
  unfold isBadColumn
  split
  · obtain ⟨rs, hrs⟩ := hread (by omega)
    refine (returns_resultSet hrs).map fun rs' _ _ => ?_
    rw [decide_eq_false_iff_not]
    omega
  · exact returns_ok rfl

theorem returns_sqlBindCol {n : Nat} {b : Binding}
    (hread : n = 0 ∨ b.targetValue ≠ 0 → ∃ rs, stmt.mQuery.mResultSet = some rs) :
    Returns (fun _ => True) (stmt.sqlBindCol n b) := by
  have hbad : Returns (fun bad => bad = false) (stmt.clearErrors.isBadColumn n) :=
    returns_isBadColumn fun hn => hread (.inl hn)
  refine hbad.bind ?_
  rintro bad - rfl
  rw [if_neg Bool.false_ne_true]
  split_ifs with htarget
  · exact returns_ok trivial
  · obtain ⟨rs, hrs⟩ := hread (.inr htarget)
    have hresult : Returns (fun rs' => rs' = rs) stmt.clearErrors.resultSet := returns_resultSet hrs
    refine hresult.bind fun rs' _ _ => ?_
    split <;> exact returns_ok trivial

theorem returns_sqlDescribeCol {n : Nat} {a : DescribeColArgs} (hnullable : a.nullable ≠ 0)
    (hrs : stmt.mQuery.mResultSet = some rs) :
    Returns (fun _ => True) (stmt.sqlDescribeCol n a) := by
  have hbad : Returns (fun bad => bad = false) (stmt.clearErrors.isBadColumn n) :=
    returns_isBadColumn fun _ => ⟨rs, hrs⟩
  refine hbad.bind ?_
  rintro bad - rfl
  have hresult : Returns (fun rs' => rs' = rs) stmt.clearErrors.resultSet := returns_resultSet hrs
  refine hresult.bind fun rs' _ _ => ?_
  split
  · exact returns_ok trivial
  · dsimp only
    rw [if_neg hnullable]
    exact returns_ok trivial

theorem returns_sqlNumResultCols {p : Ptr} (hp : p ≠ 0)
    (hrs : stmt.mQuery.mResultSet = some rs) :
    Returns (fun _ => True) (stmt.sqlNumResultCols p) := by
  have hresult : Returns (fun rs' => rs' = rs) stmt.clearErrors.resultSet := returns_resultSet hrs
  refine hresult.bind fun rs' _ _ => ?_
  rw [if_neg hp]
  split <;> exact returns_ok trivial

theorem returns_sqlRowCount {p : Ptr} (hp : p ≠ 0) (hrs : stmt.mQuery.mResultSet = some rs) :
    Returns (fun _ => True) (stmt.sqlRowCount p) := by
  have hresult : Returns (fun rs' => rs' = rs) stmt.clearErrors.resultSet := returns_resultSet hrs
  refine hresult.bind fun rs' _ _ => ?_
  rw [if_neg hp]
  exact returns_ok trivial

theorem returns_sqlFetch (hrs : stmt.mQuery.mResultSet = some rs) :
    Returns (fun _ => True) (stmt.sqlFetch ctx) := by
  have hresult : Returns (fun rs' => rs' = rs) stmt.clearErrors.resultSet := returns_resultSet hrs
  refine hresult.bind fun rs' _ _ => ?_
  split
  · exact returns_ok trivial
  · dsimp only
    split
    · exact returns_ok trivial
    · exact returns_ok trivial
    · rename_i hnext
      have hadvance : Returns (fun _ => True) rs'.rows.hasNext.2.advance :=
        RowSource.returns_advance (Prod.ext hnext rfl)
      have hprocess : Returns (fun _ => True)
          (ResultSet.processNextRow ctx.deref stmt.ard { rs' with rows := rs'.rows.hasNext.2 }) :=
        hadvance.map fun _ _ _ => trivial
      refine hprocess.bind fun processed _ _ => ?_
      split
      · exact returns_ok trivial
      · split <;> exact returns_ok trivial

theorem returns_sqlExtendedFetch {p p' : Ptr} (hp : p ≠ 0) (hp' : p' ≠ 0)
    (hrs : stmt.mQuery.mResultSet = some rs) :
    Returns (fun _ => True) (stmt.sqlExtendedFetch ctx p p') := by
  have hfetch : Returns (fun _ => True) (stmt.clearErrors.sqlFetch ctx) := returns_sqlFetch hrs
  refine hfetch.bind fun fetched _ _ => ?_
  split
  · exact returns_ok trivial
  · rw [if_neg (not_or.mpr ⟨hp, hp'⟩)]
    exact returns_ok trivial

theorem returns_sqlGetData {n : Nat} {b : Binding} (hrs : stmt.mQuery.mResultSet = some rs)
    (hpositioned : rs.rows.Positioned) : Returns (fun _ => True) (stmt.sqlGetData ctx n b) := by
  have hbad : Returns (fun bad => bad = false) (stmt.clearErrors.isBadColumn n) :=
    returns_isBadColumn fun _ => ⟨rs, hrs⟩
  refine hbad.bind ?_
  rintro bad - rfl
  rw [if_neg Bool.false_ne_true]
  dsimp only
  split
  · exact returns_ok trivial
  refine Returns.bind ⟨rs, resultSet_eq_ok _ |>.mpr hrs, rfl⟩ ?_
  rintro _ - rfl
  have hread : Returns (fun _ => True) (ResultSet.getData ctx.deref stmt.ard rs n b
      (stmt.clearErrors.streamFor n)) := by
    unfold ResultSet.getData
    split
    · exact returns_ok trivial
    · exact hpositioned.returns_current.map fun _ _ _ => trivial
  refine hread.bind fun translated _ _ => ?_
  split
  · split <;> exact returns_ok trivial
  · split <;> exact returns_ok trivial

/-- `SQL_UNBIND` needs a query; every option keeps it. -/
theorem returns_sqlFreeStmt {option : Nat} (hq : stmt.mQuery.WellFormed)
    (hprepared : option = sqlUnbind → stmt.mQuery.kind ≠ .null) :
    Returns (fun out => out.stmt.mQuery.kind = stmt.mQuery.kind ∧ out.stmt.mQuery.WellFormed)
      (stmt.sqlFreeStmt option) := by
  unfold sqlFreeStmt
  split_ifs with hoption
  · obtain ⟨rs, hrs⟩ := hq.exists_resultSet (hprepared hoption)
    refine (returns_resultSet hrs).map ?_
    rintro _ - rfl
    have hwf : stmt.mQuery.mResultSet.map (·.rows.type) = stmt.mQuery.kind.resultSetType := hq
    rw [hrs] at hwf
    exact ⟨rfl, hwf⟩
  · exact returns_ok ⟨rfl, hq⟩

theorem not_mem_textAttributes {conn : Connection} {column : Column} {f : Nat} {value : Int}
    (h : colAttribute conn rs column f = .int value) : f ∉ textAttributes := by
  intro hmem
  simp only [textAttributes, List.mem_cons, List.not_mem_nil, or_false] at hmem
  rcases hmem with rfl | rfl | rfl | rfl | rfl | rfl | rfl | rfl | rfl | rfl | rfl | rfl
  all_goals cases h

theorem returns_sqlColAttribute {n f : Nat} {a : ColAttributeArgs}
    (hnumeric : f ∉ textAttributes → a.numericAttribute ≠ 0) :
    Returns (fun _ => True) (stmt.sqlColAttribute ctx n f a) := by
  unfold sqlColAttribute
  dsimp only
  split
  · exact returns_ok trivial
  split
  · exact returns_ok trivial
  split
  · exact returns_ok trivial
  split
  · exact returns_ok trivial
  · exact returns_ok trivial
  · rename_i hvalue
    rw [if_neg (hnumeric (not_mem_textAttributes hvalue))]
    exact returns_ok trivial

theorem returns_sqlGetStmtAttr {attr : Int} {p p' : Ptr} (hp : p ≠ 0) :
    Returns (fun _ => True) (stmt.sqlGetStmtAttr ctx attr p p') := by
  unfold sqlGetStmtAttr
  simp only [if_neg hp]
  split <;> exact returns_ok trivial

end RetsSTMT

/-! ### Queries that are installed -/

/-- The entry points that are no functions of the statement follow nothing. -/
def StmtEntry.Careful (ctx : CallContext) (stmt : RetsSTMT) (e : StmtEntry) : Prop :=
  ∀ c, e = .call c → c.Careful ctx stmt

/-- The query can be executed on the connection. -/
def Query.Ready (conn : Connection) (q : Query) : Prop :=
  q.kind = .null ∨ ∃ v, conn.Shows v ∧ q.kind.Executable v

theorem Query.Ready.of_kind {conn : Connection} {q q' : Query} (h : q.Ready conn)
    (hkind : q'.kind = q.kind) : q'.Ready conn := by
  unfold Query.Ready
  rw [hkind]
  exact h

namespace RetsSTMT

variable {ctx : CallContext} {stmt : RetsSTMT} {v : MetadataView}

theorem returns_createSqlQuery {conn : Connection} {statement : Str}
    (hknown : ∀ kind, (conn.sqlToDmql statement).bind
      (Query.ofCompiled (conn.mDataSource.bool .useCompactFormat)) = .ok kind →
        ∃ v, conn.Shows v ∧ kind.Known v) :
    Returns (fun created => ∀ q, created = .ok q → q.Ready conn)
      (Query.createSqlQuery conn statement) := by
  unfold Query.createSqlQuery
  split
  · exact returns_ok fun _ h => nomatch h
  · rename_i kind hkind
    obtain ⟨v, hshows, hknown⟩ := hknown kind hkind
    refine (returns_prepareResultSet hshows hknown).map fun prepared _ hexecutable q hq => ?_
    obtain ⟨rs, rfl, rfl⟩ := map_eq_ok.mp hq
    exact .inr ⟨v, hshows, hexecutable rs rfl⟩

theorem returns_fails {failure : ArgumentFailure} (hnull : failure ≠ .nullText)
    (hready : stmt.mQuery.Ready ctx.conn) :
    Returns (fun out => out.stmt.mQuery.Ready ctx.conn) (stmt.clearErrors.fails failure) := by
  cases failure with
  | nullText => exact absurd rfl hnull
  | thrown e => exact returns_ok hready
  | refused e => exact returns_ok hready

theorem returns_sqlPrepare {statementText : SqlText} (hready : stmt.mQuery.Ready ctx.conn)
    (hknown : ∀ kind, (StmtCall.prepare statementText).asks ctx = some kind →
      ∃ v, ctx.conn.Shows v ∧ kind.Known v) :
    Returns (fun out => out.stmt.mQuery.Ready ctx.conn) (stmt.sqlPrepare ctx statementText) := by
  unfold sqlPrepare
  simp only [StmtCall.asks] at hknown
  rcases hstatement : statementText.statement with failure | statement
  · refine returns_fails (fun hnull => ?_) hready
    exact avoids_statement statementText (hnull ▸ hstatement)
  · rw [hstatement] at hknown
    have hcreated : Returns (fun created => ∀ q, created = .ok q → q.Ready ctx.conn)
        (Query.createSqlQuery ctx.conn statement) := by
      refine returns_createSqlQuery fun kind hkind => hknown kind ?_
      dsimp only
      rw [hkind]
      rfl
    refine hcreated.map fun created _ hquery => ?_
    rcases created with e | q
    · cases e <;> exact hready
    · exact hquery q rfl

theorem returns_sqlExecute (hq : stmt.mQuery.WellFormed) (hready : stmt.mQuery.Ready ctx.conn) :
    Returns (fun _ => True) (stmt.sqlExecute ctx) := by
  have hexecute : Returns (fun _ => True) (stmt.mQuery.execute ctx.conn) := by
    rcases hready with hnull | ⟨v, hshows, hexecutable⟩
    · unfold Query.execute
      rw [hnull]
      exact returns_ok trivial
    · exact returns_execute hq hshows hexecutable
  exact hexecute.map fun _ _ _ => trivial

theorem returns_runCatalog {kind : QueryKind} {caught : Exn → Option Error}
    (hkind : QueryKind.IsCatalog kind) (hknown : ∃ v, ctx.conn.Shows v ∧ kind.Known v) :
    Returns (fun out => out.stmt.mQuery.Ready ctx.conn) (stmt.runCatalog ctx kind caught) := by
  obtain ⟨v, hshows, hknown⟩ := hknown
  obtain ⟨rs, hprepared⟩ := hkind.2 ctx.conn
  obtain ⟨prepared, hreturned, hexecutable⟩ := returns_prepareResultSet hshows hknown
  obtain rfl := Except.ok.inj (hprepared.symm.trans hreturned)
  have hexecutable : kind.Executable v := hexecutable rs rfl
  have hwf := Query.prepareResultSet_wellFormed hkind.1 hprepared
  obtain ⟨done, hdone, -⟩ := @returns_execute ctx.conn v ⟨kind, some rs⟩ hwf hshows hexecutable
  have hrun : stmt.runCatalog ctx kind caught = .ok (stmt.executed done caught) := by
    unfold runCatalog
    rw [hprepared]
    dsimp only [bind, Except.bind]
    rw [hdone]
    rfl
  obtain ⟨rs', rows, -, -, hquery⟩ := runCatalog_query hkind hrun
  refine ⟨_, hrun, .inr ⟨v, hshows, ?_⟩⟩
  rw [hquery]
  exact hexecutable

/-- A catalog call reads no text at a null pointer but the table names that are to be given. -/
theorem avoids_catalogArguments {c : StmtCall} {arguments : Except ArgumentFailure QueryKind}
    (hc : c.catalogArguments = some arguments) (houtputs : c.OutputsGiven) :
    Avoids .nullText arguments := by
  cases c with
  | tables catalogName schemaName tableName tableType =>
    obtain rfl := Option.some.inj hc
    exact (avoids_thrown _).bind fun _ _ => (avoids_thrown _).bind fun _ _ =>
      (avoids_thrown _).bind fun _ _ => (avoids_thrown _).bind fun _ _ => avoids_pure _ _
  | columns catalogName tableName columnName =>
    obtain rfl := Option.some.inj hc
    exact (avoids_refuseCatalog _).bind fun _ _ => (avoids_thrown _).bind fun _ _ =>
      (avoids_thrown _).bind fun _ _ => avoids_pure _ _
  | getTypeInfo dataType =>
    obtain rfl := Option.some.inj hc
    exact avoids_ok _ _
  | specialColumns identifierType catalogName tableName scope nullable =>
    obtain rfl := Option.some.inj hc
    exact (avoids_refuseCatalog _).bind fun _ _ => (avoids_toStr houtputs).bind fun _ _ =>
      avoids_pure _ _
  | statistics catalogName schemaName =>
    obtain rfl := Option.some.inj hc
    exact (avoids_refuseRestricted _ (by simp [catalogRefused])).bind fun _ _ =>
      (avoids_refuseRestricted _ (by simp)).bind fun _ _ => avoids_pure _ _
  | primaryKeys catalogName schemaName tableName =>
    obtain rfl := Option.some.inj hc
    exact (avoids_refuseCatalog _).bind fun _ _ => (avoids_loggedText _).bind fun _ _ =>
      (avoids_toStr houtputs).bind fun _ _ => avoids_pure _ _
  | _ => cases hc

/-- **A catalog call returns** where its query is known. -/
theorem returns_catalog {c : StmtCall} {arguments : Except ArgumentFailure QueryKind}
    (hready : stmt.mQuery.Ready ctx.conn) (hc : c.catalogArguments = some arguments)
    (houtputs : c.OutputsGiven)
    (hknown : ∀ kind, c.asks ctx = some kind → ∃ v, ctx.conn.Shows v ∧ kind.Known v) :
    Returns (fun out => out.stmt.mQuery.Ready ctx.conn) (stmt.uncaught ctx c) := by
  obtain ⟨caught, hcall⟩ := uncaught_catalog hc
  rw [hcall]
  cases arguments with
  | error failure =>
    refine returns_fails (fun hnull => ?_) hready
    exact avoids_catalogArguments hc houtputs (congrArg Except.error hnull)
  | ok kind =>
    have hasks : c.asks ctx = some kind := by
      have hbind : c.asks ctx = c.catalogArguments.bind Except.toOption := by
        cases c with
        | prepare _ | execDirect _ => cases hc
        | _ => rfl
      rw [hbind, hc]
      rfl
    exact returns_runCatalog (isCatalog_of_catalogArguments hc) (hknown kind hasks)

theorem returns_sqlExecDirect {statementText : SqlText} (hq : stmt.mQuery.WellFormed)
    (hready : stmt.mQuery.Ready ctx.conn)
    (hknown : ∀ kind, (StmtCall.execDirect statementText).asks ctx = some kind →
      ∃ v, ctx.conn.Shows v ∧ kind.Known v) :
    Returns (fun out => out.stmt.mQuery.Ready ctx.conn)
      (stmt.sqlExecDirect ctx statementText) := by
  have hprepare : Returns (fun out => out.stmt.mQuery.Ready ctx.conn)
      (stmt.clearErrors.sqlPrepare ctx statementText) := by
    exact returns_sqlPrepare hready hknown
  refine hprepare.bind fun prepared hprepared hready' => ?_
  have hwf : prepared.stmt.mQuery.WellFormed := by
    obtain ⟨statement, q, -, hcreated, hquery, -⟩ | ⟨hquery, -, -⟩ := sqlPrepare_cases hprepared
    · obtain ⟨kind, rs, hkind, hprep, rfl⟩ := createSqlQuery_eq_ok hcreated
      rw [hquery]
      exact Query.prepareResultSet_wellFormed hkind hprep
    · rw [hquery]
      exact hq
  split
  · obtain ⟨out, hout, -⟩ := @returns_sqlExecute ctx prepared.stmt hwf hready'
    refine ⟨out, hout, hready'.of_kind ?_⟩
    obtain hkeep | ⟨rs, rows, -, -, hrows⟩ := sqlExecute_query hwf hout
    · rw [hkeep]
    · rw [hrows]
      rfl
  · exact returns_ok hready'

/-- A call that installs no query keeps the one that is there. -/
theorem returns_of_keeps {c : StmtCall} (hq : stmt.mQuery.WellFormed)
    (hready : stmt.mQuery.Ready ctx.conn) (hinstalls : c.installs ctx = false)
    (h : Returns (fun _ => True) (stmt.uncaught ctx c)) :
    Returns (fun out => out.stmt.mQuery.Ready ctx.conn) (stmt.uncaught ctx c) := by
  obtain ⟨out, hout, -⟩ := h
  refine ⟨out, hout, ?_⟩
  rcases (uncaught_step hq hout).kind_cases with hkind | ⟨hyes, -⟩
  · exact hready.of_kind hkind
  · rw [hinstalls] at hyes
    cases hyes

/-- **A careful call returns, and what it leaves can be executed.** -/
theorem returns_uncaught {c : StmtCall} (hq : stmt.mQuery.WellFormed)
    (hready : stmt.mQuery.Ready ctx.conn) (hc : c.Careful ctx stmt) :
    Returns (fun out => out.stmt.mQuery.Ready ctx.conn) (stmt.uncaught ctx c) := by
  have hread : c.readsResultSet stmt.mErrors → ∃ rs, stmt.mQuery.mResultSet = some rs :=
    fun h => hq.exists_resultSet (hc.prepared h)
  have houtputs := hc.outputs
  cases c with
  | bindCol n b => exact returns_of_keeps hq hready rfl (returns_sqlBindCol hread)
  | describeCol n a =>
    obtain ⟨rs, hrs⟩ := hread trivial
    exact returns_of_keeps hq hready rfl (returns_sqlDescribeCol houtputs hrs)
  | numResultCols p =>
    obtain ⟨rs, hrs⟩ := hread trivial
    exact returns_of_keeps hq hready rfl (returns_sqlNumResultCols houtputs hrs)
  | fetch =>
    obtain ⟨rs, hrs⟩ := hread trivial
    exact returns_of_keeps hq hready rfl (returns_sqlFetch hrs)
  | fetchScroll orientation =>
    refine returns_of_keeps hq hready rfl ?_
    show Returns _ (stmt.sqlFetchScroll ctx orientation)
    unfold sqlFetchScroll
    dsimp only
    split_ifs with horientation
    · exact returns_ok trivial
    · obtain ⟨rs, hrs⟩ := hread (not_not.mp horientation)
      exact returns_sqlFetch (clearErrors_mResultSet hrs)
  | extendedFetch p p' =>
    obtain ⟨rs, hrs⟩ := hread trivial
    exact returns_of_keeps hq hready rfl (returns_sqlExtendedFetch houtputs.1 houtputs.2 hrs)
  | getData n b =>
    obtain ⟨rs, hrs⟩ := hread trivial
    exact returns_of_keeps hq hready rfl (returns_sqlGetData hrs (hc.positioned n b rs rfl hrs))
  | rowCount p =>
    obtain ⟨rs, hrs⟩ := hread trivial
    exact returns_of_keeps hq hready rfl (returns_sqlRowCount houtputs hrs)
  | colAttribute n f a => exact returns_of_keeps hq hready rfl (returns_sqlColAttribute houtputs)
  | freeStmt option =>
    exact (returns_sqlFreeStmt hq hc.prepared).mono fun out h => hready.of_kind h.1
  | getDiagField r f a =>
    have hmethods : (stmt.diagMethods ctx).Return stmt.mErrors r f a :=
      return_diagMethods houtputs hread
    have hfield := returns_sqlGetDiagField houtputs hmethods
    exact returns_of_keeps hq hready rfl (hfield.map fun _ _ _ => trivial)
  | getDiagRec r a =>
    have hrec := returns_sqlGetDiagRec houtputs stmt.mErrors r
    exact returns_of_keeps hq hready rfl (hrec.map fun _ _ _ => trivial)
  | error a =>
    have herror := returns_sqlError houtputs stmt.mErrors
    exact returns_of_keeps hq hready rfl (herror.map fun _ _ _ => trivial)
  | prepare text => exact returns_sqlPrepare hready hc.known
  | execDirect text => exact returns_sqlExecDirect hq hready hc.known
  | execute => exact returns_of_keeps hq hready rfl (returns_sqlExecute hq hready)
  | tables catalog schema table type =>
    exact returns_catalog hready rfl houtputs hc.known
  | columns catalog table column => exact returns_catalog hready rfl houtputs hc.known
  | getTypeInfo dataType => exact returns_catalog hready rfl houtputs hc.known
  | specialColumns identifierType catalog table scope nullable =>
    exact returns_catalog hready rfl houtputs hc.known
  | statistics catalog schema => exact returns_catalog hready rfl houtputs hc.known
  | primaryKeys catalog schema table => exact returns_catalog hready rfl houtputs hc.known
  | setStmtAttr attr value => exact returns_of_keeps hq hready rfl (returns_ok trivial)
  | getStmtAttr attr p p' => exact returns_of_keeps hq hready rfl (returns_sqlGetStmtAttr houtputs)
  | paramOptions crow pirow => exact returns_of_keeps hq hready rfl (returns_ok trivial)
  | setDescField desc r f value => exact returns_of_keeps hq hready rfl (returns_ok trivial)
  | numParams p =>
    refine returns_of_keeps hq hready rfl ?_
    show Returns _ (stmt.sqlNumParams p)
    unfold sqlNumParams
    rw [if_neg houtputs]
    exact returns_ok trivial
  | moreResults => exact returns_of_keeps hq hready rfl (returns_ok trivial)
  | cancel => exact returns_of_keeps hq hready rfl (returns_ok trivial)

/-- The same through the entry point. -/
theorem returns_call {c : StmtCall} (hq : stmt.mQuery.WellFormed) (hb : stmt.BindsHonestly)
    (hready : stmt.mQuery.Ready ctx.conn) (hc : c.Careful ctx stmt) :
    Returns (fun r => r.stmt.mQuery.WellFormed ∧ r.stmt.BindsHonestly ∧
      r.stmt.mQuery.Ready ctx.conn) (stmt.call ctx c) := by
  have hcall : Returns (fun r => r.stmt.mQuery.Ready ctx.conn) (stmt.call ctx c) := by
    refine (returns_uncaught hq hready hc).map fun out _ hready' => ?_
    dsimp only
    split_ifs
    · exact hready'
    · exact hready'
  obtain ⟨r, hr, hready'⟩ := hcall
  exact ⟨r, hr, (call_step hq hr).wellFormed hq, hb.call hq hc.honest hr, hready'⟩

/-- **Every entry point of a statement.** -/
theorem returns_enter {e : StmtEntry} (hq : stmt.mQuery.WellFormed) (hb : stmt.BindsHonestly)
    (hready : stmt.mQuery.Ready ctx.conn) (he : e.Careful ctx stmt) :
    Returns (fun r => r.stmt.mQuery.WellFormed ∧ r.stmt.BindsHonestly ∧
      r.stmt.mQuery.Ready ctx.conn) (stmt.enter ctx e) := by
  cases e with
  | call c => exact returns_call hq hb hready (he c rfl)
  | stub f => exact returns_ok ⟨hq, hb, hready⟩
  | allocUnsupported _ => exact returns_ok ⟨hq, hb, hready⟩
  | freeUnsupported _ => exact returns_ok ⟨hq, hb, hready⟩

end RetsSTMT

/-! ## The other handles -/

/-- The outputs that an environment stores unchecked. -/
def EnvCall.OutputsGiven : EnvCall → Prop
  | .getEnvAttr _ value => value ≠ 0
  | .getDiagField _ f a => a.Given f
  | .getDiagRec _ a | .error a => a.Given
  | _ => True

/-- The same of a connection; only the name of the catalog is a text. -/
def DbcCall.OutputsGiven : DbcCall → Prop
  | .getConnectAttr attr a => attr ≠ 109 → a.value ≠ 0 ∧ a.stringLength ≠ 0
  | .getDiagField _ f a => a.Given f
  | .getDiagRec _ a | .error a => a.Given
  | _ => True

/-- The same of a descriptor. -/
def DescCall.OutputsGiven : DescCall → Prop
  | .getDiagField _ f a => a.Given f
  | .getDiagRec _ a => a.Given
  | _ => True

theorem RetsENV.returns_call {env : RetsENV} {c : EnvCall} (hc : c.OutputsGiven) :
    Returns (fun _ => True) (env.call c) := by
  cases c with
  | getEnvAttr attr value =>
    show Returns _ (env.sqlGetEnvAttr attr value)
    unfold sqlGetEnvAttr
    simp only [if_neg hc]
    split <;> exact returns_ok trivial
  | getDiagField r f a =>
    exact (returns_sqlGetDiagField hc (return_base hc)).map fun _ _ _ => trivial
  | getDiagRec r a => exact (returns_sqlGetDiagRec hc _ _).map fun _ _ _ => trivial
  | error a => exact (returns_sqlError hc _).map fun _ _ _ => trivial
  | _ => exact returns_ok trivial

theorem RetsDBC.returns_call {dbc : RetsDBC} {ctx : DbcContext} {c : DbcCall}
    (hc : c.OutputsGiven) : Returns (fun _ => True) (dbc.call ctx c) := by
  cases c with
  | getConnectAttr attr a =>
    have hattr : Returns (fun _ => True) (dbc.sqlGetConnectAttr attr a) := by
      unfold sqlGetConnectAttr
      dsimp only
      split
      · exact returns_ok trivial
      · rename_i hvalue
        have hne : attr ≠ 109 := by
          rintro rfl
          cases hvalue
        rw [if_neg (not_or.mpr (hc hne))]
        exact returns_ok trivial
      · rename_i hvalue
        have hne : attr ≠ 109 := by
          rintro rfl
          cases hvalue
        rw [if_neg (not_or.mpr (hc hne))]
        exact returns_ok trivial
      · exact returns_ok trivial
    exact hattr.map fun _ _ _ => trivial
  | getDiagField r f a =>
    have hmethods : dbc.diagMethods.Return dbc.mErrors r f a :=
      { return_base hc with
        connectionName := fun _ => returns_diagTextOptional _
        serverName := fun _ => returns_diagTextOptional _ }
    exact (returns_sqlGetDiagField hc hmethods).map fun _ _ _ => trivial
  | getDiagRec r a => exact (returns_sqlGetDiagRec hc _ _).map fun _ _ _ => trivial
  | error a => exact (returns_sqlError hc _).map fun _ _ _ => trivial
  | _ => exact returns_ok trivial

theorem BaseDesc.returns_call {desc : BaseDesc} {c : DescCall} (hc : c.OutputsGiven) :
    Returns (fun _ => True) (desc.call c) := by
  cases c with
  | getDiagField r f a =>
    exact (returns_sqlGetDiagField hc (return_base hc)).map fun _ _ _ => trivial
  | getDiagRec r a => exact (returns_sqlGetDiagRec hc _ _).map fun _ _ _ => trivial
  | _ => exact returns_ok trivial

end EzRets
