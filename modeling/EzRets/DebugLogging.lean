import EzRets.Bindings
import EzRets.StatementSteps

/-!
# EzRets.DebugLogging — the statement calls with a debug log

`LOG_DEBUG` evaluates its argument only when the log is on.  Six functions of a statement put into
the log what a pointer of the application points to; all other arguments of the log are values that
the function has at hand, and their texts reach nothing but the log.
-/

namespace EzRets

open FaultRun

/-- Why a call with a log does not return: undefined behaviour of the function itself, or of the
argument of its log, which follows a null pointer or runs past the end of a text. -/
inductive DebugFault
  | inside (f : Fault)
  | nullArgument
  | unterminated
  deriving DecidableEq, Repr

/-- The memory of the application that the argument of a log reads. -/
inductive LogRead
  | value (p : Ptr)
  | text (t : SqlText)

/-- A terminator follows a text of length `SQL_NTS`.  Any other text may do without one. -/
def IsTerminated (bytes : Str) (length : Int) : Prop := length = sqlNts ∨ '\x00' ∈ bytes

instance (bytes : Str) (length : Int) : Decidable (IsTerminated bytes length) :=
  inferInstanceAs (Decidable (length = sqlNts ∨ '\x00' ∈ bytes))

namespace LogRead

/-- The memory can be read: the pointer is not null, and a text ends with a terminator. -/
def IsReadable : LogRead → Prop
  | value p => p ≠ 0
  | text t => ∃ bytes, t.bytes = some bytes ∧ IsTerminated bytes t.length

/-- The evaluation of the argument: a text is put into the log as it stands, with no length. -/
def evaluate : LogRead → Except DebugFault Unit
  | value p => if p = 0 then .error .nullArgument else .ok ()
  | text t =>
    match t.bytes with
    | none => .error .nullArgument
    | some bytes => if IsTerminated bytes t.length then .ok () else .error .unterminated

theorem evaluate_eq_ok {r : LogRead} : r.evaluate = .ok () ↔ r.IsReadable := by
  cases r with
  | value p =>
    show (if p = 0 then .error DebugFault.nullArgument else .ok ()) = Except.ok () ↔ p ≠ 0
    split_ifs with hp
    · exact iff_of_false (fun h => by cases h) (not_not_intro hp)
    · exact iff_of_true rfl hp
  | text t =>
    obtain ⟨bytes, length⟩ := t
    cases bytes with
    | none => exact iff_of_false (fun h => by cases h) (fun ⟨_, h, _⟩ => by cases h)
    | some bytes =>
      show (if IsTerminated bytes length then .ok () else .error DebugFault.unterminated) =
        Except.ok () ↔ _
      split_ifs with ht
      · exact iff_of_true rfl ⟨bytes, rfl, ht⟩
      · refine iff_of_false (fun h => by cases h) ?_
        rintro ⟨_, hsome, ht'⟩
        obtain rfl := Option.some.inj hsome
        exact ht ht'

end LogRead

/-- `LOG_DEBUG`. -/
def logDebug (debug : Bool) (r : LogRead) : Except DebugFault Unit :=
  if debug then r.evaluate else .ok ()

/-- A part of a function that the log does not take part in. -/
def unlogged {α : Type} (x : Except Fault α) : Except DebugFault α := x.mapError .inside

/-- A call on a statement.  The table name of `SQLStatistics` is read by the log only. -/
structure LoggedCall where
  call : StmtCall
  statisticsTable : SqlText

namespace RetsSTMT

variable (debug : Bool) (ctx : CallContext) (stmt : RetsSTMT)

/-- `SQLDescribeCol` with its log. -/
def sqlDescribeColLogged (columnNumber : Nat) (a : DescribeColArgs) :
    Except DebugFault StmtOut := do
  let stmt := stmt.clearErrors
  if ← unlogged (stmt.isBadColumn columnNumber) then
    return stmt.raises (.of "07009" "Bad Column Number") .error
  else
    let rs ← unlogged stmt.resultSet
    match rs.getColumn columnNumber with
    | none => return stmt.throws .outOfRange
    | some column =>
      let copied := copyString column.mName a.columnName (toSize a.bufferLength)
      if a.nullable = 0 then .error (.inside .nullOutput)
      else
        let writes := copied.1 ++
          storeIf a.nameLength (.smallint (toSqlSmallint copied.2)) ++
          storeIf a.columnSize (.ulen (column.getColumnSize rs.mTranslator)) ++
          storeIf a.dataType (.smallint (column.getDataType rs.mTranslator)) ++
          storeIf a.decimalDigits (.smallint column.getDecimalDigits) ++
          [⟨a.nullable, .smallint 1⟩]
        -- the name of the type at `DataType`
        logDebug debug (.value a.dataType)
        return ⟨stmt, .ok .success, writes⟩

/-- `SQLPrepare` with its log. -/
def sqlPrepareLogged (statementText : SqlText) : Except DebugFault StmtOut := do
  logDebug debug (.text statementText)
  unlogged (stmt.sqlPrepare ctx statementText)

/-- `SQLExecDirect` with the log of `SQLPrepare`. -/
def sqlExecDirectLogged (statementText : SqlText) : Except DebugFault StmtOut := do
  let out ← stmt.clearErrors.sqlPrepareLogged debug ctx statementText
  match out.result with
  | .ok .success => unlogged (out.stmt.sqlExecute ctx)
  | _ => return out

/-- `SQLGetData` with its log: the length is logged last, unless an exception was thrown. -/
def sqlGetDataLogged (columnNumber : Nat) (b : Binding) : Except DebugFault StmtOut := do
  let stmt := stmt.clearErrors
  if ← unlogged (stmt.isBadColumn columnNumber) then
    return stmt.raises (.of "07009" "Bad Column Number") .error
  else
    let stmt := { stmt with mDataStreamInfo := stmt.streamFor columnNumber }
    if stmt.mDataStreamInfo.status = .noMoreData then
      logDebug debug (.value b.strLenOrInd)
      return stmt.returns .noData
    else
      let rs ← unlogged stmt.resultSet
      let out ← unlogged (rs.getData ctx.deref stmt.ard columnNumber b stmt.mDataStreamInfo)
      let info := out.streamInfo.getD stmt.mDataStreamInfo
      let stmt := { stmt with mDataStreamInfo := info }
      match out.thrown with
      | some e =>
        match getDataError e with
        | some (record, result) => return ⟨stmt.addError record, .ok result, out.writes⟩
        | none => return ⟨stmt, .error e, out.writes⟩
      | none =>
        logDebug debug (.value b.strLenOrInd)
        if info.status = .hasMoreData then
          return ⟨stmt.addError (.of "01004" "Data truncated"), .ok .successWithInfo, out.writes⟩
        else return ⟨stmt, .ok .success, out.writes⟩

/-- `SQLStatistics` with its log. -/
def sqlStatisticsLogged (catalogName schemaName tableName : SqlText) :
    Except DebugFault StmtOut := do
  logDebug debug (.text tableName)
  unlogged (stmt.sqlStatistics ctx catalogName schemaName)

/-- `SQLPrimaryKeys` with its log. -/
def sqlPrimaryKeysLogged (catalogName schemaName tableName : SqlText) :
    Except DebugFault StmtOut := do
  logDebug debug (.text tableName)
  unlogged (stmt.sqlPrimaryKeys ctx catalogName schemaName tableName)

/-- `UncaughtOdbcEntry` of a call with its log. -/
def uncaughtLogged (c : LoggedCall) : Except DebugFault StmtOut :=
  match c.call with
  | .describeCol columnNumber a => stmt.sqlDescribeColLogged debug columnNumber a
  | .prepare statementText => stmt.sqlPrepareLogged debug ctx statementText
  | .execDirect statementText => stmt.sqlExecDirectLogged debug ctx statementText
  | .getData columnNumber b => stmt.sqlGetDataLogged debug ctx columnNumber b
  | .statistics catalogName schemaName =>
    stmt.sqlStatisticsLogged debug ctx catalogName schemaName c.statisticsTable
  | .primaryKeys catalogName schemaName tableName =>
    stmt.sqlPrimaryKeysLogged debug ctx catalogName schemaName tableName
  | call => unlogged (stmt.uncaught ctx call)

/-- A call through its entry wrapper, with the log on or off. -/
def callLogged (c : LoggedCall) : Except DebugFault Returned :=
  (stmt.uncaughtLogged debug ctx c).map fun out =>
    let entry := odbcEntry out.stmt.mErrors out.result
    ⟨if entryRecords c.call then { out.stmt with mErrors := entry.2 } else out.stmt, entry.1,
      out.writes⟩

end RetsSTMT

/-! ## With the log off, and with a log that can be read -/

/-- What of the application's memory the log of a call reads. -/
def LoggedCall.reads (c : LoggedCall) : Option LogRead :=
  match c.call with
  | .describeCol _ a => some (.value a.dataType)
  | .prepare statementText | .execDirect statementText => some (.text statementText)
  | .getData _ b => some (.value b.strLenOrInd)
  | .statistics _ _ => some (.text c.statisticsTable)
  | .primaryKeys _ _ tableName => some (.text tableName)
  | _ => none

theorem unlogged_bind {α β : Type} (x : Except Fault α) (f : α → Except Fault β) :
    unlogged (x >>= f) = unlogged x >>= fun a => unlogged (f a) := by
  cases x <;> rfl

theorem logDebug_false (r : LogRead) : logDebug false r = .ok () := rfl

theorem logDebug_true {r : LogRead} (h : r.IsReadable) : logDebug true r = .ok () :=
  LogRead.evaluate_eq_ok.mpr h

namespace RetsSTMT

variable {debug : Bool} {ctx : CallContext} {stmt : RetsSTMT}

theorem sqlDescribeColLogged_eq {columnNumber : Nat} {a : DescribeColArgs}
    (h : logDebug debug (.value a.dataType) = .ok ()) :
    stmt.sqlDescribeColLogged debug columnNumber a = unlogged (stmt.sqlDescribeCol columnNumber a) := by
  unfold sqlDescribeColLogged sqlDescribeCol
  dsimp only
  rw [unlogged_bind]
  refine bind_congr fun bad => ?_
  rcases bad with _ | _
  · show (unlogged stmt.clearErrors.resultSet >>= _) = unlogged (stmt.clearErrors.resultSet >>= _)
    rw [unlogged_bind]
    refine bind_congr fun rs => ?_
    rcases rs.getColumn columnNumber with _ | column
    · rfl
    · dsimp only
      by_cases hnullable : a.nullable = 0
      · rw [if_pos hnullable, if_pos hnullable]
        rfl
      · rw [if_neg hnullable, if_neg hnullable, h]
        rfl
  · rfl

theorem sqlPrepareLogged_eq {text : SqlText} (h : logDebug debug (.text text) = .ok ()) :
    stmt.sqlPrepareLogged debug ctx text = unlogged (stmt.sqlPrepare ctx text) := by
  unfold sqlPrepareLogged
  rw [h]
  rfl

theorem sqlExecDirectLogged_eq {text : SqlText} (h : logDebug debug (.text text) = .ok ()) :
    stmt.sqlExecDirectLogged debug ctx text = unlogged (stmt.sqlExecDirect ctx text) := by
  unfold sqlExecDirectLogged sqlExecDirect
  rw [sqlPrepareLogged_eq h, unlogged_bind]
  refine bind_congr fun out => ?_
  rcases out.result with e | result
  · rfl
  · rcases result with _ | _ | _ | _ | _ <;> rfl

theorem sqlGetDataLogged_eq {columnNumber : Nat} {b : Binding}
    (h : logDebug debug (.value b.strLenOrInd) = .ok ()) :
    stmt.sqlGetDataLogged debug ctx columnNumber b = unlogged (stmt.sqlGetData ctx columnNumber b) := by
  unfold sqlGetDataLogged sqlGetData
  dsimp only
  rw [unlogged_bind]
  refine bind_congr fun bad => ?_
  rcases bad with _ | _
  · by_cases hdone : (stmt.clearErrors.streamFor columnNumber).status = .noMoreData
    · simp only [Bool.false_eq_true, if_false, if_pos hdone, h]
      rfl
    · simp only [Bool.false_eq_true, if_false, if_neg hdone]
      rw [unlogged_bind]
      refine bind_congr fun rs => ?_
      rw [unlogged_bind]
      refine bind_congr fun out => ?_
      rcases out.thrown with _ | e
      · simp only [h]
        by_cases hmore : (out.streamInfo.getD (stmt.clearErrors.streamFor columnNumber)).status =
            .hasMoreData
        · simp only [if_pos hmore]
          rfl
        · simp only [if_neg hmore]
          rfl
      · dsimp only
        rcases getDataError e with _ | ⟨record, result⟩ <;> rfl
  · rfl

/-- A log whose arguments can be evaluated changes nothing. -/
theorem uncaughtLogged_eq {c : LoggedCall} (h : ∀ r ∈ c.reads, logDebug debug r = .ok ()) :
    stmt.uncaughtLogged debug ctx c = unlogged (stmt.uncaught ctx c.call) := by
  obtain ⟨call, table⟩ := c
  cases call with
  | describeCol columnNumber a => exact sqlDescribeColLogged_eq (h _ rfl)
  | prepare text => exact sqlPrepareLogged_eq (h _ rfl)
  | execDirect text => exact sqlExecDirectLogged_eq (h _ rfl)
  | getData columnNumber b => exact sqlGetDataLogged_eq (h _ rfl)
  | statistics catalogName schemaName =>
    show stmt.sqlStatisticsLogged debug ctx catalogName schemaName table = _
    unfold sqlStatisticsLogged
    rw [h _ rfl]
    rfl
  | primaryKeys catalogName schemaName tableName =>
    show stmt.sqlPrimaryKeysLogged debug ctx catalogName schemaName tableName = _
    unfold sqlPrimaryKeysLogged
    rw [h _ rfl]
    rfl
  | _ => rfl

theorem callLogged_eq {c : LoggedCall} (h : ∀ r ∈ c.reads, logDebug debug r = .ok ()) :
    stmt.callLogged debug ctx c = unlogged (stmt.call ctx c.call) := by
  unfold callLogged call
  rw [uncaughtLogged_eq h]
  rcases stmt.uncaught ctx c.call with e | out <;> rfl

/-- **Without the log the calls are the ones of the model.** -/
theorem callLogged_false (c : LoggedCall) :
    stmt.callLogged false ctx c = unlogged (stmt.call ctx c.call) :=
  callLogged_eq fun r _ => logDebug_false r

end RetsSTMT

/-! ## The calls that a log does not change -/

/-- The application gives what the log of the call reads, or the call does not return without a log
either: `SQLDescribeCol` needs a column and writes through `Nullable` first, and `SQLPrimaryKeys`
looks at the bytes of its table name itself once the catalog is accepted and the schema read. -/
def LoggedCall.LogSafe (c : LoggedCall) : Prop :=
  match c.call with
  | .describeCol columnNumber a => a.dataType ≠ 0 ∨ a.nullable = 0 ∨ columnNumber = 0
  | .prepare statementText | .execDirect statementText => (LogRead.text statementText).IsReadable
  | .getData _ b => b.strLenOrInd ≠ 0
  | .statistics _ _ => (LogRead.text c.statisticsTable).IsReadable
  | .primaryKeys catalogName schemaName tableName =>
    (LogRead.text tableName).IsReadable ∨ tableName.bytes = none ∧ tableName.ReadsBytes ∧
      catalogName.startsNonNul = false ∧ ∃ schema, schemaName.loggedText = .ok schema
  | _ => True

namespace RetsSTMT

/-- In every state in which the call returns without a log it returns the same with one: the return
code, the stores, and the state with its records. -/
def DebugInvisible (c : LoggedCall) : Prop :=
  ∀ ctx stmt r, callLogged false ctx stmt c = .ok r → callLogged true ctx stmt c = .ok r

variable {ctx : CallContext} {stmt : RetsSTMT}

/-- A call whose log can be read. -/
theorem debugInvisible_of_readable {c : LoggedCall} (h : ∀ r ∈ c.reads, r.IsReadable) :
    DebugInvisible c := by
  intro ctx stmt r hr
  rw [callLogged_false] at hr
  rw [callLogged_eq fun read hread => logDebug_true (h read hread)]
  exact hr

/-- A description that does not get as far as its log. -/
theorem debugInvisible_describeCol {n : Nat} {a : DescribeColArgs} {table : SqlText}
    (h : a.nullable = 0 ∨ n = 0) : DebugInvisible ⟨.describeCol n a, table⟩ := by
  have hsame : ∀ (stmt : RetsSTMT) out, unlogged (stmt.sqlDescribeCol n a) = .ok out →
      stmt.sqlDescribeColLogged true n a = .ok out := by
    intro stmt out hout
    rw [← @sqlDescribeColLogged_eq false stmt n a rfl] at hout
    obtain ⟨bad, hbad, hout⟩ := bind_eq_ok.mp hout
    refine bind_eq_ok.mpr ⟨bad, hbad, ?_⟩
    rcases bad with _ | _
    · obtain ⟨rs, hrs, hout⟩ := bind_eq_ok.mp hout
      refine bind_eq_ok.mpr ⟨rs, hrs, ?_⟩
      rcases hcolumn : rs.getColumn n with _ | column
      · rw [hcolumn] at hout
        exact hout
      · rw [hcolumn] at hout
        have hnullable : a.nullable = 0 := by
          refine h.resolve_right ?_
          rintro rfl
          cases hcolumn
        dsimp only at hout
        rw [if_pos hnullable] at hout
        cases hout
    · exact hout
  intro ctx stmt r hr
  rw [callLogged_false] at hr
  obtain ⟨r', hr', rfl⟩ : ∃ r', stmt.call ctx (.describeCol n a) = .ok r' ∧ r' = r :=
    ⟨r, mapError_eq_ok.mp hr, rfl⟩
  obtain ⟨out, hout, rfl⟩ := map_eq_ok.mp hr'
  exact map_eq_ok.mpr ⟨out, hsame stmt out (mapError_eq_ok.mpr hout), rfl⟩

theorem startsNonNul_of_accepted {catalogName : SqlText} {u : Unit}
    (h : refuseCatalog catalogName = .ok u) : catalogName.startsNonNul = false := by
  unfold refuseCatalog at h
  split_ifs at h with hstarts
  · obtain ⟨_, -, hthrow⟩ := bind_eq_ok.mp h
    cases hthrow
  · exact Bool.not_eq_true _ ▸ hstarts

/-- When `SQLPrimaryKeys` reads a table name at a null pointer. -/
theorem primaryKeysArguments_eq_nullText {catalogName schemaName tableName : SqlText} :
    primaryKeysArguments catalogName schemaName tableName = .error .nullText ↔
      tableName.bytes = none ∧ tableName.ReadsBytes ∧ catalogName.startsNonNul = false ∧
        ∃ schema, schemaName.loggedText = .ok schema := by
  constructor
  · intro h
    obtain ⟨_, schema, haccepted, hschema, hread⟩ : ∃ u schema, refuseCatalog catalogName = .ok u ∧
        schemaName.loggedText = .ok schema ∧ ¬ Avoids .nullText tableName.toStr := by
      by_contra hnone
      refine Avoids.bind (avoids_refuseCatalog catalogName) (fun u hu => ?_) h
      refine (avoids_loggedText schemaName).bind fun schema hschema => ?_
      have htable : Avoids .nullText tableName.toStr :=
        not_not.mp fun hread => hnone ⟨u, schema, hu, hschema, hread⟩
      exact htable.bind fun _ _ => avoids_pure _ _
    have hgiven := mt (@avoids_toStr tableName) hread
    rw [not_or, Option.not_isSome_iff_eq_none, not_not] at hgiven
    exact ⟨hgiven.1, hgiven.2, startsNonNul_of_accepted haccepted, schema, hschema⟩
  · rintro ⟨hbytes, hreads, hcatalog, schema, hschema⟩
    have htable : tableName.toStr = .error .nullText :=
      if_pos ⟨Option.isNone_iff_eq_none.mpr hbytes, hreads⟩
    have haccepted : refuseCatalog catalogName = .ok () := by
      unfold refuseCatalog
      rw [hcatalog]
      rfl
    unfold primaryKeysArguments
    rw [haccepted, hschema, htable]
    rfl

/-- A table name that `SQLPrimaryKeys` reads itself. -/
theorem debugInvisible_primaryKeys {catalogName schemaName tableName table : SqlText}
    (h : primaryKeysArguments catalogName schemaName tableName = .error .nullText) :
    DebugInvisible ⟨.primaryKeys catalogName schemaName tableName, table⟩ := by
  intro ctx stmt r hr
  rw [callLogged_false] at hr
  obtain ⟨out, hout, -⟩ := map_eq_ok.mp (mapError_eq_ok.mp hr)
  have hfault : stmt.uncaught ctx (.primaryKeys catalogName schemaName tableName) =
      .error .nullText := by
    show stmt.sqlPrimaryKeys ctx catalogName schemaName tableName = _
    unfold sqlPrimaryKeys
    rw [h]
    rfl
  rw [hfault] at hout
  cases hout

theorem debugInvisible_of_logSafe {c : LoggedCall} (h : c.LogSafe) : DebugInvisible c := by
  obtain ⟨call, table⟩ := c
  cases call with
  | describeCol n a =>
    rcases h with hdata | hbefore
    · refine debugInvisible_of_readable fun r hr => ?_
      obtain rfl := Option.some.inj hr
      exact hdata
    · exact debugInvisible_describeCol hbefore
  | primaryKeys catalogName schemaName tableName =>
    rcases h with hread | hnull
    · refine debugInvisible_of_readable fun r hr => ?_
      obtain rfl := Option.some.inj hr
      exact hread
    · exact debugInvisible_primaryKeys (primaryKeysArguments_eq_nullText.mpr hnull)
  | prepare text =>
    refine debugInvisible_of_readable fun r hr => ?_
    obtain rfl := Option.some.inj hr
    exact h
  | execDirect text =>
    refine debugInvisible_of_readable fun r hr => ?_
    obtain rfl := Option.some.inj hr
    exact h
  | getData n b =>
    refine debugInvisible_of_readable fun r hr => ?_
    obtain rfl := Option.some.inj hr
    exact h
  | statistics catalogName schemaName =>
    refine debugInvisible_of_readable fun r hr => ?_
    obtain rfl := Option.some.inj hr
    exact h
  | _ => exact debugInvisible_of_readable fun r hr => by cases hr

/-! ### The calls that a log changes -/

/-- A log that cannot be read, in a state in which the call without a log returns. -/
theorem not_debugInvisible (ctx : CallContext) (stmt : RetsSTMT) {c : LoggedCall} {r : Returned}
    {f : DebugFault} (hplain : stmt.call ctx c.call = .ok r)
    (hlogged : stmt.uncaughtLogged true ctx c = .error f) :
    ¬ DebugInvisible c := by
  intro h
  have hsame : callLogged true ctx stmt c = .ok r :=
    h ctx stmt r (by rw [callLogged_false, hplain]; rfl)
  unfold callLogged at hsame
  rw [hlogged] at hsame
  cases hsame

theorem exists_unreadable {r : LogRead} (h : ¬ r.IsReadable) :
    ∃ f, logDebug true r = .error f := by
  rcases hevaluate : r.evaluate with f | u
  · exact ⟨f, hevaluate⟩
  · exact absurd (LogRead.evaluate_eq_ok.mp hevaluate) h

/-- A statement with `n` columns, the last of which has been read to its end. -/
def wide (n : Nat) : RetsSTMT :=
  { new with
    mQuery := ⟨.statistics, some (bulkResultSet .default
      (List.replicate n (Column.faux "TYPE" sqlSmallint)))⟩
    mDataStreamInfo := ⟨n, .noMoreData, 0⟩ }

/-- The idle connection with a view of no metadata. -/
def viewingContext : CallContext :=
  { idleContext with
    conn := { idleContext.conn with
      getMetadataView := some ⟨false,
        { getAllResources := []
          getAllClasses := fun _ => []
          getAllTables := fun _ => []
          getAllLookupTypes := fun _ _ => []
          getLookup := fun _ _ => none
          getLookupType := fun _ _ _ => none
          nodup_resources := List.nodup_nil
          nodup_classes := fun _ => List.nodup_nil }⟩ } }

theorem not_debugInvisible_describeCol {n : Nat} {a : DescribeColArgs} {table : SqlText}
    (hdata : a.dataType = 0) (hnullable : a.nullable ≠ 0) (hn : n ≠ 0) :
    ¬ DebugInvisible ⟨.describeCol n a, table⟩ := by
  have hbad : (wide n).clearErrors.isBadColumn n = .ok false := if_neg (by omega)
  have hcolumn : (bulkResultSet .default
      (List.replicate n (Column.faux "TYPE" sqlSmallint))).getColumn n =
        some (Column.faux "TYPE" sqlSmallint) := by
    unfold ResultSet.getColumn
    rw [if_neg hn]
    show (List.replicate n (Column.faux "TYPE" sqlSmallint))[n - 1]? = _
    rw [List.getElem?_replicate, if_pos (by omega)]
  have hrs : (wide n).clearErrors.resultSet = .ok (bulkResultSet .default
      (List.replicate n (Column.faux "TYPE" sqlSmallint))) := rfl
  obtain ⟨out, hout⟩ : ∃ out, (wide n).sqlDescribeCol n a = .ok out := by
    unfold sqlDescribeCol
    dsimp only
    rw [hbad, hrs]
    simp only [bind, Except.bind, hcolumn, if_neg hnullable]
    exact ⟨_, rfl⟩
  refine not_debugInvisible idleContext (wide n) (f := .nullArgument)
    (congrArg (Except.map _) hout) ?_
  show (wide n).sqlDescribeColLogged true n a = .error .nullArgument
  unfold sqlDescribeColLogged
  dsimp only
  rw [hbad, hrs, hdata]
  simp only [unlogged, Except.mapError, bind, Except.bind, hcolumn, if_neg hnullable]
  rfl

theorem not_debugInvisible_getData {n : Nat} {b : Binding} {table : SqlText}
    (hnull : b.strLenOrInd = 0) : ¬ DebugInvisible ⟨.getData n b, table⟩ := by
  have hbad : (wide n).clearErrors.isBadColumn n = .ok false := by
    unfold isBadColumn
    split
    · rename_i hn
      obtain rfl : n = 0 := by omega
      rfl
    · rfl
  have hstream : (wide n).clearErrors.streamFor n = ⟨n, .noMoreData, 0⟩ := if_neg (not_not_intro rfl)
  have hplain : (wide n).sqlGetData idleContext n b = .ok ({ (wide n).clearErrors with
      mDataStreamInfo := ⟨n, .noMoreData, 0⟩ }.returns .noData) := by
    unfold sqlGetData
    dsimp only
    rw [hbad, hstream]
    rfl
  refine not_debugInvisible idleContext (wide n) (f := .nullArgument)
    (congrArg (Except.map _) hplain) ?_
  show (wide n).sqlGetDataLogged true idleContext n b = .error .nullArgument
  unfold sqlGetDataLogged
  dsimp only
  rw [hbad, hstream, hnull]
  rfl

/-- No text compiles on the idle connection. -/
theorem sqlPrepare_idle (text : SqlText) : ∃ out, new.sqlPrepare idleContext text = .ok out := by
  unfold sqlPrepare
  rcases hstatement : text.statement with failure | statement
  · exact fails_returns fun hnull => avoids_statement text (hnull ▸ hstatement)
  · exact ⟨_, rfl⟩

theorem not_debugInvisible_prepare {text table : SqlText}
    (h : ¬ (LogRead.text text).IsReadable) : ¬ DebugInvisible ⟨.prepare text, table⟩ := by
  obtain ⟨f, hf⟩ := exists_unreadable h
  obtain ⟨out, hout⟩ : ∃ out, new.sqlPrepare idleContext text = .ok out := sqlPrepare_idle text
  refine not_debugInvisible idleContext new (f := f)
    (congrArg (Except.map _) hout) ?_
  show (logDebug true (.text text) >>= _) = _
  rw [hf]
  rfl

theorem not_debugInvisible_execDirect {text table : SqlText}
    (h : ¬ (LogRead.text text).IsReadable) : ¬ DebugInvisible ⟨.execDirect text, table⟩ := by
  obtain ⟨f, hf⟩ := exists_unreadable h
  obtain ⟨out, hout⟩ : ∃ out, new.sqlExecDirect idleContext text = .ok out := by
    obtain ⟨prepared, hprepared⟩ := sqlPrepare_idle text
    obtain ⟨statement, q, -, hcreated, -⟩ | ⟨-, -, hresult⟩ := sqlPrepare_cases hprepared
    · cases hcreated
    · refine ⟨prepared, bind_eq_ok.mpr ⟨prepared, hprepared, ?_⟩⟩
      split
      · exact absurd ‹_› hresult
      · rfl
  refine not_debugInvisible idleContext new (f := f)
    (congrArg (Except.map _) hout) ?_
  show ((logDebug true (.text text) >>= _) >>= _) = _
  rw [hf]
  rfl

theorem not_debugInvisible_statistics {catalogName schemaName table : SqlText}
    (h : ¬ (LogRead.text table).IsReadable) :
    ¬ DebugInvisible ⟨.statistics catalogName schemaName, table⟩ := by
  obtain ⟨f, hf⟩ := exists_unreadable h
  obtain ⟨out, hout⟩ : ∃ out, new.sqlStatistics idleContext catalogName schemaName = .ok out := by
    have havoids : Avoids .nullText (statisticsArguments catalogName schemaName) :=
      (avoids_refuseRestricted _ (by simp [catalogRefused])).bind fun _ _ =>
        (avoids_refuseRestricted _ (by simp)).bind fun _ _ => avoids_pure _ _
    unfold sqlStatistics
    rcases harguments : statisticsArguments catalogName schemaName with failure | kind
    · exact fails_returns fun hnull => havoids (hnull ▸ harguments)
    · simp only [statisticsArguments, bind_eq_ok] at harguments
      obtain ⟨_, -, _, -, hkind⟩ := harguments
      cases hkind
      exact ⟨_, rfl⟩
  refine not_debugInvisible idleContext new (f := f)
    (congrArg (Except.map _) hout) ?_
  show (logDebug true (.text table) >>= _) = _
  rw [hf]
  rfl

theorem not_debugInvisible_primaryKeys {catalogName schemaName tableName table : SqlText}
    (h : ¬ (LogRead.text tableName).IsReadable)
    (hnull : primaryKeysArguments catalogName schemaName tableName ≠ .error .nullText) :
    ¬ DebugInvisible ⟨.primaryKeys catalogName schemaName tableName, table⟩ := by
  obtain ⟨f, hf⟩ := exists_unreadable h
  obtain ⟨out, hout⟩ : ∃ out,
      new.sqlPrimaryKeys viewingContext catalogName schemaName tableName = .ok out := by
    unfold sqlPrimaryKeys
    rcases harguments : primaryKeysArguments catalogName schemaName tableName with failure | kind
    · exact fails_returns fun hfailure => hnull (hfailure ▸ harguments)
    · simp only [primaryKeysArguments, bind_eq_ok] at harguments
      obtain ⟨_, -, _, -, table, -, hkind⟩ := harguments
      cases hkind
      exact ⟨_, rfl⟩
  refine not_debugInvisible viewingContext new (f := f)
    (congrArg (Except.map _) hout) ?_
  show (logDebug true (.text tableName) >>= _) = _
  rw [hf]
  rfl

/-- **The debug log leaves a call as it is in every state exactly when the application gives it what
the log reads.** -/
theorem debugInvisible_iff (c : LoggedCall) : DebugInvisible c ↔ c.LogSafe := by
  refine ⟨fun hinvisible => ?_, debugInvisible_of_logSafe⟩
  by_contra hunsafe
  obtain ⟨call, table⟩ := c
  cases call with
  | describeCol n a =>
    obtain ⟨hdata, hnullable, hn⟩ : a.dataType = 0 ∧ a.nullable ≠ 0 ∧ n ≠ 0 := by
      simpa [LoggedCall.LogSafe] using hunsafe
    exact not_debugInvisible_describeCol hdata hnullable hn hinvisible
  | prepare text => exact not_debugInvisible_prepare hunsafe hinvisible
  | execDirect text => exact not_debugInvisible_execDirect hunsafe hinvisible
  | getData n b => exact not_debugInvisible_getData (not_not.mp hunsafe) hinvisible
  | statistics catalogName schemaName => exact not_debugInvisible_statistics hunsafe hinvisible
  | primaryKeys catalogName schemaName tableName =>
    obtain ⟨hread, hreturns⟩ := not_or.mp hunsafe
    exact not_debugInvisible_primaryKeys hread
      (fun hnull => hreturns (primaryKeysArguments_eq_nullText.mp hnull)) hinvisible
  | _ => exact hunsafe trivial

/-- A type list, described without asking for the type of the column. -/
def describeUntyped : LoggedCall := ⟨.describeCol 1 ⟨0, 0, 0, 0, 0, 0, 300⟩, ⟨none, 0⟩⟩

/-- The description succeeds, and with a log it follows a null pointer. -/
theorem describeUntyped_faults : ∃ stmt, run [(idleContext, .getTypeInfo sqlBit)] new = .ok stmt ∧
    (∃ r, callLogged false idleContext stmt describeUntyped = .ok r ∧ r.result = .success) ∧
    callLogged true idleContext stmt describeUntyped = .error .nullArgument := by
  have hrun : run [(idleContext, .getTypeInfo sqlBit)] new = .ok _ := rfl
  exact ⟨_, hrun, ⟨_, rfl, rfl⟩, rfl⟩

end RetsSTMT

end EzRets
