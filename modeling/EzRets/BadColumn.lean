import EzRets.GetData

/-!
# EzRets.BadColumn — column numbers outside the result set

Four calls test `ColumnNumber < 1 && ColumnNumber > columnCount()`, which no number meets.  What
refuses a bad number is `at()` further down, whose exception reaches the application as `HY000`, and
`SQLGetData` has moved its streaming state to the bad column by then.
-/

namespace EzRets

theorem ResultSet.getColumn_eq_none {rs : ResultSet} {c : Nat} (h : c < 1 ∨ rs.columnCount < c) :
    rs.getColumn c = none := by
  unfold ResultSet.getColumn
  rcases h with h | h
  · rw [if_pos (by omega)]
  · have hlen : rs.mColumns.length ≤ c - 1 := by
      unfold ResultSet.columnCount at h
      omega
    rw [if_neg (by omega)]
    exact List.getElem?_eq_none hlen

namespace RetsSTMT

variable {ctx : CallContext} {stmt : RetsSTMT} {rs : ResultSet} {c : Nat}

/-- The calls that test a column number. -/
inductive ColumnCall (columnNumber : Nat) : StmtCall → Prop
  | bindCol (b : Binding) : ColumnCall columnNumber (.bindCol columnNumber b)
  | describeCol (a : DescribeColArgs) : ColumnCall columnNumber (.describeCol columnNumber a)
  | colAttribute (fieldIdentifier : Nat) (a : ColAttributeArgs) :
      ColumnCall columnNumber (.colAttribute columnNumber fieldIdentifier a)
  | getData (b : Binding) : ColumnCall columnNumber (.getData columnNumber b)

/-- The call fails with a record `07009` and changes nothing but the records. -/
def RefusedCleanly (ctx : CallContext) (stmt : RetsSTMT) (call : StmtCall) : Prop :=
  ∃ r, stmt.call ctx call = .ok r ∧ r.result = .error ∧
    (∃ e ∈ r.stmt.mErrors, e.mSqlstate = "07009".toList) ∧ r.stmt.clearErrors = stmt.clearErrors

/-- What the entry wrapper records for the exception of `at()`. -/
def outOfRangeRecord : Error := .of "HY000" "out of range"

/-- What `SQLGetData` records for it. -/
def getDataRecord : Error := .of "HY000" "Error getting data: out of range"

/-! ## What the calls do -/

section Outcome

variable (ctx : CallContext) (hrs : stmt.mQuery.mResultSet = some rs)
  (hc : c < 1 ∨ rs.columnCount < c)

include hrs hc

/-- `SQLBindCol` fails in the wrapper; with a null target it fails before, and silently. -/
theorem bindCol_badColumn (b : Binding) :
    stmt.call ctx (.bindCol c b) =
      .ok ⟨{ stmt with mErrors := if b.targetValue = 0 then [] else [outOfRangeRecord] }, .error,
        []⟩ := by
  have hbad : stmt.clearErrors.isBadColumn c = .ok false := isBadColumn_of_some hrs c
  have hrs' : stmt.clearErrors.resultSet = .ok rs := (resultSet_eq_ok _).mpr hrs
  have hbind : rs.bindColumn c b = none := by
    unfold ResultSet.bindColumn
    rw [ResultSet.getColumn_eq_none hc]
    rfl
  have huncaught : stmt.uncaught ctx (.bindCol c b) =
      .ok (if b.targetValue = 0 then stmt.clearErrors.returns .error
        else stmt.clearErrors.throws .outOfRange) := by
    show stmt.sqlBindCol c b = _
    simp only [sqlBindCol, hbad, bind, Except.bind, Bool.false_eq_true, if_false, hrs', hbind]
    split_ifs <;> rfl
  rw [call_of_uncaught rfl huncaught]
  split_ifs <;> rfl

theorem describeCol_badColumn (a : DescribeColArgs) :
    stmt.call ctx (.describeCol c a) =
      .ok ⟨{ stmt with mErrors := [outOfRangeRecord] }, .error, []⟩ := by
  have hbad : stmt.clearErrors.isBadColumn c = .ok false := isBadColumn_of_some hrs c
  have hrs' : stmt.clearErrors.resultSet = .ok rs := (resultSet_eq_ok _).mpr hrs
  have huncaught : stmt.uncaught ctx (.describeCol c a) =
      .ok (stmt.clearErrors.throws .outOfRange) := by
    show stmt.sqlDescribeCol c a = _
    simp only [sqlDescribeCol, hbad, bind, Except.bind, Bool.false_eq_true, if_false, hrs',
      ResultSet.getColumn_eq_none hc]
    rfl
  rw [call_of_uncaught rfl huncaught]
  rfl

theorem colAttribute_badColumn (fieldIdentifier : Nat) (a : ColAttributeArgs) :
    stmt.call ctx (.colAttribute c fieldIdentifier a) =
      .ok ⟨{ stmt with mErrors := [outOfRangeRecord] }, .error, []⟩ := by
  have hrs' : stmt.clearErrors.mQuery.mResultSet = some rs := hrs
  have hnever : ¬ (c < 1 ∧ c > rs.columnCount) := by omega
  have huncaught : stmt.uncaught ctx (.colAttribute c fieldIdentifier a) =
      .ok (stmt.clearErrors.throws .outOfRange) := by
    show stmt.sqlColAttribute ctx c fieldIdentifier a = _
    unfold sqlColAttribute
    dsimp only
    rw [hrs']
    dsimp only
    rw [if_neg hnever, ResultSet.getColumn_eq_none hc]
  rw [call_of_uncaught rfl huncaught]
  rfl

/-- `SQLGetData` moves the streaming state to the bad column before it fails; where the state says
that this column has been read to its end, there is no failure at all. -/
theorem getData_badColumn (b : Binding) :
    stmt.call ctx (.getData c b) =
      .ok (if (stmt.streamFor c).status = .noMoreData then
          ⟨{ stmt with mErrors := [], mDataStreamInfo := stmt.streamFor c }, .noData, []⟩
        else
          ⟨{ stmt with mErrors := [getDataRecord], mDataStreamInfo := stmt.streamFor c }, .error,
            []⟩) := by
  by_cases hstatus : (stmt.streamFor c).status = .noMoreData
  · have huncaught : stmt.uncaught ctx (.getData c b) = _ := sqlGetData_noData ctx b hrs hstatus
    rw [call_of_uncaught rfl huncaught, if_pos hstatus]
    rfl
  rw [if_neg hstatus]
  have hbad : stmt.clearErrors.isBadColumn c = .ok false := isBadColumn_of_some hrs c
  have hstream : stmt.clearErrors.streamFor c = stmt.streamFor c := rfl
  have hrs' : ({ stmt.clearErrors with mDataStreamInfo := stmt.streamFor c } : RetsSTMT).resultSet =
      .ok rs := (resultSet_eq_ok _).mpr hrs
  have hget : rs.getData ctx.deref stmt.ard c b (stmt.streamFor c) =
      .ok ⟨[], some (stmt.streamFor c), some .outOfRange⟩ := by
    unfold ResultSet.getData
    rw [ResultSet.getColumn_eq_none hc]
  have huncaught : stmt.uncaught ctx (.getData c b) =
      .ok (({ stmt.clearErrors with mDataStreamInfo := stmt.streamFor c }).raises getDataRecord
        .error) := by
    show stmt.sqlGetData ctx c b = _
    simp only [sqlGetData, hbad, bind, Except.bind, Bool.false_eq_true, if_false, hstream]
    rw [if_neg hstatus, hrs']
    dsimp only [clearErrors_ard]
    rw [hget]
    rfl
  rw [call_of_uncaught rfl huncaught]
  rfl

/-- A portioned read of another column loses its place. -/
theorem getData_badColumn_restarts (b : Binding) (hne : stmt.mDataStreamInfo.column ≠ c) :
    ∃ r, stmt.call ctx (.getData c b) = .ok r ∧
      ∀ k, k ≠ c → r.stmt.streamFor k = { DataStreamInfo.reset with column := k } := by
  have hstatus : (stmt.streamFor c).status ≠ .noMoreData := by
    rw [streamFor_of_ne hne]
    exact fun h => (by cases h)
  refine ⟨_, getData_badColumn ctx hrs hc b, fun k hk => ?_⟩
  rw [if_neg hstatus]
  exact streamFor_of_ne fun heq => hk (heq.symm.trans (streamFor_column stmt c))

/-- Whatever such a call records has the SQLSTATE `HY000`. -/
theorem badColumn_records {call : StmtCall} (hcall : ColumnCall c call) {r : Returned}
    (hr : stmt.call ctx call = .ok r) : ∀ e ∈ r.stmt.mErrors, e.mSqlstate = "HY000".toList := by
  have hone : ∀ e ∈ [outOfRangeRecord], e.mSqlstate = "HY000".toList := by simp [outOfRangeRecord,
    Error.of]
  cases hcall with
  | bindCol b =>
    rw [bindCol_badColumn ctx hrs hc b] at hr
    obtain rfl := Except.ok.inj hr
    dsimp only
    split_ifs
    · exact fun e he => (by cases he)
    · exact hone
  | describeCol a =>
    rw [describeCol_badColumn ctx hrs hc a] at hr
    obtain rfl := Except.ok.inj hr
    exact hone
  | colAttribute fieldIdentifier a =>
    rw [colAttribute_badColumn ctx hrs hc fieldIdentifier a] at hr
    obtain rfl := Except.ok.inj hr
    exact hone
  | getData b =>
    rw [getData_badColumn ctx hrs hc b] at hr
    obtain rfl := Except.ok.inj hr
    split_ifs
    · exact fun e he => (by cases he)
    · simp [getDataRecord, Error.of]

/-- **No bad column number is refused cleanly**: the record `07009` is never raised. -/
theorem not_refusedCleanly {call : StmtCall} (hcall : ColumnCall c call) :
    ¬ RefusedCleanly ctx stmt call := by
  rintro ⟨r, hr, -, ⟨e, he, h07009⟩, -⟩
  rw [badColumn_records ctx hrs hc hcall hr e he] at h07009
  revert h07009
  decide

end Outcome

/-- The second column of a count, which has one. -/
theorem not_refusedCleanly_count :
    ¬ RefusedCleanly idleContext (countStatement nameBinding "42".toList)
      (.describeCol 2 ⟨0, 0, 0, 0, 0, 0, 300⟩) := by
  have hcount : 2 < 1 ∨ (countResult nameBinding (countAdded "42".toList)).columnCount < 2 :=
    .inr (by decide)
  exact not_refusedCleanly idleContext rfl hcount (.describeCol _)

/-- A text that is being read in portions, and then a read of column 0. -/
theorem columnZero_notRefused :
    ¬ ∀ call, ColumnCall 0 call → RefusedCleanly idleContext
      { countStatement nameBinding "42".toList with mDataStreamInfo := ⟨1, .hasMoreData, 1⟩ }
      call := by
  intro hall
  obtain ⟨r, hr, -, ⟨e, he, h07009⟩, -⟩ := hall (.getData 0 nameBinding) (.getData _)
  have hcall : RetsSTMT.call idleContext
      { countStatement nameBinding "42".toList with mDataStreamInfo := ⟨1, .hasMoreData, 1⟩ }
      (.getData 0 nameBinding) =
      .ok ⟨{ countStatement nameBinding "42".toList with
        mErrors := [getDataRecord], mDataStreamInfo := ⟨0, .noDataRetrieved, 0⟩ }, .error, []⟩ := rfl
  rw [hcall] at hr
  obtain rfl := Except.ok.inj hr
  rw [List.mem_singleton.mp he] at h07009
  revert h07009
  decide

end RetsSTMT

end EzRets
