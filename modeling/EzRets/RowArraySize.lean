import EzRets.Bindings
import EzRets.FetchRow
import EzRets.StatementSteps

/-!
# EzRets.RowArraySize — the size that an application is told for its row arrays

A fetch hands over one row, and `SQL_ATTR_ROW_ARRAY_SIZE` is refused every other size.  The size
that `SQLGetStmtAttr` reports is a field of the row descriptor, and that field is also where
`SQL_ATTR_PARAMSET_SIZE` is stored.
-/

namespace EzRets

open FaultRun

/-- `SQLSetStmtOption` is `SQLSetStmtAttr`. -/
def StmtCall.setStmtOption (option value : Nat) : StmtCall := .setStmtAttr option value

namespace RetsSTMT

variable {ctx : CallContext} {stmt : RetsSTMT} {c : StmtCall}

/-! ## Calls that leave the descriptors alone -/

/-- The fields that the row attributes are stored in. -/
structure RowAttributes where
  arraySize : Nat
  bindOffsetPtr : Ptr
  bindType : Nat
  statusPtr : Ptr
  rowsFetchedPtr : Ptr

def rowAttributes (stmt : RetsSTMT) : RowAttributes where
  arraySize := stmt.ard.mArraySize
  bindOffsetPtr := stmt.ard.mBindOffsetPtr
  bindType := stmt.ard.mBindType
  statusPtr := stmt.ird.mArrayStatusPtr
  rowsFetchedPtr := stmt.ird.mRowsProcessedPtr

/-- A call that returns leaves the row attributes as they are. -/
def KeepsRow (stmt : RetsSTMT) (x : Except Fault StmtOut) : Prop :=
  ∀ out, x = .ok out → out.stmt.rowAttributes = stmt.rowAttributes

namespace KeepsRow

variable {α : Type} {x : Except Fault α}

theorem ok {out : StmtOut} (h : out.stmt.rowAttributes = stmt.rowAttributes) :
    stmt.KeepsRow (.ok out) := by
  intro out' hout
  rw [← Except.ok.inj hout]
  exact h

theorem error (f : Fault) : stmt.KeepsRow (.error f) := by
  intro out hout
  cases hout

theorem bind {g : α → Except Fault StmtOut} (h : ∀ a, x = .ok a → stmt.KeepsRow (g a)) :
    stmt.KeepsRow (x >>= g) := by
  intro out hout
  obtain ⟨a, ha, hg⟩ := bind_eq_ok.mp hout
  exact h a ha out hg

theorem map {g : α → StmtOut} (h : ∀ a, (g a).stmt.rowAttributes = stmt.rowAttributes) :
    stmt.KeepsRow (x.map g) := by
  intro out hout
  obtain ⟨a, -, rfl⟩ := map_eq_ok.mp hout
  exact h a

end KeepsRow

theorem keepsRow_executed (done : Query.Executed) (caught : Exn → Option Error) :
    (stmt.executed done caught).stmt.rowAttributes = stmt.rowAttributes := by
  unfold executed
  dsimp only
  split
  · rfl
  · split <;> rfl

theorem keepsRow_runCatalog (kind : QueryKind) (caught : Exn → Option Error) :
    stmt.KeepsRow (stmt.runCatalog ctx kind caught) := by
  unfold runCatalog
  refine .bind fun prepared _ => ?_
  rcases prepared with e | rs
  · exact .ok (keepsRow_executed _ _)
  · exact .bind fun out _ => .ok (keepsRow_executed _ _)

theorem keepsRow_fails (failure : ArgumentFailure) :
    stmt.KeepsRow (stmt.clearErrors.fails failure) := by
  cases failure with
  | nullText => exact .error _
  | thrown e => exact .ok rfl
  | refused e => exact .ok rfl

theorem keepsRow_sqlPrepare (text : SqlText) :
    stmt.KeepsRow (stmt.sqlPrepare ctx text) := by
  unfold sqlPrepare
  split
  · exact keepsRow_fails _
  · refine .map fun q => ?_
    split <;> rfl

theorem keepsRow_catalog {c : StmtCall} {arguments : Except ArgumentFailure QueryKind}
    (hc : c.catalogArguments = some arguments) : stmt.KeepsRow (stmt.uncaught ctx c) := by
  obtain ⟨caught, hcall⟩ := uncaught_catalog hc
  rw [hcall]
  cases arguments with
  | error failure => exact keepsRow_fails failure
  | ok kind => exact @keepsRow_runCatalog ctx stmt.clearErrors kind caught

theorem keepsRow_sqlExecute : stmt.KeepsRow (stmt.sqlExecute ctx) :=
  .map fun _ => keepsRow_executed _ _

theorem keepsRow_sqlExecDirect (text : SqlText) :
    stmt.KeepsRow (stmt.sqlExecDirect ctx text) := by
  unfold sqlExecDirect
  refine .bind fun out hout => ?_
  have hprepare : out.stmt.rowAttributes = stmt.rowAttributes :=
    keepsRow_sqlPrepare text out hout
  split
  · intro out' hout'
    rw [keepsRow_sqlExecute out' hout', hprepare]
  · exact .ok hprepare

theorem keepsRow_fetchRow (rs : ResultSet) :
    stmt.KeepsRow (stmt.fetchRow ctx rs) := by
  unfold fetchRow
  refine .bind fun out _ => ?_
  dsimp only
  split
  · exact .ok rfl
  · split <;> exact .ok rfl

theorem keepsRow_sqlFetch : stmt.KeepsRow (stmt.sqlFetch ctx) := by
  unfold sqlFetch
  refine .bind fun rs _ => ?_
  dsimp only
  split
  · exact .ok rfl
  · split
    · exact .ok rfl
    · exact .ok rfl
    · exact @keepsRow_fetchRow ctx stmt.clearErrors _

theorem keepsRow_sqlGetData (columnNumber : Nat) (b : Binding) :
    stmt.KeepsRow (stmt.sqlGetData ctx columnNumber b) := by
  unfold sqlGetData
  refine .bind fun bad _ => ?_
  split
  · exact .ok rfl
  · dsimp only
    split
    · exact .ok rfl
    · refine .bind fun rs _ => .bind fun translated _ => ?_
      split
      · split <;> exact .ok rfl
      · split <;> exact .ok rfl

theorem keepsRow_sqlColAttribute (columnNumber fieldIdentifier : Nat)
    (a : ColAttributeArgs) :
    stmt.KeepsRow (stmt.sqlColAttribute ctx columnNumber fieldIdentifier a) := by
  have hset : ∀ (s : RetsSTMT) (value : Str), (s.setString a value).stmt.rowAttributes =
      s.rowAttributes := by
    intro s value
    unfold setString
    dsimp only
    split <;> rfl
  unfold sqlColAttribute
  dsimp only
  split
  · exact .ok rfl
  · split
    · exact .ok rfl
    · split
      · exact .ok rfl
      · split
        · exact .ok rfl
        · refine .ok ?_
          split <;> exact hset _ _
        · split
          · exact .error _
          · exact .ok rfl

/-- **Only `SQLSetStmtAttr` and `SQLParamOptions` change a row attribute.** -/
theorem keepsRow_uncaught (hattr : ∀ attr value, c ≠ .setStmtAttr attr value)
    (hparam : ∀ crow pirow, c ≠ .paramOptions crow pirow) :
    stmt.KeepsRow (stmt.uncaught ctx c) := by
  have hfetch : stmt.KeepsRow (stmt.clearErrors.sqlFetch ctx) :=
    @keepsRow_sqlFetch ctx stmt.clearErrors
  cases c with
  | bindCol columnNumber b =>
    show stmt.KeepsRow (stmt.sqlBindCol columnNumber b)
    unfold sqlBindCol
    refine .bind fun bad _ => ?_
    split
    · exact .ok rfl
    · split
      · exact .ok rfl
      · refine .bind fun rs _ => ?_
        split <;> exact .ok rfl
  | describeCol columnNumber a =>
    show stmt.KeepsRow (stmt.sqlDescribeCol columnNumber a)
    unfold sqlDescribeCol
    refine .bind fun bad _ => ?_
    split
    · exact .ok rfl
    · refine .bind fun rs _ => ?_
      split
      · exact .ok rfl
      · dsimp only
        split
        · exact .error _
        · exact .ok rfl
  | numResultCols columnCount =>
    show stmt.KeepsRow (stmt.sqlNumResultCols columnCount)
    unfold sqlNumResultCols
    refine .bind fun rs _ => ?_
    split
    · split
      · exact .error _
      · exact .ok rfl
    · exact .ok rfl
  | fetch => exact keepsRow_sqlFetch
  | fetchScroll fetchOrientation =>
    show stmt.KeepsRow (stmt.sqlFetchScroll ctx fetchOrientation)
    unfold sqlFetchScroll
    dsimp only
    split
    · exact .ok rfl
    · exact hfetch
  | extendedFetch pcrow rgfRowStatus =>
    show stmt.KeepsRow (stmt.sqlExtendedFetch ctx pcrow rgfRowStatus)
    unfold sqlExtendedFetch
    refine .bind fun out hout => ?_
    split
    · exact .ok (hfetch out hout)
    · split
      · exact .error _
      · exact .ok (hfetch out hout)
  | getData columnNumber b => exact keepsRow_sqlGetData columnNumber b
  | rowCount p =>
    show stmt.KeepsRow (stmt.sqlRowCount p)
    unfold sqlRowCount
    refine .bind fun rs _ => ?_
    split
    · exact .error _
    · exact .ok rfl
  | colAttribute columnNumber fieldIdentifier a =>
    exact keepsRow_sqlColAttribute columnNumber fieldIdentifier a
  | freeStmt option =>
    show stmt.KeepsRow (stmt.sqlFreeStmt option)
    unfold sqlFreeStmt
    split
    · exact .map fun _ => rfl
    · exact .ok rfl
  | getDiagField recNumber diagIdentifier a => exact .map fun _ => rfl
  | getDiagRec recNumber a => exact .map fun _ => rfl
  | error a => exact .map fun _ => rfl
  | prepare text => exact keepsRow_sqlPrepare text
  | execDirect text => exact keepsRow_sqlExecDirect text
  | execute => exact keepsRow_sqlExecute
  | tables catalog schema table type => exact keepsRow_catalog rfl
  | columns catalog table column => exact keepsRow_catalog rfl
  | getTypeInfo dataType => exact keepsRow_catalog rfl
  | specialColumns identifierType catalog table scope nullable => exact keepsRow_catalog rfl
  | statistics catalog schema => exact keepsRow_catalog rfl
  | primaryKeys catalog schema table => exact keepsRow_catalog rfl
  | setStmtAttr attr value => exact absurd rfl (hattr attr value)
  | getStmtAttr attr value stringLength =>
    show stmt.KeepsRow (stmt.sqlGetStmtAttr ctx attr value stringLength)
    have hstored : ∀ v kind, stmt.KeepsRow (if value = 0 then .error .nullOutput
        else .ok ⟨stmt.clearErrors, .ok .success,
          ⟨value, v⟩ :: storeIf stringLength (.integer kind)⟩) := by
      intro v kind
      split
      · exact .error _
      · exact .ok rfl
    unfold sqlGetStmtAttr
    dsimp only
    split
    all_goals first | exact hstored _ _ | exact .ok rfl
  | paramOptions crow pirow => exact absurd rfl (hparam crow pirow)
  | setDescField desc recNumber fieldIdentifier value =>
    cases desc <;> exact .ok rfl
  | numParams pcpar =>
    show stmt.KeepsRow (stmt.sqlNumParams pcpar)
    unfold sqlNumParams
    split
    · exact .error _
    · exact .ok rfl
  | moreResults => exact .ok rfl
  | cancel => exact .ok rfl

/-! ## Calls that set a parameter attribute -/

/-- `SQL_ATTR_PARAMSET_SIZE`, `SQL_ATTR_PARAMS_PROCESSED_PTR`, `SQL_ATTR_PARAM_BIND_TYPE`,
`SQL_ATTR_PARAM_BIND_OFFSET_PTR`, `SQL_ATTR_PARAM_OPERATION_PTR`, `SQL_ATTR_PARAM_STATUS_PTR`. -/
def paramAttrs : List Int := [22, 21, 18, 17, 19, 20]

end RetsSTMT

namespace StmtCall

/-- The call sets a parameter attribute. -/
def SetsParam : StmtCall → Prop
  | .setStmtAttr attr _ => attr ∈ RetsSTMT.paramAttrs
  | .paramOptions _ _ => True
  | _ => False

/-- The value that the call gives `SQL_ATTR_PARAMSET_SIZE`, an `SQLUINTEGER`. -/
def paramsetSize : StmtCall → Option Nat
  | .setStmtAttr 22 value => some (value % 2 ^ 32)
  | .paramOptions crow _ => some (crow % 2 ^ 32)
  | _ => none

/-- The call sets a number of parameter sets other than one. -/
def SetsParamArray (c : StmtCall) : Prop := ∃ n, c.paramsetSize = some n ∧ n ≠ 1

end StmtCall

namespace RetsSTMT

variable {ctx : CallContext} {stmt : RetsSTMT} {c : StmtCall}

/-- The array size after `SQLSetStmtAttr`. -/
theorem sqlSetStmtAttr_arraySize (stmt : RetsSTMT) (attr : Int) (value : Nat) :
    (stmt.sqlSetStmtAttr attr value).stmt.ard.mArraySize =
      ((StmtCall.setStmtAttr attr value).paramsetSize).getD stmt.ard.mArraySize := by
  have hkeeps : ∀ (s : RetsSTMT) (b : Bool), (s.keepsOption b).stmt.ard = s.ard := by
    intro s b
    unfold keepsOption
    split <;> rfl
  have hother : attr ≠ 22 → (StmtCall.setStmtAttr attr value).paramsetSize = none := by
    intro hne
    unfold StmtCall.paramsetSize
    split
    · rename_i heq
      injection heq with hattr
      exact absurd hattr hne
    · rename_i heq
      cases heq
    · rfl
  by_cases hattr : attr = 22
  · subst hattr
    rfl
  · rw [hother hattr]
    unfold sqlSetStmtAttr
    dsimp only
    split
    all_goals first
      | exact congrArg AppRowDesc.mArraySize (hkeeps _ _)
      | exact absurd rfl hattr
      | rfl

/-- A parameter attribute other than the size is stored elsewhere. -/
theorem sqlSetStmtAttr_param (stmt : RetsSTMT) {attr : Int} (hattr : attr ∈ paramAttrs)
    (value : Nat) : (stmt.sqlSetStmtAttr attr value).stmt.rowAttributes =
      { stmt.rowAttributes with
        arraySize := ((StmtCall.setStmtAttr attr value).paramsetSize).getD stmt.ard.mArraySize } := by
  simp only [paramAttrs, List.mem_cons, List.not_mem_nil, or_false] at hattr
  rcases hattr with rfl | rfl | rfl | rfl | rfl | rfl <;> rfl

theorem sqlParamOptions_rowAttributes (stmt : RetsSTMT) (crow : Nat) (pirow : Ptr) :
    (stmt.sqlParamOptions crow pirow).stmt.rowAttributes =
      { stmt.rowAttributes with arraySize := crow % 2 ^ 32 } := rfl

/-- **What a call does to the array size**: only the number of parameter sets is stored there. -/
theorem call_arraySize {r : Returned} (h : stmt.call ctx c = .ok r) :
    r.stmt.ard.mArraySize = c.paramsetSize.getD stmt.ard.mArraySize := by
  obtain ⟨out, hout, rfl⟩ := map_eq_ok.mp h
  have hentry : ∀ (b : Bool) (mErrors : List Error),
      (if b then { out.stmt with mErrors := mErrors } else out.stmt).ard = out.stmt.ard := by
    intro b mErrors
    split <;> rfl
  refine (congrArg AppRowDesc.mArraySize (hentry _ _)).trans ?_
  by_cases hattr : ∃ attr value, c = .setStmtAttr attr value
  · obtain ⟨attr, value, rfl⟩ := hattr
    rw [← Except.ok.inj hout]
    exact stmt.sqlSetStmtAttr_arraySize attr value
  by_cases hparam : ∃ crow pirow, c = .paramOptions crow pirow
  · obtain ⟨crow, pirow, rfl⟩ := hparam
    rw [← Except.ok.inj hout]
    rfl
  have hnone : c.paramsetSize = none := by
    unfold StmtCall.paramsetSize
    split
    · exact absurd ⟨_, _, rfl⟩ hattr
    · exact absurd ⟨_, _, rfl⟩ hparam
    · rfl
  rw [hnone]
  have hkeeps : stmt.KeepsRow (stmt.uncaught ctx c) := by
    apply keepsRow_uncaught
    · rintro attr value rfl
      exact hattr ⟨attr, value, rfl⟩
    · rintro crow pirow rfl
      exact hparam ⟨crow, pirow, rfl⟩
  exact congrArg RowAttributes.arraySize (hkeeps out hout)

/-! ## The size that the application is told -/

/-- The application is told that a fetch returns one row, a fetch that succeeds moves one row, and
every other size is refused with 01S02. -/
structure TellsRowSize (stmt : RetsSTMT) : Prop where
  told : ∀ ctx value stringLength, value ≠ 0 → ∃ r,
    stmt.call ctx (.getStmtAttr 27 value stringLength) = .ok r ∧ r.result = .success ∧
      r.writes = ⟨value, .uinteger 1⟩ :: storeIf stringLength (.integer (-5))
  fetched : ∀ ctx out, stmt.sqlFetch ctx = .ok out → out.result = .ok .success →
    ∃ rs row rs', stmt.mQuery.mResultSet = some rs ∧ rs.MovesTo row rs' ∧
      out.stmt.mQuery.mResultSet = some rs' ∧
      (stmt.ird.mRowsProcessedPtr ≠ 0 → ⟨stmt.ird.mRowsProcessedPtr, .uinteger 1⟩ ∈ out.writes)
  refused : ∀ ctx attr value, attr = 27 ∨ attr = 9 → value % 2 ^ 32 ≠ 1 → ∃ r,
    stmt.call ctx (.setStmtAttr attr value) = .ok r ∧ r.result = .successWithInfo ∧
      r.stmt.mErrors = [.of "01S02" "Option Value Changed"] ∧
      r.stmt.rowAttributes = stmt.rowAttributes

/-- A fetch that succeeds tells the application that it returned one row. -/
theorem sqlFetch_rowsFetched {out : StmtOut} (h : stmt.sqlFetch ctx = .ok out)
    (hsuccess : out.result = .ok .success) (hptr : stmt.ird.mRowsProcessedPtr ≠ 0) :
    ⟨stmt.ird.mRowsProcessedPtr, .uinteger 1⟩ ∈ out.writes := by
  obtain ⟨rs, row, rs', hrs, ⟨hempty, rows, rows', hnext, hadvance, -⟩, -⟩ :=
    sqlFetch_success h hsuccess
  rw [sqlFetch_of_hasNext ctx hrs hempty, hnext] at h
  obtain ⟨processed, -, h⟩ := bind_eq_ok.mp h
  dsimp only at h
  split at h
  · rw [← Except.ok.inj h]
    have hstore : (⟨stmt.ird.mRowsProcessedPtr, .uinteger 1⟩ : Write) ∈
        storeIf stmt.ird.mRowsProcessedPtr (.uinteger 1) := by
      rw [storeIf, if_pos hptr]
      exact List.mem_singleton_self _
    exact List.mem_append_left _ (List.mem_append_right _ hstore)
  · split at h
    · rw [← Except.ok.inj h] at hsuccess
      cases hsuccess
    · rw [← Except.ok.inj h] at hsuccess
      cases hsuccess

/-- **The size is told correctly exactly while the field holds it.** -/
theorem tellsRowSize_iff : stmt.TellsRowSize ↔ stmt.ard.mArraySize = 1 := by
  constructor
  · intro h
    obtain ⟨r, hr, -, hwrites⟩ := h.told idleContext 1 0 (by decide)
    rw [← Except.ok.inj hr] at hwrites
    exact CValue.uinteger.inj (congrArg Write.value (List.cons.inj hwrites).1)
  · intro hsize
    constructor
    · intro ctx value stringLength hvalue
      refine ⟨⟨stmt.clearErrors, .success,
        ⟨value, .uinteger 1⟩ :: storeIf stringLength (.integer (-5))⟩, ?_, rfl, rfl⟩
      have hget : stmt.sqlGetStmtAttr ctx 27 value stringLength = .ok ⟨stmt.clearErrors, .ok .success,
          ⟨value, .uinteger stmt.ard.mArraySize⟩ :: storeIf stringLength (.integer (-5))⟩ :=
        if_neg hvalue
      rw [hsize] at hget
      exact congrArg (Except.map _) hget
    · intro ctx out h hsuccess
      obtain ⟨rs, row, rs', hrs, hmove, hfetched⟩ := sqlFetch_success h hsuccess
      have hrs' : out.stmt.mQuery.mResultSet = some rs' := congrArg Query.mResultSet hfetched.mQuery
      exact ⟨rs, row, rs', hrs, hmove, hrs', sqlFetch_rowsFetched h hsuccess⟩
    · intro ctx attr value hattr hvalue
      have hset : stmt.sqlSetStmtAttr attr value = stmt.clearErrors.raises
          (.of "01S02" "Option Value Changed") .successWithInfo := by
        have hne : decide (value % 2 ^ 32 = stmt.clearErrors.ard.mArraySize) = false := by
          rw [decide_eq_false_iff_not]
          show value % 2 ^ 32 ≠ stmt.ard.mArraySize
          rw [hsize]
          exact hvalue
        have hkeeps : stmt.sqlSetStmtAttr attr value = stmt.clearErrors.keepsOption
            (value % 2 ^ 32 = stmt.clearErrors.ard.mArraySize) := by
          rcases hattr with rfl | rfl <;> rfl
        rw [hkeeps, hne]
        rfl
      refine ⟨⟨stmt.clearErrors.addError (.of "01S02" "Option Value Changed"), .successWithInfo, []⟩,
        ?_, rfl, rfl, rfl⟩
      have huncaught : stmt.uncaught ctx (.setStmtAttr attr value) =
          .ok (stmt.sqlSetStmtAttr attr value) := rfl
      rw [call, huncaught, hset]
      rfl

/-- The call, if it sets a parameter attribute, leaves the row attributes alone. -/
def FramesParams (p : CallContext × StmtCall) (stmt : RetsSTMT) : Prop :=
  p.2.SetsParam → ∀ stmt', step p stmt = .ok stmt' → stmt'.rowAttributes = stmt.rowAttributes

/-- The size is told correctly in every state of the run, and no call that sets a parameter
attribute changes a row attribute. -/
structure RowSizeHolds (history : List (CallContext × StmtCall)) : Prop where
  steps : Meets step (fun p stmt => stmt.TellsRowSize ∧ FramesParams p stmt) history new
  final : ∀ stmt, run history new = .ok stmt → stmt.TellsRowSize

/-- A call that sets a parameter attribute changes a row attribute exactly if it sets a number of
parameter sets other than the array size. -/
theorem framesParams_iff {p : CallContext × StmtCall} (hsize : stmt.ard.mArraySize = 1) :
    FramesParams p stmt ↔ ¬ p.2.SetsParamArray := by
  obtain ⟨ctx, c⟩ := p
  have hrow : c.SetsParam → ∃ stmt', step (ctx, c) stmt = .ok stmt' ∧ stmt'.rowAttributes =
      { stmt.rowAttributes with arraySize := c.paramsetSize.getD stmt.ard.mArraySize } := by
    intro hc
    cases c with
    | setStmtAttr attr value =>
      exact ⟨_, rfl, stmt.sqlSetStmtAttr_param hc value⟩
    | paramOptions crow pirow => exact ⟨_, rfl, stmt.sqlParamOptions_rowAttributes crow pirow⟩
    | _ => cases hc
  constructor
  · rintro hframes ⟨n, hn, hne⟩
    have hc : c.SetsParam := by
      unfold StmtCall.paramsetSize at hn
      dsimp only at hn
      split at hn
      · exact List.mem_cons_self
      · trivial
      · cases hn
    obtain ⟨stmt', hstep, hattrs⟩ := hrow hc
    have hsame : n = stmt.ard.mArraySize := by
      rw [hframes hc stmt' hstep] at hattrs
      have harray := congrArg RowAttributes.arraySize hattrs
      rw [show c.paramsetSize = some n from hn] at harray
      exact harray.symm
    exact hne (hsame.trans hsize)
  · rintro hc hsets stmt' hstep
    obtain ⟨stmt₁, hstep₁, hattrs⟩ := hrow hsets
    obtain rfl := Except.ok.inj (hstep.symm.trans hstep₁)
    rw [hattrs]
    rcases hn : c.paramsetSize with _ | n
    · rfl
    · have hone : n = 1 := by
        by_contra hne
        exact hc ⟨n, hn, hne⟩
      rw [hone, Option.getD_some, ← hsize]
      rfl

/-- A call that sets no number of parameter sets other than one keeps the size. -/
theorem step_arraySize {p : CallContext × StmtCall} {stmt' : RetsSTMT} (hp : ¬ p.2.SetsParamArray)
    (hsize : stmt.ard.mArraySize = 1) (h : step p stmt = .ok stmt') :
    stmt'.ard.mArraySize = 1 := by
  obtain ⟨r, hr, rfl⟩ := map_eq_ok.mp h
  rw [call_arraySize hr, hsize]
  rcases hn : p.2.paramsetSize with _ | n
  · rfl
  · by_contra hne
    exact hp ⟨n, hn, hne⟩

/-- **The size is told correctly throughout a run, and row attributes are kept apart from parameter
attributes, exactly when no call of the run sets a number of parameter sets other than one.** -/
theorem rowSizeHolds_iff (history : List (CallContext × StmtCall)) :
    RowSizeHolds history ↔ Meets step (fun p _ => ¬ p.2.SetsParamArray) history new := by
  constructor
  · rintro ⟨hsteps, -⟩
    exact hsteps.mono fun p s h => (framesParams_iff (tellsRowSize_iff.mp h.1)).mp h.2
  · intro hmeets
    have hinv : ∀ {calls : List (CallContext × StmtCall)} {s : RetsSTMT},
        s.ard.mArraySize = 1 → Meets step (fun p _ => ¬ p.2.SetsParamArray) calls s →
        Meets step (fun p s => s.TellsRowSize ∧ FramesParams p s) calls s := by
      intro calls s hsize hcalls
      refine hcalls.strengthen (I := fun s => s.ard.mArraySize = 1)
        (fun p s s' hp hs hstep => step_arraySize hp hs hstep) hsize
        (fun p s hp hs => ⟨tellsRowSize_iff.mpr hs, (framesParams_iff hs).mpr hp⟩)
    refine ⟨hinv rfl hmeets, fun s hs => tellsRowSize_iff.mpr ?_⟩
    exact hmeets.invariant (I := fun s => s.ard.mArraySize = 1)
      (fun p _ s s' hp hs hstep => step_arraySize hp hs hstep) rfl hs

/-- Five parameter sets, and a row array size of one, which is now refused. -/
def fiveParamSets : List (CallContext × StmtCall) :=
  [(idleContext, .paramOptions 5 0), (idleContext, .setStmtOption 27 1)]

/-- The application is told that a fetch returns five rows. -/
theorem not_rowSizeHolds_paramOptions : ¬ RowSizeHolds fiveParamSets := by
  intro h
  have hrun : run fiveParamSets new = .ok _ := rfl
  exact absurd (tellsRowSize_iff.mp (h.final _ hrun)) (by decide)

end RetsSTMT

end EzRets
