import EzRets.Bindings
import EzRets.ReExecution
import EzRets.WorkerStores

/-!
# EzRets.ExtendedFetch — the row count of `SQLExtendedFetch`

`SQLExtendedFetch` fetches one row and stores how many it fetched: one, unless the fetch ended in
`SQL_ERROR`.  Every other return code counts as a row, `SQL_NO_DATA` too.
-/

namespace EzRets

open FaultRun

/-! ## The stored row count -/

/-- The row count that a store leaves at `p`, if it writes one there. -/
def Write.countAt (w : Write) (p : Ptr) : Option Nat :=
  match w.value with
  | .ulen n => if w.ptr = p then some n else none
  | _ => none

/-- The row count at `p` after the stores, `none` where the cell still has its old content. -/
def countAfter : List Write → Ptr → Option Nat
  | [], _ => none
  | w :: ws, p => (countAfter ws p).or (w.countAt p)

/-- No store is a row count. -/
def Uncounted (ws : List Write) : Prop := ∀ w ∈ ws, ∀ n, w.value ≠ .ulen n

namespace Uncounted

theorem nil : Uncounted [] := fun _ hw => nomatch hw

theorem countAfter_eq_none {ws : List Write} (h : Uncounted ws) (p : Ptr) :
    countAfter ws p = none := by
  induction ws with
  | nil => rfl
  | cons w ws ih =>
    have hw : w.countAt p = none := by
      unfold Write.countAt
      split
      · rename_i n hn
        exact absurd hn (h w List.mem_cons_self n)
      · rfl
    rw [countAfter, ih fun w' hw' => h w' (List.mem_cons_of_mem w hw'), hw]
    rfl

theorem append {ws ws' : List Write} (h : Uncounted ws) (h' : Uncounted ws') :
    Uncounted (ws ++ ws') := List.forall_mem_append.mpr ⟨h, h'⟩

theorem storeIf {v : CValue} (h : ∀ n, v ≠ .ulen n) (p : Ptr) :
    Uncounted (RetsSTMT.storeIf p v) := by
  unfold RetsSTMT.storeIf
  split_ifs
  · exact List.forall_mem_singleton.mpr h
  · exact nil

/-- A translation stores values and sizes. -/
theorem translate (dt : DataTranslator) (data : Str) (type : Int) (t : Target) :
    Uncounted (dt.translate data type t).writes := by
  refine DataTranslator.forall_translate ⟨?_, ?_⟩ ?_ dt data type
  · intro size w hw n
    unfold setResultSize at hw
    split_ifs at hw
    · rw [List.mem_singleton.mp hw]
      exact fun h => nomatch h
    · cases hw
  · rintro p v hv n rfl
    cases hv
  · exact fun p s n h => nomatch h

theorem cellData (deref : Deref) (ard : AppRowDesc) (dt : DataTranslator) (count : Nat)
    (cell : Column × Str) : Uncounted (cellData deref ard dt count cell).writes := by
  unfold EzRets.cellData
  split
  · exact translate _ _ _ _
  · exact nil

theorem setCells (deref : Deref) (ard : AppRowDesc) (dt : DataTranslator) (count : Nat)
    (cells : List (Column × Str)) : Uncounted (setCells deref ard dt count cells).1 := by
  induction cells generalizing count with
  | nil => exact nil
  | cons cell cells ih =>
    have hcell : Uncounted (EzRets.cellData deref ard dt count cell).writes := cellData _ _ _ _ _
    rw [EzRets.setCells]
    dsimp only
    split
    · exact hcell
    · exact hcell.append (ih (count + 1))

end Uncounted

namespace RetsSTMT

variable {ctx : CallContext} {stmt : RetsSTMT} {rs : ResultSet} {out : StmtOut}

theorem fetchRow_uncounted (h : stmt.fetchRow ctx rs = .ok out) : Uncounted out.writes := by
  simp only [fetchRow, bind_eq_ok] at h
  obtain ⟨processed, hprocessed, h⟩ := h
  have hcells : Uncounted processed.writes := by
    obtain ⟨next, -, rfl⟩ := map_eq_ok.mp hprocessed
    exact Uncounted.setCells _ _ _ _ _
  rcases hthrown : processed.thrown with _ | e
  · simp only [hthrown] at h
    cases h
    exact (hcells.append (Uncounted.storeIf (by simp) _)).append (Uncounted.storeIf (by simp) _)
  · rcases hrecord : fetchError e with _ | record
    · simp only [hthrown, hrecord] at h
      cases h
      exact hcells
    · simp only [hthrown, hrecord] at h
      cases h
      exact hcells.append (Uncounted.storeIf (by simp) _)

/-- **`SQLFetch` stores no row count.** -/
theorem sqlFetch_uncounted (h : stmt.sqlFetch ctx = .ok out) : Uncounted out.writes := by
  simp only [sqlFetch, bind_eq_ok] at h
  obtain ⟨rs, -, h⟩ := h
  split at h
  · cases h
    exact Uncounted.nil
  · split at h
    · cases h
      exact Uncounted.nil
    · cases h
      exact Uncounted.nil
    · exact fetchRow_uncounted h

/-! ## One call -/

/-- The last two stores of `SQLExtendedFetch` decide what is at `pcrow`. -/
theorem countAfter_stored (ws : List Write) (pcrow rgfRowStatus : Ptr) (count status : Nat) :
    countAfter (ws ++ [⟨pcrow, .ulen count⟩, ⟨rgfRowStatus, .usmallint status⟩]) pcrow =
      some count := by
  induction ws with
  | nil => simp [countAfter, Write.countAt]
  | cons w ws ih =>
    rw [List.cons_append, countAfter, ih]
    rfl

/-- How a fetch ends while rows are to come, with what is counted for it. -/
def Takes (count : Option Nat) (result : Except Exn SqlReturn) : Prop :=
  (result = .ok .success ∧ count = some 1) ∨ (result = .ok .error ∧ count = some 0) ∨
    ((∃ e, result = .error e) ∧ count = none)

/-- **One `SQLFetch`** takes the first of the pending rows, or finds none. -/
theorem sqlFetch_takes (ctx : CallContext) (hrs : stmt.mQuery.mResultSet = some rs) :
    ∃ out, stmt.sqlFetch ctx = .ok out ∧ out.stmt.pendingRows = stmt.pendingRows.tail ∧
      (∃ rs', out.stmt.mQuery.mResultSet = some rs') ∧
      (stmt.pendingRows = [] → out.result = .ok .noData) ∧
      (stmt.pendingRows ≠ [] → out.result = .ok .success ∨ out.result = .ok .error ∨
        ∃ e, out.result = .error e) := by
  obtain ⟨out, hout, hends, hrest, hset⟩ := sqlFetch_pending ctx hrs
  refine ⟨out, hout, hrest, hset, ?_⟩
  rcases hpending : stmt.pendingRows with _ | ⟨e | row, rest⟩
  · rw [hpending] at hends
    exact ⟨fun _ => hends, fun h => absurd rfl h⟩
  · rw [hpending] at hends
    exact ⟨fun h => absurd h (List.cons_ne_nil _ _), fun _ => .inr (.inr ⟨e, hends⟩)⟩
  · rw [hpending] at hends
    refine ⟨fun h => absurd h (List.cons_ne_nil _ _), fun _ => ?_⟩
    exact hends.2.imp_right fun h => h.imp_right fun h => ⟨_, h⟩

/-- What one `SQLExtendedFetch` does: it takes the first of the pending rows and counts it unless it
fails, or finds none and counts one all the same. -/
structure ExtendedFetched (stmt : RetsSTMT) (pcrow : Ptr) (out : StmtOut) : Prop where
  pendingRows : out.stmt.pendingRows = stmt.pendingRows.tail
  resultSet : ∃ rs', out.stmt.mQuery.mResultSet = some rs'
  exhausted : stmt.pendingRows = [] →
    out.result = .ok .noData ∧ countAfter out.writes pcrow = some 1
  taken : stmt.pendingRows ≠ [] → Takes (countAfter out.writes pcrow) out.result

theorem sqlExtendedFetch_takes {pcrow rgfRowStatus : Ptr} (hrs : stmt.mQuery.mResultSet = some rs)
    (h : stmt.sqlExtendedFetch ctx pcrow rgfRowStatus = .ok out) :
    ExtendedFetched stmt pcrow out := by
  obtain ⟨fetched, hfetched, hpending, hset, hend, htaken⟩ := sqlFetch_takes ctx hrs
  have huncounted : Uncounted fetched.writes := sqlFetch_uncounted hfetched
  have hclear : stmt.clearErrors.sqlFetch ctx = .ok fetched := hfetched
  simp only [sqlExtendedFetch, hclear, bind, Except.bind] at h
  rcases hresult : fetched.result with e | result
  · simp only [hresult] at h
    cases h
    refine ⟨hpending, hset, fun hnil => ?_, fun _ => ?_⟩
    · rw [hend hnil] at hresult
      cases hresult
    · exact .inr (.inr ⟨⟨e, hresult⟩, huncounted.countAfter_eq_none pcrow⟩)
  · simp only [hresult] at h
    by_cases hnull : pcrow = 0 ∨ rgfRowStatus = 0
    · rw [if_pos hnull] at h
      cases h
    · rw [if_neg hnull] at h
      cases h
      have hstored := countAfter_stored fetched.writes pcrow rgfRowStatus
        (if result ≠ .error then 1 else 0) (result.code % 2 ^ 16).toNat
      refine ⟨hpending, hset, fun hnil => ?_, fun hne => ?_⟩
      · rw [hend hnil] at hresult
        obtain rfl := Except.ok.inj hresult
        exact ⟨rfl, hstored⟩
      · rcases htaken hne with hok | herror | ⟨e, he⟩
        · rw [hok] at hresult
          obtain rfl := Except.ok.inj hresult
          exact .inl ⟨rfl, hstored⟩
        · rw [herror] at hresult
          obtain rfl := Except.ok.inj hresult
          exact .inr (.inl ⟨rfl, hstored⟩)
        · rw [he] at hresult
          cases hresult

/-! ## Runs -/

/-- A call of `SQLExtendedFetch`. -/
structure ExtendedFetchCall where
  ctx : CallContext
  pcrow : Ptr
  rgfRowStatus : Ptr

/-- What a run of calls leaves behind, call by call. -/
def extendedFetches : List ExtendedFetchCall → RetsSTMT → Except Fault (List StmtOut)
  | [], _ => .ok []
  | c :: calls, stmt => do
    let out ← stmt.sqlExtendedFetch c.ctx c.pcrow c.rgfRowStatus
    let outs ← extendedFetches calls out.stmt
    return out :: outs

/-- The sum of the values stored through `pcrow`. -/
def counted (calls : List ExtendedFetchCall) (outs : List StmtOut) : Nat :=
  ((calls.zip outs).map fun c => (countAfter c.2.writes c.1.pcrow).getD 0).sum

/-- The calls that presented a row. -/
def presented (outs : List StmtOut) : Nat := outs.countP fun out => out.result matches .ok .success

/-- The counts add up to the number of rows. -/
def CountsTruthfully (calls : List ExtendedFetchCall) (outs : List StmtOut) : Prop :=
  counted calls outs = presented outs

/-- The last call, and no other, returned `SQL_NO_DATA`. -/
def UntilNoData (outs : List StmtOut) : Prop :=
  ∃ before last, outs = before ++ [last] ∧ last.result = .ok .noData ∧
    ∀ out ∈ before, out.result ≠ .ok .noData

theorem counted_cons (c : ExtendedFetchCall) (calls : List ExtendedFetchCall) (out : StmtOut)
    (outs : List StmtOut) : counted (c :: calls) (out :: outs) =
      (countAfter out.writes c.pcrow).getD 0 + counted calls outs := rfl

theorem presented_cons (out : StmtOut) (outs : List StmtOut) :
    presented (out :: outs) = presented [out] + presented outs := by
  rw [← List.singleton_append]
  exact List.countP_append

theorem presented_success (h : out.result = .ok .success) : presented [out] = 1 :=
  List.countP_singleton.trans (if_pos (by rw [h]))

theorem presented_other (h : out.result ≠ .ok .success) : presented [out] = 0 := by
  refine List.countP_singleton.trans (if_neg ?_)
  rcases hresult : out.result with e | result
  · simp
  · cases result
    · exact absurd hresult h
    all_goals simp

/-- A call that takes a row counts it when it presents it. -/
theorem ExtendedFetched.count_of_ne_nil {pcrow : Ptr} (h : ExtendedFetched stmt pcrow out)
    (hne : stmt.pendingRows ≠ []) : (countAfter out.writes pcrow).getD 0 = presented [out] := by
  rcases h.taken hne with ⟨hresult, hcount⟩ | ⟨hresult, hcount⟩ | ⟨⟨e, hresult⟩, hcount⟩
  · rw [hcount, presented_success hresult, Option.getD_some]
  · rw [hcount, presented_other (by rw [hresult]; exact fun h => nomatch h), Option.getD_some]
  · rw [hcount, presented_other (by rw [hresult]; exact fun h => nomatch h), Option.getD_none]

/-- A call that finds no row counts one and presents none. -/
theorem ExtendedFetched.count_of_nil {pcrow : Ptr} (h : ExtendedFetched stmt pcrow out)
    (hnil : stmt.pendingRows = []) :
    (countAfter out.writes pcrow).getD 0 = presented [out] + 1 := by
  obtain ⟨hresult, hcount⟩ := h.exhausted hnil
  rw [hcount, presented_other (by rw [hresult]; exact fun h => nomatch h), Option.getD_some]

/-- The first call of a run. -/
theorem extendedFetches_cons {c : ExtendedFetchCall} {calls : List ExtendedFetchCall}
    {outs : List StmtOut} (hrs : stmt.mQuery.mResultSet = some rs)
    (h : extendedFetches (c :: calls) stmt = .ok outs) :
    ∃ out outs' rs', outs = out :: outs' ∧ ExtendedFetched stmt c.pcrow out ∧
      out.stmt.mQuery.mResultSet = some rs' ∧ extendedFetches calls out.stmt = .ok outs' := by
  obtain ⟨out, hout, h⟩ := bind_eq_ok.mp h
  obtain ⟨outs', houts, h⟩ := bind_eq_ok.mp h
  cases h
  have hfetched : ExtendedFetched stmt c.pcrow out := sqlExtendedFetch_takes hrs hout
  obtain ⟨rs', hrs'⟩ := hfetched.resultSet
  exact ⟨out, outs', rs', rfl, hfetched, hrs', houts⟩

/-- **Every call that finds no row is counted as one.** -/
theorem counted_eq {calls : List ExtendedFetchCall} {outs : List StmtOut}
    (hrs : stmt.mQuery.mResultSet = some rs) (h : extendedFetches calls stmt = .ok outs) :
    counted calls outs = presented outs + (calls.length - stmt.pendingRows.length) := by
  induction calls generalizing stmt rs outs with
  | nil =>
    cases h
    simp [counted, presented]
  | cons c calls ih =>
    obtain ⟨out, outs', rs', rfl, hfetched, hrs', houts⟩ := extendedFetches_cons hrs h
    have hrest := ih hrs' houts
    have htail : out.stmt.pendingRows.length = stmt.pendingRows.length - 1 := by
      rw [hfetched.pendingRows, List.length_tail]
    rw [counted_cons, hrest, presented_cons, htail, List.length_cons]
    by_cases hnil : stmt.pendingRows = []
    · rw [hfetched.count_of_nil hnil, hnil, List.length_nil]
      omega
    · have hpos := List.length_pos_of_ne_nil hnil
      rw [hfetched.count_of_ne_nil hnil]
      omega

/-- A run up to `SQL_NO_DATA` has one call more than there were rows. -/
theorem length_of_untilNoData {calls : List ExtendedFetchCall} {outs : List StmtOut}
    (hrs : stmt.mQuery.mResultSet = some rs) (h : extendedFetches calls stmt = .ok outs)
    (huntil : UntilNoData outs) : calls.length = stmt.pendingRows.length + 1 := by
  induction calls generalizing stmt rs outs with
  | nil =>
    cases h
    obtain ⟨before, last, houts, -⟩ := huntil
    exact absurd houts.symm (by simp)
  | cons c calls ih =>
    obtain ⟨out, outs', rs', rfl, hfetched, hrs', houts⟩ := extendedFetches_cons hrs h
    obtain ⟨before, last, hsplit, hlast, hbefore⟩ := huntil
    rcases before with _ | ⟨first, before⟩
    · obtain ⟨rfl, rfl⟩ := List.cons_eq_cons.mp hsplit
      have hnil : stmt.pendingRows = [] := by
        by_contra hne
        rcases hfetched.taken hne with ⟨hresult, -⟩ | ⟨hresult, -⟩ | ⟨⟨e, hresult⟩, -⟩
        all_goals
          rw [hlast] at hresult
          cases hresult
      have hcalls : calls = [] := by
        rcases calls with _ | ⟨c', calls⟩
        · rfl
        · obtain ⟨out', -, houts⟩ := bind_eq_ok.mp houts
          obtain ⟨outs'', -, houts⟩ := bind_eq_ok.mp houts
          cases houts
      rw [hnil, hcalls]
      rfl
    · obtain ⟨rfl, rfl⟩ := List.cons_eq_cons.mp hsplit
      have hne : stmt.pendingRows ≠ [] := by
        intro hnil
        exact hbefore out List.mem_cons_self (hfetched.exhausted hnil).1
      have hrest := ih hrs' houts
        ⟨before, last, rfl, hlast, fun o ho => hbefore o (List.mem_cons_of_mem _ ho)⟩
      have hpos := List.length_pos_of_ne_nil hne
      rw [hfetched.pendingRows, List.length_tail] at hrest
      rw [List.length_cons, hrest]
      omega

theorem length_extendedFetches {calls : List ExtendedFetchCall} {outs : List StmtOut}
    (h : extendedFetches calls stmt = .ok outs) : outs.length = calls.length := by
  induction calls generalizing stmt outs with
  | nil =>
    cases h
    rfl
  | cons c calls ih =>
    obtain ⟨out, -, h⟩ := bind_eq_ok.mp h
    obtain ⟨outs', houts, h⟩ := bind_eq_ok.mp h
    cases h
    exact congrArg (· + 1) (ih houts)

/-- **The counts are truthful** as long as there are rows to come; a run that goes on until
`SQL_NO_DATA` counts one too many. -/
theorem countsTruthfully_iff {calls : List ExtendedFetchCall} {outs : List StmtOut}
    (hrs : stmt.mQuery.mResultSet = some rs) (h : extendedFetches calls stmt = .ok outs) :
    (CountsTruthfully calls outs ↔ calls.length ≤ stmt.pendingRows.length) ∧
      (UntilNoData outs → counted calls outs = presented outs + 1) := by
  have hcounted := counted_eq hrs h
  constructor
  · unfold CountsTruthfully
    omega
  · intro huntil
    have hlength := length_of_untilNoData hrs h huntil
    omega

/-- A statement that waits for the rows of a bulk result set without bound columns. -/
def bulkStatement (rows : List (List Str)) : RetsSTMT :=
  new.setQuery ⟨.tableMetadata [] [] [] [],
    some ⟨.default, [], .bulk (BulkRows.new.addRows rows)⟩⟩

/-- Counts go to 8, row states to 16. -/
def countedCall : ExtendedFetchCall := ⟨idleContext, 8, 16⟩

/-- Two calls for one row. -/
theorem counted_oneRow :
    ∃ outs, extendedFetches [countedCall, countedCall] (bulkStatement [[]]) = .ok outs ∧
      counted [countedCall, countedCall] outs = presented outs + 1 := by
  have hrun : ∃ outs, extendedFetches [countedCall, countedCall] (bulkStatement [[]]) = .ok outs ∧
      UntilNoData outs := by
    refine ⟨_, rfl, [_], _, rfl, rfl, ?_⟩
    intro out hout
    rw [List.mem_singleton.mp hout]
    exact fun h => nomatch h
  obtain ⟨outs, hrun, huntil⟩ := hrun
  have hrs : (bulkStatement [[]]).mQuery.mResultSet =
      some ⟨.default, [], .bulk (BulkRows.new.addRows [[]])⟩ := rfl
  exact ⟨outs, hrun, (countsTruthfully_iff hrs hrun).2 huntil⟩

/-- Without a row there is still one to count. -/
theorem not_countsTruthfully_noRows :
    ∃ outs, extendedFetches [countedCall] (bulkStatement []) = .ok outs ∧ UntilNoData outs ∧
      ¬ CountsTruthfully [countedCall] outs := by
  refine ⟨_, rfl, ?_, ?_⟩
  · exact ⟨[], _, rfl, rfl, fun _ h => nomatch h⟩
  · exact fun h => nomatch h

/-- When no row fails, a run up to `SQL_NO_DATA` presents all rows. -/
theorem presented_eq_length {calls : List ExtendedFetchCall} {before : List StmtOut}
    {last : StmtOut} (hrs : stmt.mQuery.mResultSet = some rs)
    (h : extendedFetches calls stmt = .ok (before ++ [last]))
    (hlast : last.result = .ok .noData) (hbefore : ∀ o ∈ before, o.result = .ok .success) :
    presented (before ++ [last]) = stmt.pendingRows.length := by
  have huntil : UntilNoData (before ++ [last]) := by
    refine ⟨before, last, rfl, hlast, fun o ho he => ?_⟩
    rw [hbefore o ho] at he
    cases he
  have hcalls := length_of_untilNoData hrs h huntil
  have houts := length_extendedFetches h
  have hall : before.countP (fun o => o.result matches .ok .success) = before.length := by
    rw [List.countP_eq_length]
    intro o ho
    rw [hbefore o ho]
  rw [List.length_append, List.length_singleton] at houts
  unfold presented
  rw [List.countP_append, hall, List.countP_singleton, hlast, if_neg (by decide)]
  omega

end RetsSTMT

end EzRets
