import EzRets.FetchRow
import EzRets.NullResultSet
import EzRets.TableNames

/-!
# EzRets.ReExecution — executing a prepared statement again

A result set is a forward cursor: what counts is the list of rows that it will still deliver.  A
fetch takes the first of them.  An execution should make them the rows that it produces, and it
does so only where nothing of the earlier executions is left in the result set.
-/

namespace EzRets

open FaultRun

/-! ## The rows that a result set will still deliver -/

namespace BulkRows

/-- The rows behind the iterator. -/
def pendingRows (rs : BulkRows) : List (List Str) :=
  rs.mResults.drop (if rs.mGotFirst then rs.mResultIterator + 1 else rs.mResultIterator)

theorem hasNext_iff (rs : BulkRows) : rs.hasNext = true ↔ rs.pendingRows ≠ [] := by
  unfold hasNext pendingRows
  cases hfirst : rs.mGotFirst with
  | true =>
    have hlt := rs.fetched hfirst
    simp only [if_true, decide_eq_true_eq, ne_eq, List.drop_eq_nil_iff]
    omega
  | false =>
    have hzero := rs.unfetched hfirst
    simp only [Bool.false_eq_true, if_false, decide_eq_true_eq, ne_eq, List.drop_eq_nil_iff]
    omega

/-- The row that `next` moves to is the first of the pending ones. -/
theorem next_of_pending {rs : BulkRows} {row : List Str} {rest : List (List Str)}
    (h : rs.pendingRows = row :: rest) :
    ∃ rs', rs.next = .ok (row, rs') ∧ rs'.pendingRows = rest := by
  unfold pendingRows at h
  unfold next
  extract_lets iterator
  change rs.mResults.drop iterator = row :: rest at h
  have hlt : iterator < rs.mResults.length := by
    by_contra hge
    rw [List.drop_eq_nil_of_le (Nat.not_lt.mp hge)] at h
    cases h
  rw [List.drop_eq_getElem_cons hlt] at h
  obtain ⟨hrow, hrest⟩ := List.cons_eq_cons.mp h
  rw [dif_pos hlt]
  refine ⟨⟨true, rs.mResults, iterator, fun _ => hlt, by simp⟩, ?_, hrest⟩
  rw [← hrow]
  rfl

theorem addRows_mResults (rs : BulkRows) (rows : List (List Str)) :
    (rs.addRows rows).mResults = rs.mResults ++ rows := by
  induction rows generalizing rs with
  | nil => exact (List.append_nil _).symm
  | cons row rows ih =>
    refine (ih (rs.addRow row)).trans ?_
    simp [addRow]

theorem addRows_mGotFirst (rs : BulkRows) (rows : List (List Str)) :
    (rs.addRows rows).mGotFirst = rs.mGotFirst := by
  induction rows generalizing rs with
  | nil => rfl
  | cons row rows ih => exact ih (rs.addRow row)

/-- The iterator is sent back to the first row by every row that is added. -/
theorem addRows_mResultIterator (rs : BulkRows) {rows : List (List Str)} (h : rows ≠ []) :
    (rs.addRows rows).mResultIterator = 0 := by
  induction rows generalizing rs with
  | nil => exact absurd rfl h
  | cons row rows ih =>
    by_cases hrows : rows = []
    · rw [hrows]
      rfl
    · exact ih (rs.addRow row) hrows

/-- **Added rows are the pending ones** exactly when the result set held no more than the row that
has been fetched. -/
theorem addRows_pendingRows_iff (rs : BulkRows) {rows : List (List Str)} (h : rows ≠ []) :
    (rs.addRows rows).pendingRows = rows ↔ rs.mResults.length = rs.mGotFirst.toNat := by
  have hpos := List.length_pos_of_ne_nil h
  have hskip : (rs.addRows rows).pendingRows =
      (rs.mResults ++ rows).drop rs.mGotFirst.toNat := by
    unfold pendingRows
    rw [addRows_mResults, addRows_mGotFirst, addRows_mResultIterator rs h]
    cases rs.mGotFirst <;> rfl
  rw [hskip]
  constructor
  · intro heq
    have hlength := congrArg List.length heq
    rw [List.length_drop, List.length_append] at hlength
    have hfirst : rs.mGotFirst.toNat ≤ 1 := Bool.toNat_le rs.mGotFirst
    omega
  · intro hlength
    rw [← hlength, List.drop_left]

end BulkRows

/-- The rows of a search answer that are still to come. -/
def SearchResultSet.pendingRows (results : SearchResultSet) : List (Except Exn RowData) :=
  results.pending.map fun row => row.map RowData.search

/-- The rows of an object answer: objects that the server does not find are skipped. -/
def objectRows : GetObjectResponse → List (Except Exn RowData)
  | [] => []
  | .error e :: pending => .error e :: objectRows pending
  | .ok d :: pending =>
    if d.getRetsReplyCode ∈ objectErrorCodes then
      .error (.getObject d.getRetsReplyText) :: objectRows pending
    else if d.getRetsReplyCode = 20403 then objectRows pending
    else
      match d.getData with
      | .error e => .error e :: objectRows pending
      | .ok obj =>
        .ok (.object (Function.update (objectFields d) "raw_data".toList obj)) ::
          objectRows pending

theorem objectRows_ok (d : ObjectDescriptor) (pending : GetObjectResponse) :
    objectRows (.ok d :: pending) =
      if d.getRetsReplyCode ∈ objectErrorCodes then
        .error (.getObject d.getRetsReplyText) :: objectRows pending
      else if d.getRetsReplyCode = 20403 then objectRows pending
      else
        match d.getData with
        | .error e => .error e :: objectRows pending
        | .ok obj =>
          .ok (.object (Function.update (objectFields d) "raw_data".toList obj)) ::
            objectRows pending := rfl

theorem objectHasNext_ok (map : Str → Str) (d : ObjectDescriptor) (pending : GetObjectResponse) :
    objectHasNext map (.ok d :: pending) =
      if d.getRetsReplyCode ∈ objectErrorCodes then
        (.error (.getObject d.getRetsReplyText), pending, map)
      else if d.getRetsReplyCode = 20403 then objectHasNext map pending
      else
        match d.getData with
        | .error e => (.error e, pending, objectFields d)
        | .ok obj =>
          (.ok true, pending, Function.update (objectFields d) "raw_data".toList obj) := rfl

namespace RowSource

/-- What the rows of a result set will be, each of which may fail instead. -/
def pendingRows : RowSource → List (Except Exn RowData)
  | bulk rs => rs.pendingRows.map fun row => .ok (.bulk row)
  | onDemand none => []
  | onDemand (some results) => results.pendingRows
  | onDemandObject none _ => []
  | onDemandObject (some pending) _ => objectRows pending

/-- What `objectHasNext` does with the first row of an answer. -/
theorem objectHasNext_spec (map : Str → Str) (pending : GetObjectResponse) :
    match objectRows pending with
    | [] => (objectHasNext map pending).1 = .ok false ∧
        objectRows (objectHasNext map pending).2.1 = []
    | .error e :: rest => (objectHasNext map pending).1 = .error e ∧
        objectRows (objectHasNext map pending).2.1 = rest
    | .ok row :: rest => (objectHasNext map pending).1 = .ok true ∧
        row = .object (objectHasNext map pending).2.2 ∧
        objectRows (objectHasNext map pending).2.1 = rest := by
  induction pending with
  | nil => exact ⟨rfl, rfl⟩
  | cons d pending ih =>
    cases d with
    | error e => exact ⟨rfl, rfl⟩
    | ok d =>
      rw [objectRows_ok, objectHasNext_ok]
      by_cases hcode : d.getRetsReplyCode ∈ objectErrorCodes
      · rw [if_pos hcode, if_pos hcode]
        exact ⟨rfl, rfl⟩
      · rw [if_neg hcode, if_neg hcode]
        by_cases hskip : d.getRetsReplyCode = 20403
        · rw [if_pos hskip, if_pos hskip]
          exact ih
        · rw [if_neg hskip, if_neg hskip]
          cases d.getData with
          | error e => exact ⟨rfl, rfl⟩
          | ok obj => exact ⟨rfl, rfl, rfl⟩

theorem isEmpty_of_ne_nil {rows : RowSource} (h : rows.pendingRows ≠ []) :
    rows.isEmpty = false := by
  cases rows with
  | bulk rs =>
    refine Bool.eq_false_iff.mpr fun hempty => h ?_
    have hnil : rs.mResults = [] := List.isEmpty_iff.mp hempty
    simp [pendingRows, BulkRows.pendingRows, hnil]
  | onDemand results => rfl
  | onDemandObject pending map => rfl

/-- **Exhausted**: no row is left, and none comes back. -/
theorem hasNext_of_nil {rows : RowSource} (h : rows.pendingRows = []) :
    rows.hasNext.1 = .ok false ∧ rows.hasNext.2.pendingRows = [] := by
  cases rows with
  | bulk rs =>
    have hnil : rs.pendingRows = [] := List.map_eq_nil_iff.mp h
    have hfalse : rs.hasNext = false := by
      rw [Bool.eq_false_iff]
      exact fun htrue => rs.hasNext_iff.mp htrue hnil
    exact ⟨congrArg Except.ok hfalse, h⟩
  | onDemand results =>
    cases results with
    | none => exact ⟨rfl, rfl⟩
    | some results =>
      have hnil : results.pending = [] := List.map_eq_nil_iff.mp h
      simp only [hasNext, hnil]
      exact ⟨trivial, h⟩
  | onDemandObject pending map =>
    cases pending with
    | none => exact ⟨rfl, rfl⟩
    | some pending =>
      have hspec := objectHasNext_spec map pending
      rw [show objectRows pending = [] from h] at hspec
      exact hspec

/-- **A row that fails** is passed over. -/
theorem hasNext_of_error {rows : RowSource} {e : Exn} {rest : List (Except Exn RowData)}
    (h : rows.pendingRows = .error e :: rest) :
    rows.hasNext.1 = .error e ∧ rows.hasNext.2.pendingRows = rest := by
  cases rows with
  | bulk rs =>
    obtain ⟨row, -, hrow⟩ := List.mem_map.mp
      (show (.error e : Except Exn RowData) ∈ rs.pendingRows.map _ by
        rw [show rs.pendingRows.map _ = _ from h]
        exact List.mem_cons_self)
    cases hrow
  | onDemand results =>
    cases results with
    | none => cases h
    | some results =>
      obtain ⟨row, pending, hpending, hrow, hrest⟩ := List.map_eq_cons_iff.mp h
      cases row with
      | ok row => cases hrow
      | error e' =>
        cases hrow
        simp only [hasNext, hpending]
        exact ⟨trivial, hrest⟩
  | onDemandObject pending map =>
    cases pending with
    | none => cases h
    | some pending =>
      have hspec := objectHasNext_spec map pending
      rw [show objectRows pending = .error e :: rest from h] at hspec
      exact hspec

/-- **A row** is handed out and the rest remains. -/
theorem hasNext_of_row {rows : RowSource} {row : RowData} {rest : List (Except Exn RowData)}
    (h : rows.pendingRows = .ok row :: rest) :
    rows.hasNext.1 = .ok true ∧
      ∃ rows', rows.hasNext.2.advance = .ok (row, rows') ∧ rows'.pendingRows = rest := by
  cases rows with
  | bulk rs =>
    obtain ⟨row', pending, hpending, hrow, hrest⟩ := List.map_eq_cons_iff.mp h
    cases hrow
    have hnext : rs.hasNext = true := by
      rw [rs.hasNext_iff, hpending]
      simp
    obtain ⟨rs', hmoved, hpending'⟩ := BulkRows.next_of_pending hpending
    refine ⟨congrArg Except.ok hnext, bulk rs', ?_, ?_⟩
    · simp only [hasNext, advance, hmoved]
      rfl
    · rw [pendingRows, hpending', hrest]
  | onDemand results =>
    cases results with
    | none => cases h
    | some results =>
      obtain ⟨row', pending, hpending, hrow, hrest⟩ := List.map_eq_cons_iff.mp h
      cases row' with
      | error e => cases hrow
      | ok getString =>
        cases hrow
        simp only [hasNext, hpending]
        exact ⟨trivial, _, rfl, hrest⟩
  | onDemandObject pending map =>
    cases pending with
    | none => cases h
    | some pending =>
      have hspec := objectHasNext_spec map pending
      rw [show objectRows pending = .ok row :: rest from h] at hspec
      obtain ⟨hnext, hrow, hrest⟩ := hspec
      refine ⟨hnext, onDemandObject (some (objectHasNext map pending).2.1)
        (objectHasNext map pending).2.2, ?_, hrest⟩
      rw [hrow]
      rfl

end RowSource

/-! ## What an execution produces -/

namespace Query

/-- The rows that the result set of a query will still deliver. -/
def pendingRows (q : Query) : List (Except Exn RowData) :=
  match q.mResultSet with
  | some rs => rs.rows.pendingRows
  | none => []

/-- The rows that one execution of a bulk query adds. -/
def bulkRows (conn : Connection) (kind : QueryKind) : List (List Str) :=
  match bulkExecution conn 0 kind with
  | some (.ok execution) => execution.rows
  | _ => []

/-- The rows that one execution produces: those that it adds to a bulk result set, or those of the
server's answer.  An execution that sends nothing or fails produces none. -/
def produced (conn : Connection) (q : Query) : List (Except Exn RowData) :=
  match q.kind with
  | .onDemandData _ dmqlQuery =>
    if searches conn dmqlQuery then
      match OnDemandDataQuery.doRetsQuery conn dmqlQuery with
      | .ok (.ok results) => results.pendingRows
      | _ => []
    else []
  | .onDemandObject objectQuery =>
    match OnDemandObjectQuery.response conn objectQuery with
    | .ok (.ok response) => objectRows response
    | _ => []
  | kind => (bulkRows conn kind).map fun row => .ok (.bulk row)

/-- The server answers the request of an on-demand query. -/
def Answered (conn : Connection) (q : Query) : Prop :=
  match q.kind with
  | .onDemandData _ dmqlQuery => searches conn dmqlQuery = true ∧
      ∃ results, OnDemandDataQuery.doRetsQuery conn dmqlQuery = .ok (.ok results)
  | .onDemandObject objectQuery =>
      ∃ response, OnDemandObjectQuery.response conn objectQuery = .ok (.ok response)
  | _ => False

/-- **Where an execution starts afresh.**  A bulk result set that gets rows holds none, or only one
that has been fetched; one that gets none has been read to its end.  An on-demand result set gets a
new answer, or has been read to its end. -/
def StartsAfresh (conn : Connection) (q : Query) : Prop :=
  match q.mResultSet with
  | some ⟨_, _, .bulk rows⟩ =>
    if bulkRows conn q.kind = [] then rows.pendingRows = []
    else rows.mResults.length = rows.mGotFirst.toNat
  | _ => q.Answered conn ∨ q.pendingRows = []

theorem bulkRows_eq {conn : Connection} {stored : Nat} {kind : QueryKind} {execution : Execution}
    (h : bulkExecution conn stored kind = some (.ok execution)) :
    bulkRows conn kind = execution.rows := by
  have hother : ∀ {x : Except Fault Execution}, bulkExecution conn 0 kind = some x →
      some x = some (.ok execution) → bulkRows conn kind = execution.rows := by
    intro x hx heq
    unfold bulkRows
    rw [hx, heq]
  cases kind with
  | typeInfo dataType =>
    -- only the check for an empty result set looks at the rows stored before
    have hrows : ∀ n, (TypeInfoMetadataQuery.execute dataType n).rows =
        (TypeInfoMetadataQuery.allRows.filter fun row =>
          dataType = 0 ∨ dataType = row.1).map Prod.snd := by
      intro n
      unfold TypeInfoMetadataQuery.execute
      dsimp only
      split
      · rename_i hnone
        have hlength : ((TypeInfoMetadataQuery.allRows.filter fun row =>
            dataType = 0 ∨ dataType = row.1).map Prod.snd).length = 0 := by omega
        exact (List.length_eq_zero_iff.mp hlength).symm
      · rfl
    cases h
    exact (hrows 0).trans (hrows stored).symm
  | null => cases h
  | onDemandData _ _ => cases h
  | onDemandObject _ => cases h
  | dataCount q => exact hother rfl h
  | lookup q => exact hother rfl h
  | lookupColumns q => exact hother rfl h
  | tableMetadata _ _ _ _ => exact hother rfl h
  | columnMetadata _ _ => exact hother rfl h
  | specialColumns _ _ _ _ => exact hother rfl h
  | statistics => exact hother rfl h
  | primaryKeys _ => exact hother rfl h

/-- An execution of a bulk query adds the rows that it produces. -/
theorem execute_bulk {conn : Connection} {q : Query} {out : Executed} {dt : DataTranslator}
    {columns : List Column} {rows : BulkRows} (hq : q.WellFormed)
    (hrs : q.mResultSet = some ⟨dt, columns, .bulk rows⟩) (h : q.execute conn = .ok out) :
    out.query.pendingRows =
        ((rows.addRows (bulkRows conn q.kind)).pendingRows.map fun row => .ok (.bulk row)) ∧
      q.produced conn = (bulkRows conn q.kind).map fun row => .ok (.bulk row) := by
  have htype : q.kind.resultSetType = some .bulk := by
    rw [WellFormed, hrs] at hq
    exact hq.symm
  constructor
  · unfold execute at h
    split at h
    · rename_i hkind
      rw [hkind] at htype
      cases htype
    · rename_i hkind
      rw [hkind] at htype
      cases htype
    · rename_i hkind
      rw [hkind] at htype
      cases htype
    · simp only [hrs] at h
      cases hexecution : bulkExecution conn rows.mResults.length q.kind with
      | none =>
        exfalso
        revert hexecution htype
        cases q.kind <;> simp [bulkExecution, QueryKind.resultSetType]
      | some execution =>
        rw [hexecution] at h
        obtain ⟨done, hdone, rfl⟩ := map_eq_ok.mp h
        rw [bulkRows_eq (hdone ▸ hexecution)]
        rfl
  · unfold produced
    split
    · rename_i hkind
      rw [hkind] at htype
      cases htype
    · rename_i hkind
      rw [hkind] at htype
      cases htype
    · rfl

theorem bulk_startsAfresh_iff {conn : Connection} {q : Query} {out : Executed}
    {dt : DataTranslator} {columns : List Column} {rows : BulkRows} (hq : q.WellFormed)
    (hrs : q.mResultSet = some ⟨dt, columns, .bulk rows⟩) (h : q.execute conn = .ok out) :
    out.query.pendingRows = q.produced conn ↔ q.StartsAfresh conn := by
  obtain ⟨hpending, hproduced⟩ := execute_bulk hq hrs h
  have hinjective : Function.Injective fun row : List Str =>
      (.ok (.bulk row) : Except Exn RowData) := by
    intro row row' heq
    exact RowData.bulk.inj (Except.ok.inj heq)
  rw [hpending, hproduced, (List.map_injective_iff.mpr hinjective).eq_iff, StartsAfresh, hrs]
  dsimp only
  by_cases hrows : bulkRows conn q.kind = []
  · rw [if_pos hrows, hrows]
    rfl
  · rw [if_neg hrows]
    exact rows.addRows_pendingRows_iff hrows

/-- An on-demand query that gets no answer keeps its rows, and one that does delivers it. -/
theorem executeOnDemand_pendingRows {α : Type} {q : Query} {rs : ResultSet} {answer : Except Exn α}
    {store : α → RowSource} {out : Executed} (hrs : q.mResultSet = some rs)
    (h : q.executeOnDemand answer store = .ok out) :
    (∃ e, answer = .error e ∧ out.query = q) ∨
      ∃ results, answer = .ok results ∧ out.query.pendingRows = (store results).pendingRows := by
  unfold executeOnDemand at h
  cases answer with
  | error e =>
    cases h
    exact .inl ⟨e, rfl, rfl⟩
  | ok results =>
    simp only [hrs] at h
    cases h
    exact .inr ⟨results, rfl, rfl⟩

/-- **An execution leaves exactly the rows that it produces where it starts afresh.** -/
theorem startsAfresh_iff {conn : Connection} {q : Query} {out : Executed} (hq : q.WellFormed)
    (hkind : q.kind ≠ .null) (h : q.execute conn = .ok out) :
    out.query.pendingRows = q.produced conn ↔ q.StartsAfresh conn := by
  obtain ⟨⟨dt, columns, rows⟩, hrs⟩ := hq.exists_resultSet hkind
  have hunanswered : ¬ q.Answered conn → q.produced conn = [] → out.query = q →
      (out.query.pendingRows = q.produced conn ↔ q.Answered conn ∨ q.pendingRows = []) := by
    intro hnot hproduced hkept
    rw [hproduced, hkept]
    exact ⟨.inr, fun h => h.resolve_left hnot⟩
  have hanswered : q.Answered conn → out.query.pendingRows = q.produced conn →
      (out.query.pendingRows = q.produced conn ↔ q.Answered conn ∨ q.pendingRows = []) :=
    fun hanswered heq => ⟨fun _ => .inl hanswered, fun _ => heq⟩
  have htype : some rows.type = q.kind.resultSetType := by
    rw [WellFormed, hrs] at hq
    exact hq
  cases rows with
  | bulk rows => exact bulk_startsAfresh_iff hq hrs h
  | onDemand results =>
    rw [StartsAfresh, hrs]
    cases hquery : q.kind with
    | onDemandData useCompactFormat dmqlQuery =>
      simp only [execute, hquery] at h
      simp only [Answered, produced, hquery] at hunanswered hanswered ⊢
      split at h
      · rename_i hsearches
        obtain ⟨answer, hanswer, h⟩ := bind_eq_ok.mp h
        simp only [hsearches, hanswer, if_true] at hunanswered hanswered ⊢
        obtain ⟨e, rfl, hkept⟩ | ⟨results', rfl, hpending⟩ := executeOnDemand_pendingRows hrs h
        · exact hunanswered (by simp) rfl hkept
        · exact hanswered ⟨trivial, results', rfl⟩ hpending
      · rename_i hsearches
        cases h
        simp only [hsearches] at hunanswered ⊢
        exact hunanswered (by simp) rfl trivial
    | _ =>
      rw [hquery] at htype
      cases htype
  | onDemandObject response map =>
    rw [StartsAfresh, hrs]
    cases hquery : q.kind with
    | onDemandObject objectQuery =>
      simp only [execute, hquery] at h
      simp only [Answered, produced, hquery] at hunanswered hanswered ⊢
      obtain ⟨answer, hanswer, h⟩ := bind_eq_ok.mp h
      simp only [hanswer] at hunanswered hanswered ⊢
      obtain ⟨e, rfl, hkept⟩ | ⟨results', rfl, hpending⟩ := executeOnDemand_pendingRows hrs h
      · exact hunanswered (by simp) rfl hkept
      · exact hanswered ⟨results', rfl⟩ hpending
    | _ =>
      rw [hquery] at htype
      cases htype

end Query

/-! ## Fetches and executions of a statement -/

namespace RetsSTMT

/-- The rows that the statement will still deliver. -/
def pendingRows (stmt : RetsSTMT) : List (Except Exn RowData) := stmt.mQuery.pendingRows

/-- What a fetch answers for the next row: it moves to it and hands it out or fails, it fails as
the row does, or there is no more data. -/
def FetchAnswers (stmt : RetsSTMT) (returned : Returned) : Option (Except Exn RowData) → Prop
  | some (.ok row) => (∃ rs rs', stmt.mQuery.mResultSet = some rs ∧ rs.MovesTo row rs' ∧
      returned.stmt.mQuery.mResultSet = some rs') ∧
      (returned.result = .success ∨ returned.result = .error)
  | some (.error e) => returned.result = (odbcEntry [] (.error e)).1
  | none => returned.result = .noData

variable {ctx : CallContext} {stmt stmt' : RetsSTMT} {rs : ResultSet}

theorem pendingRows_of_some (hrs : stmt.mQuery.mResultSet = some rs) :
    stmt.pendingRows = rs.rows.pendingRows := by
  simp only [pendingRows, Query.pendingRows, hrs]

/-- How `SQLFetch` ends on the next row: it has moved to it, it throws as the row does, or it finds
no more data. -/
def FetchEnds (stmt : RetsSTMT) (out : StmtOut) : Option (Except Exn RowData) → Prop
  | some (.ok row) => (∃ rs rs', stmt.mQuery.mResultSet = some rs ∧ rs.MovesTo row rs' ∧
      out.stmt.mQuery.mResultSet = some rs') ∧
      (out.result = .ok .success ∨ out.result = .ok .error ∨ out.result = .error .unknown)
  | some (.error e) => out.result = .error e
  | none => out.result = .ok .noData

/-- **One `SQLFetch`** takes the first of the pending rows. -/
theorem sqlFetch_pending (ctx : CallContext) (hrs : stmt.mQuery.mResultSet = some rs) :
    ∃ out, stmt.sqlFetch ctx = .ok out ∧ FetchEnds stmt out stmt.pendingRows.head? ∧
      out.stmt.pendingRows = stmt.pendingRows.tail ∧
      ∃ rs', out.stmt.mQuery.mResultSet = some rs' := by
  rw [pendingRows_of_some hrs]
  cases hpending : rs.rows.pendingRows with
  | nil =>
    obtain ⟨hnext, hrest⟩ := RowSource.hasNext_of_nil hpending
    cases hempty : rs.rows.isEmpty with
    | true =>
      have hfetch : stmt.sqlFetch ctx = .ok (stmt.clearErrors.returns .noData) := by
        have hrs' : stmt.clearErrors.resultSet = .ok rs := (resultSet_eq_ok _).mpr hrs
        simp only [sqlFetch, hrs', bind, Except.bind, hempty]
        rfl
      refine ⟨_, hfetch, rfl, ?_, rs, hrs⟩
      exact (pendingRows_of_some hrs).trans hpending
    | false =>
      have hfetch := sqlFetch_of_hasNext ctx hrs hempty
      rw [hnext] at hfetch
      exact ⟨_, hfetch, rfl, hrest, _, rfl⟩
  | cons event rest =>
    have hempty := RowSource.isEmpty_of_ne_nil (by rw [hpending]; simp)
    cases event with
    | error e =>
      obtain ⟨hnext, hrest⟩ := RowSource.hasNext_of_error hpending
      have hfetch := sqlFetch_of_hasNext ctx hrs hempty
      rw [hnext] at hfetch
      exact ⟨_, hfetch, rfl, hrest, _, rfl⟩
    | ok row =>
      obtain ⟨hnext, rows', hadvance, hrest⟩ := RowSource.hasNext_of_row hpending
      have hmove : rs.MovesTo row { rs with rows := rows' } :=
        ⟨hempty, _, rows', Prod.ext hnext rfl, hadvance, rfl⟩
      obtain ⟨out, hout, hquery, hends⟩ := sqlFetch_of_movesTo ctx hrs hmove
      have hrs' := congrArg Query.mResultSet hquery
      have hresult : out.result = .ok .success ∨ out.result = .ok .error ∨
          out.result = .error .unknown := by
        rcases hends with hfetched | ⟨e, -, herror⟩
        · exact .inl hfetched.success
        · exact .inr herror
      refine ⟨out, hout, ⟨⟨rs, _, hrs, hmove, hrs'⟩, hresult⟩, ?_, _, hrs'⟩
      exact (pendingRows_of_some hrs').trans hrest

/-- **One fetch** takes the first of the pending rows. -/
theorem fetch_answers (ctx : CallContext) (hrs : stmt.mQuery.mResultSet = some rs) :
    ∃ returned, stmt.call ctx .fetch = .ok returned ∧
      FetchAnswers stmt returned stmt.pendingRows.head? ∧
      returned.stmt.pendingRows = stmt.pendingRows.tail ∧
      ∃ rs', returned.stmt.mQuery.mResultSet = some rs' := by
  obtain ⟨out, hout, hends, hrest, hset⟩ := sqlFetch_pending ctx hrs
  refine ⟨_, call_fetch hout, ?_, hrest, hset⟩
  rcases hhead : stmt.pendingRows.head? with _ | e | row
  · rw [hhead] at hends
    have hresult : out.result = .ok .noData := hends
    show (odbcEntry out.stmt.mErrors out.result).1 = .noData
    rw [hresult]
    rfl
  · rw [hhead] at hends
    have hresult : out.result = .error e := hends
    show (odbcEntry out.stmt.mErrors out.result).1 = (odbcEntry [] (.error e)).1
    rw [hresult]
    exact odbcEntry_fst _ _ _
  · rw [hhead] at hends
    refine ⟨hends.1, ?_⟩
    show (odbcEntry out.stmt.mErrors out.result).1 = .success ∨
      (odbcEntry out.stmt.mErrors out.result).1 = .error
    rcases hends.2 with hresult | hresult | hresult
    · rw [hresult]
      exact .inl rfl
    · rw [hresult]
      exact .inr rfl
    · rw [hresult]
      exact .inr rfl

/-! ## Sequences of executions and fetches -/

/-- **Every execution starts afresh**: of the fetches after an execution and before the next one,
the `k`-th answers the `k`-th of the rows which that execution produced, or that there is no more
data when they are exhausted. -/
def RestartsAfresh (calls : List (CallContext × StmtCall)) (stmt : RetsSTMT) : Prop :=
  ∀ before ctx fetches ctxF after stmt₁ stmt₂ stmt₃,
    calls = before ++ (ctx, .execute) :: (fetches ++ (ctxF, .fetch) :: after) →
    (∀ p ∈ fetches, p.2 = .fetch) → run before stmt = .ok stmt₁ →
    step (ctx, .execute) stmt₁ = .ok stmt₂ → run fetches stmt₂ = .ok stmt₃ →
    ∃ returned, stmt₃.call ctxF .fetch = .ok returned ∧
      FetchAnswers stmt₃ returned (stmt₁.mQuery.produced ctx.conn)[fetches.length]?

/-- The call, if it executes the query, finds nothing of the earlier executions left. -/
def ExecutesAfresh (p : CallContext × StmtCall) (stmt : RetsSTMT) : Prop :=
  p.2 = .execute → stmt.mQuery.StartsAfresh p.1.conn

/-- Fetches take the pending rows one after the other. -/
theorem run_fetches {fetches : List (CallContext × StmtCall)}
    (hfetches : ∀ p ∈ fetches, p.2 = .fetch) (hrs : stmt.mQuery.mResultSet = some rs)
    (hrun : run fetches stmt = .ok stmt') :
    stmt'.pendingRows = stmt.pendingRows.drop fetches.length ∧
      ∃ rs', stmt'.mQuery.mResultSet = some rs' := by
  induction fetches generalizing stmt rs with
  | nil =>
    cases hrun
    exact ⟨rfl, rs, hrs⟩
  | cons p fetches ih =>
    obtain ⟨t, ht, hrest⟩ := bind_eq_ok.mp hrun
    obtain ⟨ctx, call⟩ := p
    have hp : call = .fetch := hfetches (ctx, call) (by simp)
    subst hp
    obtain ⟨returned, hcall, rfl⟩ := map_eq_ok.mp ht
    obtain ⟨returned', hcall', -, htail, rs', hrs'⟩ := fetch_answers ctx hrs
    rw [hcall] at hcall'
    cases hcall'
    obtain ⟨hdrop, hsome⟩ := ih (fun p hp => hfetches p (by simp [hp])) hrs' hrest
    refine ⟨?_, hsome⟩
    rw [hdrop, htail, List.drop_tail, List.length_cons]

/-- **One execution** that starts afresh leaves the rows that it produces. -/
theorem execute_pendingRows (hq : stmt.mQuery.WellFormed) (hkind : stmt.mQuery.kind ≠ .null)
    (hafresh : stmt.mQuery.StartsAfresh ctx.conn)
    (h : step (ctx, .execute) stmt = .ok stmt') :
    stmt'.pendingRows = stmt.mQuery.produced ctx.conn := by
  obtain ⟨returned, hcall, rfl⟩ := map_eq_ok.mp h
  obtain ⟨out, hout, rfl⟩ := map_eq_ok.mp hcall
  obtain ⟨done, hdone, rfl⟩ := map_eq_ok.mp hout
  have hquery : (stmt.clearErrors.executed done executeError).stmt.mQuery = done.query :=
    executed_mQuery _ _ _
  have hpending := (Query.startsAfresh_iff hq hkind hdone).mpr hafresh
  refine Eq.trans ?_ hpending
  exact congrArg Query.pendingRows hquery

/-- Executions and fetches install no query. -/
theorem step_keeps_kind {p : CallContext × StmtCall} (hp : p.2 = .execute ∨ p.2 = .fetch)
    (hs : stmt.mQuery.WellFormed ∧ stmt.mQuery.kind ≠ .null) (h : step p stmt = .ok stmt') :
    stmt'.mQuery.WellFormed ∧ stmt'.mQuery.kind ≠ .null := by
  obtain ⟨returned, hcall, rfl⟩ := map_eq_ok.mp h
  have hstep := call_step hs.1 hcall
  refine ⟨hstep.wellFormed hs.1, ?_⟩
  rcases hstep.kind_cases with hkind | ⟨hinstalls, -⟩
  · rw [hkind]
    exact hs.2
  · rcases hp with hp | hp
    · rw [hp] at hinstalls
      cases hinstalls
    · rw [hp] at hinstalls
      cases hinstalls

/-- **Re-execution.**  From any reachable statement that holds a query, a run of executions and
fetches whose executions find nothing left of the earlier ones fetches exactly what each of them
produces. -/
theorem restartsAfresh_of_meets {prior calls : List (CallContext × StmtCall)}
    (hprior : run prior new = .ok stmt) (hkind : stmt.mQuery.kind ≠ .null)
    (hcalls : ∀ p ∈ calls, p.2 = .execute ∨ p.2 = .fetch)
    (h : Meets step ExecutesAfresh calls stmt) : RestartsAfresh calls stmt := by
  intro before ctx fetches ctxF after stmt₁ stmt₂ stmt₃ heq hfetches hbefore hexecute hrun
  subst heq
  have hwf : stmt.mQuery.WellFormed := run_wellFormed Query.wellFormed_new hprior
  have hs₁ : stmt₁.mQuery.WellFormed ∧ stmt₁.mQuery.kind ≠ .null := by
    refine h.of_append.invariant (I := fun s => s.mQuery.WellFormed ∧ s.mQuery.kind ≠ .null) ?_
      ⟨hwf, hkind⟩ hbefore
    intro p hp s s' _ hs hstep
    exact step_keeps_kind (hcalls p (List.mem_append_left _ hp)) hs hstep
  have hs₂ := step_keeps_kind (.inl rfl) hs₁ hexecute
  obtain ⟨rs₂, hrs₂⟩ := hs₂.1.exists_resultSet hs₂.2
  have hafresh : stmt₁.mQuery.StartsAfresh ctx.conn := (h.append hbefore).1 rfl
  have hproduced := execute_pendingRows hs₁.1 hs₁.2 hafresh hexecute
  obtain ⟨hdrop, rs₃, hrs₃⟩ := run_fetches hfetches hrs₂ hrun
  obtain ⟨returned, hcall, hanswer, -⟩ := fetch_answers ctxF hrs₃
  refine ⟨returned, hcall, ?_⟩
  rwa [hdrop, hproduced, List.head?_drop] at hanswer

/-- A connection whose server counts `n` listings, whatever the statement. -/
def countContext (n : Int) : CallContext where
  conn :=
    { mDataSource := DataSource.init
      getMetadataView := some MetadataView.sharedNameView
      getRetsSession := some ⟨[], fun _ => .ok ⟨n, fun _ => .ok [], []⟩, fun _ => .ok []⟩
      sqlToDmql := fun _ => .ok (.dmql ⟨"Property".toList, "RES".toList, none,
        some "(ListPrice=1+)".toList, 0, 0, true⟩) }
  deref := fun _ => 0
  descriptor := fun _ => 0

/-- The text of the statement. -/
def countText : SqlText := ⟨some "select count(*) from data:Property:RES".toList, sqlNts⟩

/-- Counting, fetching and counting again gives the two counts. -/
theorem restartsAfresh_count :
    ∃ stmt, run [(countContext 5, .prepare countText)] new = .ok stmt ∧
      RestartsAfresh [(countContext 5, .execute), (countContext 5, .fetch),
        (countContext 7, .execute), (countContext 7, .fetch), (countContext 7, .fetch)] stmt := by
  have hprior : run [(countContext 5, .prepare countText)] new = .ok _ := rfl
  refine ⟨_, hprior, restartsAfresh_of_meets hprior (by decide) (by simp) ?_⟩
  refine ⟨fun _ => ?_, fun s hs => ⟨fun h => (by cases h), fun s' hs' => ⟨fun _ => ?_,
    fun _ _ => ⟨fun h => (by cases h), fun _ _ => ⟨fun h => (by cases h), fun _ _ => trivial⟩⟩⟩⟩⟩
  · exact (rfl : (0 : Nat) = 0)
  · cases hs
    cases hs'
    exact (rfl : (1 : Nat) = 1)

/-- Counting twice without a fetch gives the first count once more. -/
theorem not_restartsAfresh_count :
    ¬ ∀ prior calls stmt, run prior new = .ok stmt → stmt.mQuery.kind ≠ .null →
      (∀ p ∈ calls, p.2 = .execute ∨ p.2 = .fetch) → RestartsAfresh calls stmt := by
  intro h
  have hprior : run [(countContext 5, .prepare countText)] new = .ok _ := rfl
  obtain ⟨returned, -, ⟨rs, rs', hrs, ⟨-, rows, rows', hnext, hadvance, -⟩, -⟩, -⟩ :=
    h _ [(countContext 5, .execute), (countContext 7, .execute), (countContext 7, .fetch)] _ hprior
      (by decide) (by simp) [(countContext 5, .execute)] (countContext 7) [] (countContext 7) [] _ _
      _ rfl (by simp) rfl rfl rfl
  cases hrs
  cases hnext
  cases hadvance

end RetsSTMT

end EzRets
