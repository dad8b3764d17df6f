import EzRets.GetData

/-!
# EzRets.StreamedReads — sequences of `SQLGetData` on one row

Between two fetches an application may read the columns of the row in any order and in portions of
any size.  Every run of consecutive reads of one column then delivers its value once and in order,
as long as the row descriptor moves no address.
-/

namespace EzRets

open FaultRun Chunks

namespace RetsSTMT

/-- A call of `SQLGetData` with its context. -/
structure ReadCall where
  ctx : CallContext
  columnNumber : Nat
  b : Binding

def ReadCall.toCall (g : ReadCall) : CallContext × StmtCall := (g.ctx, .getData g.columnNumber g.b)

/-- The answers to a sequence of reads. -/
def reads : List ReadCall → RetsSTMT → Except Fault (List (Binding × Returned))
  | [], _ => .ok []
  | g :: gs, stmt => do
    let returned ← stmt.call g.ctx (.getData g.columnNumber g.b)
    let rest ← reads gs returned.stmt
    return (g.b, returned) :: rest

/-- What a read has delivered: the bytes of its buffer, as many as it has room for and as the
indicator reports. -/
def delivered (a : Binding × Returned) : List (Option Char) :=
  match lenAfter a.2.writes a.1.strLenOrInd with
  | some n => bufferAfter a.2.writes a.1.targetValue (min a.1.capacity n.toNat)
  | none => []

/-- **The streaming law** for the answers to consecutive reads of a column with the value `v`.
With `got` the bytes of the reads before: the bytes delivered so far are a prefix of the value, the
indicator reports what was left, the return code says whether something is left now, and after the
end there is no more data.  The offset never passes the end of the value. -/
def StreamLaw (v : Str) (answers : List (Binding × Returned)) : Prop :=
  ∀ before b returned after, answers = before ++ (b, returned) :: after →
    let got := before.flatMap delivered
    (got ++ delivered (b, returned)) <+: v.map some ∧
    returned.stmt.mDataStreamInfo.offset ≤ v.length ∧
    (got.length < v.length →
      lenAfter returned.writes b.strLenOrInd = some (v.length - got.length : Int) ∧
      returned.result = if (got ++ delivered (b, returned)).length < v.length
        then .successWithInfo else .success) ∧
    (got.length = v.length → returned.result = .noData)

/-- On the row of `rs` all sequences of reads stream: after any reads that end with another column,
the reads `gs` of a column with a non-empty value obey the law. -/
def StreamsWhole (rs : ResultSet) (stmt : RetsSTMT) : Prop :=
  ∀ pre gs c v, (∀ g ∈ pre ++ gs, g.b.IsRead) →
    (∀ g, pre.getLast? = some g → g.columnNumber ≠ c) → (∀ g ∈ gs, g.columnNumber = c) →
    rs.value c = some v → v ≠ [] → v.length < 2 ^ 31 →
    ∃ stmt' answers, run (pre.map ReadCall.toCall) stmt = .ok stmt' ∧
      reads gs stmt' = .ok answers ∧ StreamLaw v answers

/-! ## One read of a column -/

/-- The next read of column `c` starts at the offset `off`. -/
structure StreamAt (stmt : RetsSTMT) (c : Nat) (v : Str) (off : Nat) : Prop where
  offset : (stmt.streamFor c).offset = off
  status : (stmt.streamFor c).status = .noMoreData ↔ off = v.length
  le : off ≤ v.length

/-- What a read says about the offsets before and after it. -/
structure ReadStep (v : Str) (off : Nat) (a : Binding × Returned) (off' : Nat) : Prop where
  le : off ≤ v.length
  le' : off' ≤ v.length
  delivered : (v.map some).take off ++ delivered a = (v.map some).take off'
  offset : a.2.stmt.mDataStreamInfo.offset ≤ v.length
  more : off < v.length → lenAfter a.2.writes a.1.strLenOrInd = some (v.length - off : Int) ∧
    a.2.result = if off' < v.length then .successWithInfo else .success
  done : off = v.length → a.2.result = .noData

variable {stmt : RetsSTMT} {rs : ResultSet} {row : RowData} {c : Nat} {v : Str} {off : Nat}

theorem streamAt_of_ne (h : stmt.mDataStreamInfo.column ≠ c) (hv : v ≠ []) :
    StreamAt stmt c v 0 := by
  have hstream := streamFor_of_ne h
  have hpos := List.length_pos_of_ne_nil hv
  refine ⟨by rw [hstream]; rfl, ?_, by omega⟩
  rw [hstream]
  constructor
  · intro hstatus
    cases hstatus
  · intro hlength
    omega

/-- The entry wrapper passes on what a function returns without an exception. -/
theorem call_getData {ctx : CallContext} {b : Binding} {out : StmtOut}
    (h : stmt.sqlGetData ctx c b = .ok out) :
    ∃ returned, stmt.call ctx (.getData c b) = .ok returned ∧
      returned.stmt.mQuery = out.stmt.mQuery ∧ returned.stmt.ard = out.stmt.ard ∧
      returned.stmt.mDataStreamInfo = out.stmt.mDataStreamInfo ∧ returned.writes = out.writes ∧
      ∀ result, out.result = .ok result → returned.result = result := by
  refine ⟨_, by rw [call, uncaught, h]; rfl, rfl, rfl, rfl, rfl, fun result hresult => ?_⟩
  dsimp only
  rw [hresult]
  rfl

/-- Where a read of column `c` stores. -/
def readTarget (ctx : CallContext) (stmt : RetsSTMT) (c : Nat) (b : Binding) : Target :=
  Column.adjustTarget ctx.deref stmt.ard (c - 1) b (some (stmt.streamFor c))

/-- **A read that is not at the end** stores what its worker stores, keeps the stream that the worker
leaves, and its code says how the translation has ended. -/
theorem call_getData_serves {ctx : CallContext} {b : Binding} {w : TranslationWorker}
    (hrs : stmt.mQuery.mResultSet = some rs) (hv : rs.value c = some v)
    (hw : rs.readWorker c b.targetType = some w)
    (hstatus : (stmt.streamFor c).status ≠ .noMoreData) :
    ∃ returned served, stmt.call ctx (.getData c b) = .ok returned ∧
      DataTranslator.Serves served (w.translate v (stmt.readTarget ctx c b)) ∧
      returned.stmt.mQuery = stmt.mQuery ∧ returned.stmt.ard = stmt.ard ∧
      returned.writes = served.writes ∧
      returned.stmt.mDataStreamInfo = served.streamInfo.getD (stmt.streamFor c) ∧
      returned.result =
        (odbcEntry [] (readResult served returned.stmt.mDataStreamInfo)).1 := by
  obtain ⟨served, hget, hserves⟩ :=
    ResultSet.getData_serves hv hw ctx.deref stmt.ard (stmt.streamFor c)
  obtain ⟨out, hout, hq, hard, hwrites, hstream, hresult⟩ :=
    sqlGetData_of_getData hrs hstatus hget
  refine ⟨entered out, served, call_of_uncaught rfl hout, hserves, hq, hard, hwrites, hstream, ?_⟩
  show (odbcEntry _ out.result).1 = _
  rw [hresult, ← hstream]
  exact odbcEntry_fst _ _ _

/-- Both workers deliver the next elements, at the addresses of the call. -/
theorem portion_of_isRead (dt : DataTranslator) {b : Binding} {info : DataStreamInfo}
    (hne : v ≠ []) (h31 : v.length < 2 ^ 31) (hb : b.IsRead) (hle : info.offset ≤ v.length) :
    Portion v info.offset b.capacity ⟨b.targetValue, b.bufferLength, b.strLenOrInd, some info⟩ info
      (dt.translate v b.targetType
        ⟨b.targetValue, b.bufferLength, b.strLenOrInd, some info⟩) := by
  generalize ht : (⟨b.targetValue, b.bufferLength, b.strLenOrInd, some info⟩ : Target) = t
  obtain ⟨htarget, hlength, hind, hinfo⟩ : t.target = b.targetValue ∧
      t.targetLen = b.bufferLength ∧ t.resultSize = b.strLenOrInd ∧ t.streamInfo = some info := by
    rw [← ht]
    exact ⟨rfl, rfl, rfl, rfl⟩
  have htarget0 : t.target ≠ 0 := htarget ▸ hb.target
  have hind0 : t.resultSize ≠ 0 := hind ▸ hb.indicator
  have hlt : t.targetLen < 2 ^ 31 := hlength ▸ hb.lt
  rcases hb.text with h | h
  · rw [dt.translate_character h, Binding.capacity, if_pos h, ← hlength]
    exact portion_character hne hinfo hle htarget0 hind0 hlt
  · rw [dt.translate_binary h, Binding.capacity, if_neg h.not_isCharacter, ← hlength]
    have hnonneg : 0 ≤ t.targetLen := hlength ▸ hb.nonneg
    exact portion_binary hne hinfo hle h31 htarget0 hind0 hnonneg hlt

/-- A portion is what the application finds delivered. -/
theorem delivered_of_portion {b : Binding} {info : DataStreamInfo} {translated : Translated}
    {returned : Returned} (hlt : off < v.length)
    (h : Portion v off b.capacity ⟨b.targetValue, b.bufferLength, b.strLenOrInd, some info⟩ info
      translated) (hwrites : returned.writes = translated.writes) :
    delivered (b, returned) = (chunk v off b.capacity).map some := by
  have hind : lenAfter returned.writes b.strLenOrInd = some (v.length - off : Int) := by
    rw [hwrites]
    exact h.indicator
  have hroom : min b.capacity (v.length - off : Int).toNat = (chunk v off b.capacity).length := by
    rw [length_chunk]
    omega
  simp only [delivered, hind]
  rw [hroom, hwrites]
  exact bufferAfter_eq_map_some h.buffer

/-- **One portion**: a read of a column whose value has something left. -/
theorem readStep_portion {g : ReadCall} (hrs : stmt.mQuery.mResultSet = some rs)
    (hv : rs.value c = some v) (hne : v ≠ []) (h31 : v.length < 2 ^ 31)
    (hptr : stmt.ard.getDataPtr (c - 1 : Nat) = 0) (hg : g.b.IsRead) (hat : StreamAt stmt c v off)
    (hlt : off < v.length) :
    ∃ returned off', stmt.call g.ctx (.getData c g.b) = .ok returned ∧
      returned.stmt.mQuery = stmt.mQuery ∧ returned.stmt.ard = stmt.ard ∧
      StreamAt returned.stmt c v off' ∧ ReadStep v off (g.b, returned) off' := by
  have hstatus : (stmt.streamFor c).status ≠ .noMoreData := by
    intro hdone
    have hend := hat.status.mp hdone
    omega
  have htarget : Column.adjustTarget g.ctx.deref stmt.ard (c - 1) g.b (some (stmt.streamFor c)) =
      ⟨g.b.targetValue, g.b.bufferLength, g.b.strLenOrInd, some (stmt.streamFor c)⟩ := by
    simp only [Column.adjustTarget, hptr, adjustDescPointer_zero,
      toSqlInteger_of_lt hg.nonneg hg.lt, Option.isNone_some, Bool.false_eq_true, if_false]
  have hget : rs.getData g.ctx.deref stmt.ard c g.b (stmt.streamFor c) = _ :=
    ResultSet.getData_of_value hv hg.text
  rw [htarget] at hget
  obtain ⟨out, hout, hq, hard, hwrites, hstream, hresult⟩ :=
    sqlGetData_of_getData hrs hstatus hget
  obtain ⟨returned, hcall, hq', hard', hstream', hwrites', hresult'⟩ := call_getData hout
  have hle : (stmt.streamFor c).offset ≤ v.length := by
    rw [hat.offset]
    exact hat.le
  have hportion := portion_of_isRead rs.mTranslator hne h31 hg hle
  rw [hat.offset] at hportion
  -- the stream afterwards
  have hinfo : returned.stmt.mDataStreamInfo =
      (stmt.streamFor c).advance (chunk v off g.b.capacity).length v.length := by
    rw [hstream', hstream, hportion.streamInfo]
    rfl
  have hcolumn : returned.stmt.mDataStreamInfo.column = c := by
    rw [hinfo]
    exact streamFor_column stmt c
  have hlength := length_chunk v off g.b.capacity
  have hoffset : returned.stmt.mDataStreamInfo.offset =
      off + (chunk v off g.b.capacity).length := by
    rw [hinfo, ← hat.offset]
    rfl
  have hend : returned.stmt.mDataStreamInfo.status =
      if off + (chunk v off g.b.capacity).length ≥ v.length then .noMoreData
      else .hasMoreData := by
    rw [hinfo, ← hat.offset]
    rfl
  refine ⟨returned, off + (chunk v off g.b.capacity).length, hcall, hq'.trans hq,
    hard'.trans hard, ⟨?_, ?_, by omega⟩, ⟨hat.le, by omega, ?_, ?_, fun _ => ⟨?_, ?_⟩,
      fun heq => by omega⟩⟩
  · rw [streamFor_of_eq hcolumn, hoffset]
  · rw [streamFor_of_eq hcolumn, hend]
    constructor
    · intro hdone
      split at hdone
      · omega
      · cases hdone
    · intro heq
      rw [if_pos (by omega)]
  · rw [delivered_of_portion hlt hportion (hwrites'.trans hwrites), ← List.map_take,
      ← List.map_take, ← List.map_append, take_append_chunk]
  · dsimp only
    omega
  · rw [hwrites', hwrites]
    exact hportion.indicator
  · have hcode := hresult' _ (hresult.trans (readResult_of_none hportion.thrown _))
    rw [← hstream, ← hstream', hend] at hcode
    rw [hcode]
    by_cases hmore : off + (chunk v off g.b.capacity).length < v.length
    · rw [if_neg (Nat.not_le.mpr hmore), if_pos rfl, if_pos hmore]
    · rw [if_pos (Nat.not_lt.mp hmore), if_neg (by decide), if_neg hmore]

/-- **After the end**: a read of a column that has been delivered. -/
theorem readStep_done {g : ReadCall} (hrs : stmt.mQuery.mResultSet = some rs)
    (hat : StreamAt stmt c v off) (hend : off = v.length) :
    ∃ returned, stmt.call g.ctx (.getData c g.b) = .ok returned ∧
      returned.stmt.mQuery = stmt.mQuery ∧ returned.stmt.ard = stmt.ard ∧
      StreamAt returned.stmt c v off ∧ ReadStep v off (g.b, returned) off := by
  have hstatus := hat.status.mpr hend
  obtain ⟨returned, hcall, hq, hard, hstream, hwrites, hresult⟩ :=
    call_getData (sqlGetData_noData g.ctx g.b hrs hstatus)
  have hcolumn : returned.stmt.mDataStreamInfo.column = c := by
    rw [hstream]
    exact streamFor_column stmt c
  have hsame : returned.stmt.streamFor c = stmt.streamFor c := by
    rw [streamFor_of_eq hcolumn, hstream]
    rfl
  have hdelivered : delivered (g.b, returned) = [] := by
    simp only [delivered, hwrites]
    rfl
  refine ⟨returned, hcall, hq, hard, ⟨?_, ?_, hat.le⟩, ⟨hat.le, hat.le, ?_, ?_, fun hlt => by omega,
    fun _ => hresult _ rfl⟩⟩
  · rw [hsame]
    exact hat.offset
  · rw [hsame]
    exact hat.status
  · rw [hdelivered, List.append_nil]
  · dsimp only
    rw [hstream]
    exact hat.offset.le.trans hat.le

/-! ## Sequences of reads -/

/-- **Any reads on a row** leave the row where it is, and the stream at the column read last. -/
theorem run_reads {gs : List ReadCall} (hrs : stmt.mQuery.mResultSet = some rs)
    (hcurrent : rs.rows.current = .ok row) (hgs : ∀ g ∈ gs, g.b.IsRead) :
    ∃ stmt', run (gs.map ReadCall.toCall) stmt = .ok stmt' ∧ stmt'.mQuery = stmt.mQuery ∧
      stmt'.ard = stmt.ard ∧ (gs = [] → stmt' = stmt) ∧
      ∀ g, gs.getLast? = some g → stmt'.mDataStreamInfo.column = g.columnNumber := by
  induction gs using List.reverseRecOn with
  | nil => exact ⟨stmt, rfl, rfl, rfl, fun _ => rfl, fun g hg => (by cases hg)⟩
  | append_singleton gs g ih =>
    obtain ⟨stmt₁, hrun, hq, hard, -, -⟩ := ih fun g' hg' => hgs g' (by simp [hg'])
    have hrs₁ : stmt₁.mQuery.mResultSet = some rs := hq ▸ hrs
    have hg : g.b.IsRead := hgs g (by simp)
    obtain ⟨out, hout, hq₂, hard₂, hcolumn⟩ :=
      sqlGetData_column (c := g.columnNumber) (b := g.b) hrs₁ hcurrent hg.text
    obtain ⟨returned, hcall, hq', hard', hstream, -, -⟩ := call_getData hout
    refine ⟨returned.stmt, ?_, (hq'.trans hq₂).trans hq, (hard'.trans hard₂).trans hard, ?_, ?_⟩
    · rw [List.map_append]
      refine (run_append_ok hrun).trans ?_
      have hstep : step g.toCall stmt₁ = .ok returned.stmt := by
        unfold step
        rw [ReadCall.toCall, hcall]
        rfl
      rw [List.map_cons, List.map_nil, FaultRun.run, hstep]
      rfl
    · intro hnil
      simp at hnil
    · intro g' hlast
      rw [List.getLast?_concat, Option.some.injEq] at hlast
      rw [hstream, hcolumn, hlast]

/-- **Consecutive reads of a column** are a transcript of its value. -/
theorem reads_transcript {gs : List ReadCall} (hrs : stmt.mQuery.mResultSet = some rs)
    (hv : rs.value c = some v) (hne : v ≠ []) (h31 : v.length < 2 ^ 31)
    (hptr : stmt.ard.getDataPtr (c - 1 : Nat) = 0) (hgs : ∀ g ∈ gs, g.b.IsRead)
    (hc : ∀ g ∈ gs, g.columnNumber = c) (hat : StreamAt stmt c v off) :
    ∃ answers, reads gs stmt = .ok answers ∧ Transcript (ReadStep v) off answers := by
  induction gs generalizing stmt off with
  | nil => exact ⟨[], rfl, .nil⟩
  | cons g gs ih =>
    have hg : g.b.IsRead := hgs g (by simp)
    have hstep : ∃ returned off', stmt.call g.ctx (.getData c g.b) = .ok returned ∧
        returned.stmt.mQuery = stmt.mQuery ∧ returned.stmt.ard = stmt.ard ∧
        StreamAt returned.stmt c v off' ∧ ReadStep v off (g.b, returned) off' := by
      by_cases hend : off = v.length
      · obtain ⟨returned, hreturned⟩ := readStep_done (g := g) hrs hat hend
        exact ⟨returned, off, hreturned⟩
      · have hle := hat.le
        exact readStep_portion hrs hv hne h31 hptr hg hat (by omega)
    obtain ⟨returned, off', hcall, hq, hard, hat', hread⟩ := hstep
    obtain ⟨answers, hanswers, htranscript⟩ := ih (hq ▸ hrs) (hard ▸ hptr)
      (fun g' hg' => hgs g' (by simp [hg'])) (fun g' hg' => hc g' (by simp [hg'])) hat'
    refine ⟨(g.b, returned) :: answers, ?_, .cons hread htranscript⟩
    have hcolumn : g.columnNumber = c := hc g (by simp)
    simp only [reads, hcolumn, hcall, bind, Except.bind, hanswers]
    rfl

/-- A transcript from the beginning obeys the law. -/
theorem streamLaw_of_transcript {answers : List (Binding × Returned)}
    (h : Transcript (ReadStep v) 0 answers) : StreamLaw v answers := by
  intro before b returned after hanswers
  subst hanswers
  obtain ⟨off₁, off₂, hgot, hstep⟩ :=
    h.delivered (v := v.map some) fun _ _ _ hread => hread.delivered
  rw [List.take_zero, List.nil_append] at hgot
  have hdelivered := hstep.delivered
  rw [← hgot] at hdelivered
  have hle := hstep.le
  have hle' := hstep.le'
  have hlength : (before.flatMap delivered).length = off₁ := by
    rw [hgot, List.length_take, List.length_map]
    omega
  have hlength' : (before.flatMap delivered ++ delivered (b, returned)).length = off₂ := by
    rw [hdelivered, List.length_take, List.length_map]
    omega
  refine ⟨?_, hstep.offset, fun hlt => ?_, fun heq => ?_⟩
  · rw [hdelivered]
    exact List.take_prefix off₂ _
  · rw [hlength, hlength']
    exact hstep.more (by omega)
  · exact hstep.done (by omega)

/-! ## Exactly without data pointers -/

/-- A data pointer of the row descriptor moves the indicator away from the call's own. -/
theorem getDataPtr_eq_zero_of_streams (hrs : stmt.mQuery.mResultSet = some rs)
    (hreset : stmt.mDataStreamInfo = .reset) (h : StreamsWhole rs stmt) (hv : rs.value c = some v)
    (hne : v ≠ []) (h31 : v.length < 2 ^ 31) : stmt.ard.getDataPtr (c - 1 : Nat) = 0 := by
  by_contra hptr
  have hb : (⟨sqlChar, 1, 2, 1⟩ : Binding).IsRead :=
    ⟨.inl (.inl rfl), by decide, by decide, by decide, by decide⟩
  obtain ⟨stmt', answers, hrun, hreads, hlaw⟩ :=
    h [] [⟨{ idleContext with deref := fun _ => 1 }, c, ⟨sqlChar, 1, 2, 1⟩⟩] c v
      (by simpa using hb) (fun g hg => (by cases hg)) (by simp) hv hne h31
  cases hrun
  obtain ⟨returned, hcall, hrest⟩ := bind_eq_ok.mp hreads
  cases hrest
  have hpos := List.length_pos_of_ne_nil hne
  obtain ⟨hind, -⟩ := (hlaw [] _ returned [] rfl).2.2.1 hpos
  -- the stores of the call
  have hc : c ≠ 0 := by
    obtain ⟨column, -, -, hcolumn, -⟩ := ResultSet.value_eq_some hv
    exact (ResultSet.getColumn_eq_some hcolumn).1
  have hcolumn : stmt.mDataStreamInfo.column ≠ c := by
    rw [hreset]
    exact fun h0 => hc h0.symm
  have hstatus : (stmt.streamFor c).status ≠ .noMoreData := by
    rw [streamFor_of_ne hcolumn]
    simp [DataStreamInfo.reset]
  obtain ⟨out, hout, -, -, hwrites, -, -⟩ := sqlGetData_of_getData hrs hstatus
    (ResultSet.getData_of_value hv hb.text)
  obtain ⟨returned', hcall', -, -, -, hwrites', -⟩ := call_getData hout
  rw [hcall] at hcall'
  cases hcall'
  have hmoved : (1 : Nat) ≠ (Column.adjustTarget (fun _ => 1) stmt.ard (c - 1) ⟨sqlChar, 1, 2, 1⟩
      (some (stmt.streamFor c))).resultSize := by
    simp only [Column.adjustTarget, Option.isNone_some, Bool.false_eq_true, if_false,
      adjustDescPointer_zero]
    rw [adjustDescPointer, if_pos hptr]
    decide
  rw [hwrites', hwrites, lenAfter_eq_none (lenAt_translate _ hb.text rfl hmoved)] at hind
  cases hind

/-- **On the row of a successful fetch all reads stream exactly when no data pointer is set** for a
column that has a value to deliver. -/
theorem streamsWhole_iff {ctx : CallContext} {out : StmtOut}
    (hfetch : stmt.sqlFetch ctx = .ok out) (hsuccess : out.result = .ok .success)
    (hrs : out.stmt.mQuery.mResultSet = some rs) :
    StreamsWhole rs out.stmt ↔ ∀ c v, rs.value c = some v → v ≠ [] → v.length < 2 ^ 31 →
      out.stmt.ard.getDataPtr (c - 1 : Nat) = 0 := by
  obtain ⟨rs₀, row, rs', -, hmove, hfetched⟩ := sqlFetch_success hfetch hsuccess
  have hrs' : some rs' = some rs := by
    rw [← hrs, hfetched.mQuery]
  cases hrs'
  constructor
  · intro h c v hv hne h31
    exact getDataPtr_eq_zero_of_streams hrs hfetched.mDataStreamInfo h hv hne h31
  · intro hptr pre gs c v hreads hlast hgs hv hne h31
    have hpre : ∀ g ∈ pre, g.b.IsRead := fun g hg => hreads g (List.mem_append_left gs hg)
    obtain ⟨stmt', hrun, hq, hard, hnil, hcolumn⟩ := run_reads hrs hmove.current hpre
    have hc : c ≠ 0 := by
      obtain ⟨column, -, -, hcolumn, -⟩ := ResultSet.value_eq_some hv
      exact (ResultSet.getColumn_eq_some hcolumn).1
    have hother : stmt'.mDataStreamInfo.column ≠ c := by
      cases hlast' : pre.getLast? with
      | none =>
        rw [hnil (List.getLast?_eq_none_iff.mp hlast'), hfetched.mDataStreamInfo]
        exact fun h0 => hc h0.symm
      | some g =>
        rw [hcolumn g hlast']
        exact hlast g hlast'
    obtain ⟨answers, hanswers, htranscript⟩ := reads_transcript (hq ▸ hrs) hv hne h31
      (hard ▸ hptr c v hv hne h31) (fun g hg => hreads g (List.mem_append_right pre hg)) hgs
      (streamAt_of_ne hother hne)
    exact ⟨stmt', answers, hrun, hanswers, streamLaw_of_transcript htranscript⟩

/-- A fetched count streams. -/
theorem streamsWhole_count :
    ∃ out, (countStatement nameBinding "123456".toList).sqlFetch idleContext = .ok out ∧
      StreamsWhole (countResult nameBinding (countFetched "123456".toList)) out.stmt := by
  have hfetch : (countStatement nameBinding "123456".toList).sqlFetch idleContext = .ok _ := rfl
  exact ⟨_, hfetch, (streamsWhole_iff hfetch rfl rfl).mpr fun _ _ _ _ _ => rfl⟩

/-- After `SQLSetDescField` has set the data pointer of record 1 it does not. -/
theorem not_streamsWhole_dataPtr :
    ¬ ∀ ctx stmt out rs, sqlFetch ctx stmt = .ok out → out.result = .ok .success →
      out.stmt.mQuery.mResultSet = some rs → StreamsWhole rs out.stmt := by
  intro h
  have hstreams := h idleContext ((countStatement nameBinding "123456".toList).sqlSetDescField .ard
    1 sqlDescDataPtr 500).stmt _ _ rfl rfl rfl
  have hptr := getDataPtr_eq_zero_of_streams (c := 1) (v := "123456".toList) rfl rfl hstreams rfl
    (by decide) (by decide)
  exact absurd hptr (by decide)

end RetsSTMT

end EzRets
