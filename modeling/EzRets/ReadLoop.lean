import EzRets.FetchLoop
import EzRets.StreamedReads

/-!
# EzRets.ReadLoop — fetching rows and reading their columns

An application that binds no buffer for a long value fetches a row and then calls `SQLGetData` until
there is no more data.  Round after round it receives the rows that the execution has produced:
the bound columns in their buffers, and of every column that it reads the whole value.
-/

namespace EzRets

open FaultRun Chunks

/-- `v` is the decoded value that the row has for column `c`. -/
def ResultSet.RowText (rs : ResultSet) (row : RowData) (c : Nat) (v : Str) : Prop :=
  ∃ column data, rs.getColumn c = some column ∧ row.text column.mName (c - 1) = .ok data ∧
    column.modifyData data = v

theorem ResultSet.value_of_rowText {rs : ResultSet} {row : RowData} {c : Nat} {v : Str}
    (hcurrent : rs.rows.current = .ok row) (h : rs.RowText row c v) : rs.value c = some v := by
  obtain ⟨column, data, hcolumn, htext, rfl⟩ := h
  simp only [ResultSet.value, hcolumn, hcurrent, htext]

namespace RetsSTMT

/-! ## Rounds -/

/-- A fetch, and the reads that follow when it succeeds. -/
structure Round where
  ctx : CallContext
  reads : List ReadCall

/-- The answers of a round: the fetch, as the application sees it, and the reads. -/
abbrev RoundAnswer := (SqlReturn × List Write) × List (Binding × Returned)

/-- The loop of the application. -/
def readLoop : List Round → RetsSTMT → Except Fault (List RoundAnswer)
  | [], _ => .ok []
  | round :: rounds, stmt => do
    let fetched ← answer (round.ctx, .fetch) stmt
    let gs := if fetched.2.1 = .success then round.reads else []
    let answers ← reads gs fetched.1
    let left ← run (gs.map ReadCall.toCall) fetched.1
    let later ← readLoop rounds left
    return (fetched.2, answers) :: later

/-- The answers to consecutive reads of a column with the value `v`: they obey the law of streaming,
and once there is no more data they have delivered the value. -/
structure ReadsWhole (v : Str) (answers : List (Binding × Returned)) : Prop where
  law : StreamLaw v answers
  whole : ∀ a ∈ answers, a.2.result = .noData → answers.flatMap delivered = v.map some

/-- What the loop gets from a round: the row in the bound buffers, and of every column that is read
its value; or that there is no row. -/
def RoundDelivers (stmt : RetsSTMT) (rs : ResultSet) (row : Option RowData) (round : Round)
    (answers : RoundAnswer) : Prop :=
  LoopAnswer round.ctx stmt rs row answers.1 ∧
    ∀ row', row = some row' → ∀ pre gs post c v, round.reads = pre ++ gs ++ post →
      (∀ g, pre.getLast? = some g → g.columnNumber ≠ c) → (∀ g ∈ gs, g.columnNumber = c) →
      rs.RowText row' c v → v ≠ [] → v.length < 2 ^ 31 →
      ∃ before got after, answers.2 = before ++ got ++ after ∧ before.length = pre.length ∧
        got.length = gs.length ∧ ReadsWhole v got

variable {ctx : CallContext} {stmt stmt' : RetsSTMT} {rs : ResultSet} {row : RowData} {c : Nat}
  {v : Str}

/-! ## The reads of a round -/

/-- Reads are answered as long as they can be made. -/
theorem reads_of_run {gs : List ReadCall} (h : run (gs.map ReadCall.toCall) stmt = .ok stmt') :
    ∃ answers, reads gs stmt = .ok answers ∧ answers.length = gs.length := by
  induction gs generalizing stmt with
  | nil => exact ⟨[], rfl, rfl⟩
  | cons g gs ih =>
    obtain ⟨stmt₁, hstep, hrest⟩ := bind_eq_ok.mp h
    obtain ⟨returned, hcall, rfl⟩ := map_eq_ok.mp hstep
    have hcall' : stmt.call g.ctx (.getData g.columnNumber g.b) = .ok returned := hcall
    obtain ⟨answers, hanswers, hlength⟩ := ih hrest
    refine ⟨(g.b, returned) :: answers, ?_, congrArg Nat.succ hlength⟩
    simp only [reads, hcall', bind, Except.bind, hanswers]
    rfl

theorem reads_append {gs gs' : List ReadCall} {answers answers' : List (Binding × Returned)}
    (h : reads gs stmt = .ok answers) (hrun : run (gs.map ReadCall.toCall) stmt = .ok stmt')
    (h' : reads gs' stmt' = .ok answers') : reads (gs ++ gs') stmt = .ok (answers ++ answers') := by
  induction gs generalizing stmt answers with
  | nil =>
    cases h
    cases hrun
    exact h'
  | cons g gs ih =>
    obtain ⟨returned, hcall, h⟩ := bind_eq_ok.mp h
    obtain ⟨rest, hrest, h⟩ := bind_eq_ok.mp h
    obtain rfl := Except.ok.inj h
    obtain ⟨stmt₁, hstep, hrun⟩ := bind_eq_ok.mp hrun
    obtain ⟨returned', hcall', rfl⟩ := map_eq_ok.mp hstep
    obtain rfl : returned = returned' := Except.ok.inj (hcall.symm.trans hcall')
    have hlater := ih hrest hrun
    simp only [List.cons_append, reads, hcall, bind, Except.bind, hlater]
    rfl

/-- What has been delivered is a prefix of the value. -/
theorem StreamLaw.flatMap_prefix {answers : List (Binding × Returned)} (h : StreamLaw v answers) :
    answers.flatMap delivered <+: v.map some := by
  rcases List.eq_nil_or_concat answers with rfl | ⟨before, ⟨b, returned⟩, rfl⟩
  · exact List.nil_prefix
  · have hlast := (h before b returned [] (by simp)).1
    rwa [List.concat_eq_append, List.flatMap_append, List.flatMap_singleton]

/-- Reads that have come to the end have delivered the value. -/
theorem StreamLaw.readsWhole {answers : List (Binding × Returned)} (h : StreamLaw v answers) :
    ReadsWhole v answers := by
  refine ⟨h, fun a ha hdone => ?_⟩
  obtain ⟨before, after, rfl⟩ := List.append_of_mem ha
  obtain ⟨-, -, hmore, -⟩ := h before a.1 a.2 after rfl
  have hend : v.length ≤ (before.flatMap delivered).length := by
    by_contra hlt
    have hresult := (hmore (by omega)).2
    rw [hdone] at hresult
    split_ifs at hresult
  have hlength : (v.map some).length ≤ ((before ++ a :: after).flatMap delivered).length := by
    rw [List.flatMap_append, List.length_append, List.length_map]
    omega
  exact h.flatMap_prefix.eq_of_length_le hlength

/-- **The reads of a round.**  After a fetch any reads are answered, and consecutive reads of a
column deliver its value. -/
theorem reads_of_fetched {gs : List ReadCall} (hrs : stmt.mQuery.mResultSet = some rs)
    (hcurrent : rs.rows.current = .ok row) (hreset : stmt.mDataStreamInfo = .reset)
    (hgs : ∀ g ∈ gs, g.b.IsRead)
    (hptr : ∀ g ∈ gs, stmt.ard.getDataPtr (g.columnNumber - 1 : Nat) = 0) :
    ∃ answers left, reads gs stmt = .ok answers ∧
      run (gs.map ReadCall.toCall) stmt = .ok left ∧ left.mQuery = stmt.mQuery ∧
      left.ard = stmt.ard ∧ ∀ pre mid post c v, gs = pre ++ mid ++ post →
        (∀ g, pre.getLast? = some g → g.columnNumber ≠ c) → (∀ g ∈ mid, g.columnNumber = c) →
        rs.value c = some v → v ≠ [] → v.length < 2 ^ 31 →
        ∃ before got after, answers = before ++ got ++ after ∧ before.length = pre.length ∧
          got.length = mid.length ∧ ReadsWhole v got := by
  obtain ⟨left, hrun, hq, hard, -, -⟩ := run_reads hrs hcurrent hgs
  obtain ⟨answers, hanswers, -⟩ := reads_of_run hrun
  refine ⟨answers, left, hanswers, hrun, hq, hard, ?_⟩
  rintro pre mid post c v rfl hlast hmid hv hne h31
  have hread : ∀ {gs : List ReadCall}, (∀ g ∈ gs, g ∈ pre ++ mid ++ post) →
      ∀ g ∈ gs, g.b.IsRead := fun hsub g hg => hgs g (hsub g hg)
  obtain ⟨stmt₁, hrun₁, hq₁, hard₁, hnil, hcolumn⟩ := run_reads hrs hcurrent
    (hread fun g hg => List.mem_append_left _ (List.mem_append_left _ hg))
  have hrs₁ : stmt₁.mQuery.mResultSet = some rs := hq₁ ▸ hrs
  obtain ⟨stmt₂, hrun₂, hq₂, -, -, -⟩ := run_reads hrs₁ hcurrent
    (hread fun g hg => List.mem_append_left _ (List.mem_append_right _ hg))
  obtain ⟨stmt₃, hrun₃, -, -, -, -⟩ :=
    run_reads (hq₂ ▸ hrs₁) hcurrent (hread fun g hg => List.mem_append_right _ hg)
  obtain ⟨before, hbefore, hlength⟩ := reads_of_run hrun₁
  obtain ⟨got, hgot, hlength'⟩ := reads_of_run hrun₂
  obtain ⟨after, hafter, -⟩ := reads_of_run hrun₃
  have hfront : run ((pre ++ mid).map ReadCall.toCall) stmt = .ok stmt₂ := by
    rw [List.map_append]
    exact (run_append_ok hrun₁).trans hrun₂
  have hall := reads_append (reads_append hbefore hrun₁ hgot) hfront hafter
  refine ⟨before, got, after, Except.ok.inj (hanswers.symm.trans hall), hlength, hlength', ?_⟩
  -- the reads before have left the stream at another column
  rcases mid with _ | ⟨g, mid⟩
  · obtain rfl := List.length_eq_zero_iff.mp hlength'
    refine StreamLaw.readsWhole fun before b returned after h => ?_
    simp at h
  · have hc : g.columnNumber = c := hmid g List.mem_cons_self
    have hptr₁ : stmt₁.ard.getDataPtr (c - 1 : Nat) = 0 := by
      rw [hard₁, ← hc]
      exact hptr g (by simp)
    have hpos : c ≠ 0 := by
      obtain ⟨column, -, -, hcolumn, -⟩ := ResultSet.value_eq_some hv
      exact (ResultSet.getColumn_eq_some hcolumn).1
    have hother : stmt₁.mDataStreamInfo.column ≠ c := by
      rcases hlast' : pre.getLast? with _ | g'
      · rw [hnil (List.getLast?_eq_none_iff.mp hlast'), hreset]
        exact fun h0 => hpos h0.symm
      · rw [hcolumn g' hlast']
        exact hlast g' hlast'
    obtain ⟨got', hgot', htranscript⟩ := reads_transcript hrs₁ hv hne h31 hptr₁
      (hread fun g' hg' => List.mem_append_left _ (List.mem_append_right _ hg')) hmid
      (streamAt_of_ne hother hne)
    obtain rfl := Except.ok.inj (hgot.symm.trans hgot')
    exact (streamLaw_of_transcript htranscript).readsWhole

/-! ## The loop -/

/-- The calls of a round that are answered by a row of the statement. -/
structure Round.Proper (round : Round) (stmt : RetsSTMT) (rs : ResultSet) : Prop where
  buffers : RowBuffers round.ctx stmt rs
  isRead : ∀ g ∈ round.reads, g.b.IsRead
  dataPtr : ∀ g ∈ round.reads, stmt.ard.getDataPtr (g.columnNumber - 1 : Nat) = 0

theorem Round.Proper.of_ard {round : Round} {rows : RowSource} (h : round.Proper stmt rs)
    (hard : stmt'.ard = stmt.ard) : round.Proper stmt' { rs with rows := rows } :=
  ⟨h.buffers.of_ard hard, h.isRead, hard ▸ h.dataPtr⟩

theorem RoundDelivers.of_ard {rows : RowSource} {row : Option RowData} {round : Round}
    {answers : RoundAnswer} (h : RoundDelivers stmt' { rs with rows := rows } row round answers)
    (hard : stmt'.ard = stmt.ard) : RoundDelivers stmt rs row round answers :=
  ⟨h.1.of_ard hard, h.2⟩

/-- After the last row every round says so, and nothing is read. -/
theorem readLoop_exhausted (rounds : List Round) (hrs : stmt.mQuery.mResultSet = some rs)
    (hpending : stmt.pendingRows = []) :
    ∃ answers, readLoop rounds stmt = .ok answers ∧ answers.length = rounds.length ∧
      ∀ a ∈ answers, a.1.1 = .noData := by
  induction rounds generalizing stmt rs with
  | nil => exact ⟨[], rfl, rfl, by simp⟩
  | cons round rounds ih =>
    obtain ⟨returned, hcall, hanswer, htail, rs', hrs'⟩ := fetch_answers round.ctx hrs
    rw [hpending] at hanswer htail
    obtain ⟨answers, hlater, hlength, hnone⟩ := ih hrs' htail
    have hfetched : answer (round.ctx, .fetch) stmt =
        .ok (returned.stmt, (returned.result, returned.writes)) := by
      rw [answer, hcall]
      rfl
    have hcode : returned.result = .noData := hanswer
    have hidle : ¬ returned.result = .success := by
      rw [hcode]
      decide
    refine ⟨((returned.result, returned.writes), []) :: answers, ?_, by simp [hlength],
      List.forall_mem_cons.mpr ⟨hcode, hnone⟩⟩
    have hstay : run [] returned.stmt = .ok returned.stmt := rfl
    simp only [readLoop, hfetched, bind, Except.bind, if_neg hidle, reads, List.map_nil, hstay,
      hlater]
    rfl

/-- **The loop.**  Round after round the pending rows are delivered, and then there is no more
data. -/
theorem readLoop_rows (rounds : List Round) {rows : List RowData}
    (hrs : stmt.mQuery.mResultSet = some rs) (hpending : stmt.pendingRows = rows.map .ok)
    (hproper : ∀ round ∈ rounds, round.Proper stmt rs)
    (hroom : ∀ row ∈ rows, rs.RowHasRoom row) :
    ∃ answers, readLoop rounds stmt = .ok answers ∧ answers.length = rounds.length ∧
      ∀ (i : Nat) round a, rounds[i]? = some round → answers[i]? = some a →
        RoundDelivers stmt rs rows[i]? round a := by
  induction rounds generalizing stmt rs rows with
  | nil => exact ⟨[], rfl, rfl, by simp⟩
  | cons round rounds ih =>
    cases rows with
    | nil =>
      obtain ⟨answers, hanswers, hlength, hnone⟩ :=
        readLoop_exhausted (round :: rounds) hrs hpending
      refine ⟨answers, hanswers, hlength, fun i round' a _ hi => ⟨?_, fun row' hrow => ?_⟩⟩
      · exact hnone a (List.mem_of_getElem? hi)
      · cases hrow
    | cons row rows =>
      have hsource : rs.rows.pendingRows = .ok row :: rows.map .ok :=
        (pendingRows_of_some hrs).symm.trans hpending
      obtain ⟨hnext, rows', hadvance, hrest⟩ := RowSource.hasNext_of_row hsource
      have hempty := RowSource.isEmpty_of_ne_nil (by rw [hsource]; simp)
      have hmove : rs.MovesTo row { rs with rows := rows' } :=
        ⟨hempty, _, rows', Prod.ext hnext rfl, hadvance, rfl⟩
      have hround := hproper round List.mem_cons_self
      obtain ⟨stmt₁, first, hfetched, hdelivered, hard, hrs₁, hreset⟩ :=
        answer_fetch_of_movesTo hrs hmove hround.buffers (hroom row List.mem_cons_self)
      obtain ⟨got, left, hreads, hrun, hq, hard', hwhole⟩ := reads_of_fetched hrs₁ hmove.current
        hreset hround.isRead (hard ▸ hround.dataPtr)
      have hrs₂ : left.mQuery.mResultSet = some { rs with rows := rows' } := hq ▸ hrs₁
      have hkept : left.ard = stmt.ard := hard'.trans hard
      have hroom' : ∀ row' ∈ rows, ({ rs with rows := rows' } : ResultSet).RowHasRoom row' := by
        intro row' h
        have hrow := hroom row' (List.mem_cons_of_mem _ h)
        exact ⟨hrow.readable, hrow.fits, hrow.lt⟩
      obtain ⟨answers, hanswers, hlength, hlater⟩ :=
        ih hrs₂ ((pendingRows_of_some hrs₂).trans hrest)
          (fun round' h => (hproper round' (List.mem_cons_of_mem _ h)).of_ard hkept) hroom'
      refine ⟨(first, got) :: answers, ?_, by simp [hlength], fun i round' a hround' ha => ?_⟩
      · simp only [readLoop, hfetched, bind, Except.bind, if_pos hdelivered.success, hreads, hrun,
          hanswers]
        rfl
      · cases i with
        | zero =>
          obtain rfl := Option.some.inj hround'
          obtain rfl := Option.some.inj ha
          refine ⟨hdelivered, fun row' hrow pre mid post c v hsplit hlast hmid hv hne h31 => ?_⟩
          obtain rfl := Option.some.inj hrow
          have hvalue := ResultSet.value_of_rowText hmove.current hv
          exact hwhole pre mid post c v hsplit hlast hmid hvalue hne h31
        | succ i =>
          have hloop := hlater i round' a hround' ha
          rw [List.getElem?_cons_succ]
          exact hloop.of_ard hkept

/-- **The loop of an application that reads.**  A statement that has executed a query afresh and
bound some of its text columns delivers, round after round, every row that the execution has
produced: each bound value whole in its buffer, and each column that is read, in portions of any
size, whole when there is no more data of it; and then no more rows. -/
theorem readLoop_delivers_produced {prior binds : List (CallContext × StmtCall)}
    {stmt₁ stmt₂ : RetsSTMT} {rows : List RowData} (rounds : List Round)
    (hprior : run prior new = .ok stmt) (hkind : stmt.mQuery.kind ≠ .null)
    (hafresh : stmt.mQuery.StartsAfresh ctx.conn)
    (hexecute : step (ctx, .execute) stmt = .ok stmt₁)
    (hbinds : ∀ p ∈ binds, ∃ n b, p.2 = .bindCol n b) (hrun : run binds stmt₁ = .ok stmt₂)
    (hrs : stmt₂.mQuery.mResultSet = some rs)
    (hrows : stmt.mQuery.produced ctx.conn = rows.map .ok)
    (hproper : ∀ round ∈ rounds, round.Proper stmt₂ rs)
    (hroom : ∀ row ∈ rows, rs.RowHasRoom row) :
    ∃ answers, readLoop rounds stmt₂ = .ok answers ∧ answers.length = rounds.length ∧
      ∀ (i : Nat) round a, rounds[i]? = some round → answers[i]? = some a →
        RoundDelivers stmt₂ rs rows[i]? round a := by
  have hwf : stmt.mQuery.WellFormed := run_wellFormed Query.wellFormed_new hprior
  have hpending₁ := execute_pendingRows hwf hkind hafresh hexecute
  have hpending₂ := run_binds_pendingRows hbinds hrun
  exact readLoop_rows rounds hrs (hpending₂.trans (hpending₁.trans hrows)) hproper hroom

/-! ### A count in portions -/

/-- A buffer for three characters. -/
def portion : ReadCall := ⟨idleContext, 1, ⟨sqlChar, 300, 4, 400⟩⟩

/-- The count is read three characters at a time; the second round finds no row. -/
def countRounds : List Round :=
  [⟨countContext 123456, [portion, portion, portion]⟩, ⟨countContext 123456, []⟩]

/-- A count is executed, bound and read. -/
theorem readLoop_delivers_count : ∃ stmt₁ stmt₂ answers,
    step (countContext 123456, .execute) countPrepared = .ok stmt₁ ∧
    run [(countContext 123456, .bindCol 1 nameBinding)] stmt₁ = .ok stmt₂ ∧
    readLoop countRounds stmt₂ = .ok answers ∧ answers.length = 2 ∧
    ∀ (i : Nat) round a, countRounds[i]? = some round → answers[i]? = some a →
      RoundDelivers stmt₂ (countResult nameBinding (countAdded "123456".toList))
        ([RowData.bulk ["123456".toList]][i]?) round a := by
  have hprior : run [(countContext 123456, .prepare countText)] new =
      .ok countPrepared := rfl
  have hafresh : countPrepared.mQuery.StartsAfresh (countContext 123456).conn :=
    (rfl : (0 : Nat) = 0)
  have hbinds : ∀ p ∈ [(countContext 123456, StmtCall.bindCol 1 nameBinding)],
      ∃ n b, p.2 = .bindCol n b := by
    intro p hp
    obtain rfl := List.mem_singleton.mp hp
    exact ⟨1, nameBinding, rfl⟩
  have hroom : ∀ row ∈ [RowData.bulk ["123456".toList]],
      (countResult nameBinding (countAdded "123456".toList)).RowHasRoom row := by
    intro row hrow
    obtain rfl := List.mem_singleton.mp hrow
    exact rowHasRoom_count (by decide)
  have hportion : portion.b.IsRead :=
    ⟨.inl (.inl rfl), by decide, by decide, by decide, by decide⟩
  have hproper : ∀ round ∈ countRounds, ∀ stmt, stmt.ard = new.ard → round.Proper stmt
      (countResult nameBinding (countAdded "123456".toList)) := by
    intro round hround stmt hard
    have hreads : ∀ g ∈ round.reads, g = portion := by
      simp only [countRounds, List.mem_cons, List.not_mem_nil, or_false] at hround
      rcases hround with rfl | rfl <;> simp
    refine ⟨rowBuffers_count hard, fun g hg => ?_, fun g hg => ?_⟩
    · exact hreads g hg ▸ hportion
    · rw [hreads g hg, hard]
      rfl
  obtain ⟨answers, hanswers, hlength, hdelivers⟩ := readLoop_delivers_produced countRounds hprior
    (by decide) hafresh rfl hbinds rfl rfl rfl (fun round hround => hproper round hround _ rfl)
    hroom
  exact ⟨_, _, answers, rfl, rfl, hanswers, hlength, hdelivers⟩

end RetsSTMT

end EzRets
