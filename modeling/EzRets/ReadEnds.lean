import EzRets.ChunkTermination

/-!
# EzRets.ReadEnds — when reading a column comes to an end

`SQLGetData` answers `SQL_NO_DATA` on the word of the stream status alone, and the status is advanced
by the two streaming workers only, and only where there is a value.  After any other conversion a
further read of the same column converts the value once more.
-/

namespace EzRets

open FaultRun

/-! ## The workers and the stream -/

namespace TranslationWorker

/-- The workers that deliver a value in portions. -/
def streams : TranslationWorker → Bool
  | .character | .binary => true
  | _ => false

section Untouched

variable {data : Str} {t : Target}

theorem streamInfo_storeCast {α : Type} {value : Option α} {toValue : α → CValue} {size : Int} :
    (if isBlank data then t.null else t.storeCast value toValue size).streamInfo = t.streamInfo := by
  split_ifs
  · rfl
  · rcases value with _ | v <;> rfl

/-- **The other workers leave the stream as it is.** -/
theorem streamInfo_translate {w : TranslationWorker} (h : w.streams = false) :
    (w.translate data t).streamInfo = t.streamInfo := by
  rcases w
  case character => cases h
  case binary => cases h
  case smallInt => exact streamInfo_storeCast
  case int => exact streamInfo_storeCast
  case bigInt => exact streamInfo_storeCast
  case decimal => exact streamInfo_storeCast
  case double => exact streamInfo_storeCast
  case uLong => exact streamInfo_storeCast
  case uShort => exact streamInfo_storeCast
  case bit =>
    show (translateBit data t).streamInfo = _
    unfold translateBit
    split_ifs <;> rfl
  case tiny =>
    show (translateTiny data t).streamInfo = _
    unfold translateTiny
    split_ifs
    · rfl
    · split
      · rfl
      · split_ifs <;> rfl
  case date =>
    show (translateDate data t).streamInfo = _
    unfold translateDate
    split_ifs
    · rfl
    · split
      · rfl
      · dsimp only
        split_ifs <;> rfl
  case timestamp =>
    show (translateTimestamp data t).streamInfo = _
    unfold translateTimestamp
    split_ifs
    · rfl
    · split <;> rfl
  case time =>
    show (translateTime data t).streamInfo = _
    unfold translateTime
    split_ifs
    · rfl
    · split <;> rfl
  case numeric =>
    show (translateNumericOn .little data t).streamInfo = _
    unfold translateNumericOn
    extract_lets
    split
    · rfl
    · split
      · rfl
      · split <;> rfl

end Untouched

/-- A streaming worker only throws where the offset is behind the value. -/
theorem thrown_streams {w : TranslationWorker} {data : Str} {t : Target} (h : w.streams = true) :
    (w.translate data t).thrown = none ∨ (w.translate data t).thrown = some .outOfRange := by
  rcases w
  case character =>
    show (translateCharacter data t).thrown = none ∨ (translateCharacter data t).thrown = _
    unfold translateCharacter
    split
    · exact .inl rfl
    · split
      · exact .inl rfl
      · dsimp only
        split
        · split
          · exact .inr rfl
          · exact .inl rfl
        · exact .inl rfl
  case binary =>
    show (translateBinary data t).thrown = none ∨ (translateBinary data t).thrown = _
    unfold translateBinary
    split
    · exact .inl rfl
    · dsimp only
      split
      · exact .inr rfl
      · split <;> exact .inl rfl
  all_goals cases h

/-- A streaming worker that does not throw delivers some more of the value. -/
theorem streamInfo_streams {w : TranslationWorker} {data : Str} {t : Target} {info : DataStreamInfo}
    (h : w.streams = true) (hdata : data ≠ []) (ht : t.streamInfo = some info)
    (hthrown : (w.translate data t).thrown = none) :
    ∃ n, (w.translate data t).streamInfo = some (info.advance n data.length) ∧
      (t.target ≠ 0 → 2 ≤ t.targetLen → t.targetLen < 2 ^ 31 → info.offset < data.length →
        data.length < 2 ^ 63 → 0 < n) := by
  have hempty : data.isEmpty = false := by simpa using hdata
  have hchunk : ∀ {size offset : Nat} {chunk : Str}, copyFrom data size offset = some chunk →
      offset ≤ data.length ∧ chunk.length = min size (data.length - offset) := by
    intro size offset chunk hcopy
    unfold copyFrom at hcopy
    split_ifs at hcopy with hoffset
    obtain rfl := Option.some.inj hcopy
    exact ⟨hoffset, Chunks.length_chunk data offset size⟩
  rcases w
  case character =>
    have hout : TranslationWorker.character.translate data t = translateCharacter data t := rfl
    rw [hout] at hthrown ⊢
    unfold translateCharacter at hthrown ⊢
    rw [hempty, if_neg Bool.false_ne_true, ht] at hthrown ⊢
    dsimp only at hthrown ⊢
    by_cases hroom : t.target ≠ 0 ∧ t.targetLen - 1 > 0
    · rw [if_pos hroom] at hthrown ⊢
      rcases hcopy : copyFrom data (toSize (t.targetLen - 1)) info.offset with _ | chunk
      · rw [hcopy] at hthrown
        cases hthrown
      · obtain ⟨-, hlength⟩ := hchunk hcopy
        refine ⟨chunk.length, rfl, fun _ h2 h31 hoff _ => ?_⟩
        rw [hlength, toSize_of_lt (by omega) (by omega)]
        omega
    · rw [if_neg hroom]
      exact ⟨0, rfl, fun htarget h2 _ _ _ => absurd ⟨htarget, by omega⟩ hroom⟩
  case binary =>
    have hout : TranslationWorker.binary.translate data t = translateBinary data t := rfl
    rw [hout] at hthrown ⊢
    unfold translateBinary at hthrown ⊢
    rw [hempty, if_neg Bool.false_ne_true, ht] at hthrown ⊢
    dsimp only [Option.map_some, Option.getD_some] at hthrown ⊢
    by_cases htarget : t.target ≠ 0
    · rw [if_pos htarget] at hthrown ⊢
      rcases hcopy : copyFrom data (toSize t.targetLen) (toSize (toSqlInteger info.offset)) with
        _ | chunk
      · rw [hcopy] at hthrown
        cases hthrown
      · obtain ⟨hle, hlength⟩ := hchunk hcopy
        refine ⟨chunk.length, rfl, fun _ h2 h31 hoff h63 => ?_⟩
        rw [hlength, toSize_of_lt (by omega) (by omega)]
        -- the offset goes through an `SQLINTEGER`, but it does not come out at the end of the value
        have hne : toSize (toSqlInteger info.offset) ≠ data.length := by
          have hw : ((2 ^ 32 : Nat) : Int) = 4294967296 := by norm_num
          unfold toSize toSqlInteger
          rw [Int.bmod_def, hw]
          split_ifs <;> omega
        omega
    · rw [if_neg htarget]
      exact ⟨0, rfl, fun h => absurd h htarget⟩
  all_goals cases h

end TranslationWorker

/-- A buffer with room for a character and its terminator. -/
structure Binding.HasRoom (b : Binding) : Prop where
  target : b.targetValue ≠ 0
  two_le : 2 ≤ b.bufferLength
  lt : b.bufferLength < 2 ^ 31

namespace RetsSTMT

/-! ## Return codes -/

theorem readCode_success_iff {served : Translated} {info : DataStreamInfo} :
    (odbcEntry [] (readResult served info)).1 = .success ↔
      served.thrown = none ∧ info.status ≠ .hasMoreData := by
  unfold readResult
  rcases served.thrown with _ | e
  · show (if info.status = .hasMoreData then SqlReturn.successWithInfo else .success) = _ ↔ _
    split_ifs with hmore <;> simp [hmore]
  · refine iff_of_false (fun h => ?_) fun h => by cases h.1
    rcases e <;> cases h

/-- Where it fails in a streaming worker it is an error. -/
theorem readCode_of_thrown {served : Translated} {info : DataStreamInfo} {e : Exn}
    (h : served.thrown = some e) (he : ∀ what, e ≠ .missingTranslator what) :
    (odbcEntry [] (readResult served info)).1 = .error := by
  unfold readResult
  rw [h]
  rcases e
  case missingTranslator what => exact absurd rfl (he what)
  all_goals rfl

/-! ## Reading on -/

/-- Whatever happens to the statement, as long as the stream stays what it is and there is a result
set, the next read of column `c` answers `SQL_NO_DATA`. -/
def NextReadEnds (stmt : RetsSTMT) (c : Nat) : Prop :=
  ∀ stmt' : RetsSTMT, stmt'.mDataStreamInfo = stmt.mDataStreamInfo →
    stmt'.mQuery.mResultSet.isSome = true → ∀ ctx b,
      ∃ returned, stmt'.call ctx (.getData c b) = .ok returned ∧ returned.result = .noData

/-- A loop that repeats the read as long as it succeeds stops. -/
def LoopStops (stmt : RetsSTMT) (g : ReadCall) : Prop :=
  ∃ n answers, reads (List.replicate n g) stmt = .ok answers ∧
    ∃ a ∈ answers, a.2.result = .noData ∨ a.2.result = .error

variable {stmt : RetsSTMT} {rs : ResultSet} {c : Nat} {b : Binding} {v : Str} {ctx : CallContext}
  {w : TranslationWorker}

/-- A read at the end. -/
theorem call_getData_noData (ctx : CallContext) (b : Binding)
    (hrs : stmt.mQuery.mResultSet = some rs) (hstatus : (stmt.streamFor c).status = .noMoreData) :
    ∃ returned, stmt.call ctx (.getData c b) = .ok returned ∧ returned.result = .noData := by
  obtain ⟨returned, hcall, -, -, -, -, hresult⟩ :=
    call_getData (sqlGetData_noData ctx b hrs hstatus)
  exact ⟨returned, hcall, hresult _ rfl⟩

theorem nextReadEnds_of_status (hcolumn : stmt.mDataStreamInfo.column = c)
    (hstatus : stmt.mDataStreamInfo.status = .noMoreData) : NextReadEnds stmt c := by
  intro stmt' hinfo hsome ctx b
  obtain ⟨rs', hrs'⟩ := Option.isSome_iff_exists.mp hsome
  refine call_getData_noData ctx b hrs' ?_
  rw [streamFor_of_eq (by rw [hinfo]; exact hcolumn), hinfo]
  exact hstatus

/-- One step of the loop. -/
theorem LoopStops.of_next {g : ReadCall} {returned : Returned}
    (hcall : stmt.call g.ctx (.getData g.columnNumber g.b) = .ok returned)
    (h : returned.result = .noData ∨ returned.result = .error ∨ LoopStops returned.stmt g) :
    LoopStops stmt g := by
  have hreads : ∀ {n : Nat} {answers : List (Binding × Returned)},
      reads (List.replicate n g) returned.stmt = .ok answers →
      reads (List.replicate (n + 1) g) stmt = .ok ((g.b, returned) :: answers) := by
    intro n answers hanswers
    rw [List.replicate_succ]
    unfold reads
    rw [hcall]
    show (reads (List.replicate n g) returned.stmt >>= fun rest => _) = _
    rw [hanswers]
    rfl
  rw [← or_assoc] at h
  rcases h with hend | ⟨n, answers, hanswers, a, ha, hend⟩
  · exact ⟨1, _, hreads rfl, _, List.mem_cons_self, hend⟩
  · exact ⟨n + 1, _, hreads hanswers, a, List.mem_cons_of_mem _ ha, hend⟩

/-! ### Streamed values -/

/-- What a read of a streaming worker leaves: an error, or the stream after some more of the value. -/
theorem call_streams (ctx : CallContext) (hrs : stmt.mQuery.mResultSet = some rs)
    (hv : rs.value c = some v) (hne : v ≠ []) (hw : rs.readWorker c b.targetType = some w)
    (hstreams : w.streams = true) (hstatus : (stmt.streamFor c).status ≠ .noMoreData) :
    ∃ returned, stmt.call ctx (.getData c b) = .ok returned ∧ returned.stmt.mQuery = stmt.mQuery ∧
      (returned.result = .error ∨ ∃ n,
        returned.stmt.mDataStreamInfo = (stmt.streamFor c).advance n v.length ∧
        (b.HasRoom → (stmt.streamFor c).offset < v.length → v.length < 2 ^ 63 → 0 < n)) := by
  obtain ⟨returned, served, hcall, hserves, hq, -, -, hinfo, hresult⟩ :=
    @call_getData_serves stmt rs c v ctx b w hrs hv hw hstatus
  refine ⟨returned, hcall, hq, ?_⟩
  rcases hthrown : served.thrown with _ | e
  · right
    obtain ⟨n, hstream, hpos⟩ := TranslationWorker.streamInfo_streams hstreams hne rfl
      (hserves.thrown_eq_none_iff.mp hthrown)
    refine ⟨n, ?_, fun hb hoff h63 => ?_⟩
    · rw [hinfo, hserves.streamInfo, hstream]
      rfl
    · have h2 := hb.two_le
      have hlength : (stmt.readTarget ctx c b).targetLen = b.bufferLength :=
        toSqlInteger_of_lt (by omega) hb.lt
      exact hpos (adjustDescPointer_ne_zero (adjustDescPointer_ne_zero hb.target))
        (hlength ▸ h2) (hlength ▸ hb.lt) hoff h63
  · left
    rw [hresult]
    refine readCode_of_thrown hthrown fun what he => ?_
    rw [he] at hthrown
    have hworker := @TranslationWorker.thrown_streams w v (stmt.readTarget ctx c b)
      hstreams
    rcases hserves.thrown with h | ⟨h, what', hwhat⟩
    · rw [← h, hthrown] at hworker
      simp at hworker
    · rw [hthrown] at hwhat
      cases hwhat

/-- After a streamed read that succeeds there is no more data. -/
theorem nextReadEnds_of_streams {returned : Returned} (hrs : stmt.mQuery.mResultSet = some rs)
    (hv : rs.value c = some v) (hne : v ≠ []) (hw : rs.readWorker c b.targetType = some w)
    (hstreams : w.streams = true) (hcall : stmt.call ctx (.getData c b) = .ok returned)
    (hsuccess : returned.result = .success) : NextReadEnds returned.stmt c := by
  by_cases hstatus : (stmt.streamFor c).status = .noMoreData
  · obtain ⟨returned', hcall', hend⟩ := call_getData_noData ctx b hrs hstatus
    rw [hcall] at hcall'
    obtain rfl := Except.ok.inj hcall'
    rw [hsuccess] at hend
    cases hend
  obtain ⟨returned', served, hcall', hserves, -, -, -, hinfo, hresult⟩ :=
    @call_getData_serves stmt rs c v ctx b w hrs hv hw hstatus
  rw [hcall] at hcall'
  obtain rfl := Except.ok.inj hcall'
  rw [hresult, readCode_success_iff] at hsuccess
  obtain ⟨hthrown, hmore⟩ := hsuccess
  obtain ⟨n, hstream, -⟩ := TranslationWorker.streamInfo_streams hstreams hne rfl
    (hserves.thrown_eq_none_iff.mp hthrown)
  rw [hserves.streamInfo, hstream, Option.getD_some] at hinfo
  rw [hinfo] at hmore
  refine nextReadEnds_of_status ?_ ?_
  · rw [hinfo]
    exact streamFor_column stmt c
  · rw [hinfo]
    unfold DataStreamInfo.advance at hmore ⊢
    dsimp only at hmore ⊢
    split_ifs at hmore ⊢ with hend
    · rfl
    · exact absurd rfl hmore

/-- **A loop over a streamed value stops**: every portion brings it nearer to the end. -/
theorem loopStops_of_streams (hrs : stmt.mQuery.mResultSet = some rs) (hv : rs.value c = some v)
    (hne : v ≠ []) (hw : rs.readWorker c b.targetType = some w) (hstreams : w.streams = true)
    (hb : b.HasRoom) (h63 : v.length < 2 ^ 63) : LoopStops stmt ⟨ctx, c, b⟩ := by
  induction hleft : v.length - (stmt.streamFor c).offset using Nat.strong_induction_on
    generalizing stmt with
  | _ left ih =>
    by_cases hstatus : (stmt.streamFor c).status = .noMoreData
    · obtain ⟨returned, hcall, hend⟩ := call_getData_noData ctx b hrs hstatus
      exact .of_next hcall (.inl hend)
    obtain ⟨returned, hcall, hq, herror | ⟨n, hinfo, hpos⟩⟩ :=
      call_streams ctx hrs hv hne hw hstreams hstatus
    · exact .of_next hcall (.inr (.inl herror))
    have hrs' : returned.stmt.mQuery.mResultSet = some rs := hq ▸ hrs
    have hcolumn : returned.stmt.mDataStreamInfo.column = c := by
      rw [hinfo]
      exact streamFor_column stmt c
    have hstream := streamFor_of_eq hcolumn
    refine .of_next hcall (.inr (.inr ?_))
    by_cases hend : (stmt.streamFor c).offset + n ≥ v.length
    · have hdone : (returned.stmt.streamFor c).status = .noMoreData := by
        rw [hstream, hinfo]
        exact if_pos hend
      obtain ⟨returned', hcall', hresult⟩ := call_getData_noData ctx b hrs' hdone
      exact .of_next hcall' (.inl hresult)
    · have hoffset : (returned.stmt.streamFor c).offset = (stmt.streamFor c).offset + n := by
        rw [hstream, hinfo]
        rfl
      have hn := hpos hb (by omega) h63
      exact ih (v.length - (returned.stmt.streamFor c).offset) (by omega) hrs' rfl

/-! ### Values that are converted as a whole -/

/-- **A read that leaves the stream alone** can be repeated, with the same answer. -/
theorem call_repeats (ctx : CallContext) (hrs : stmt.mQuery.mResultSet = some rs)
    (hv : rs.value c = some v) (hw : rs.readWorker c b.targetType = some w)
    (hwhole : w.streams = false ∨ v = []) (hstatus : (stmt.streamFor c).status ≠ .noMoreData) :
    ∃ result, ∀ stmt' : RetsSTMT, stmt'.mQuery = stmt.mQuery → stmt'.ard = stmt.ard →
      stmt'.streamFor c = stmt.streamFor c →
      ∃ returned, stmt'.call ctx (.getData c b) = .ok returned ∧ returned.result = result ∧
        returned.stmt.mQuery = stmt.mQuery ∧ returned.stmt.ard = stmt.ard ∧
        returned.stmt.streamFor c = stmt.streamFor c := by
  obtain ⟨served, hget, hserves⟩ :=
    ResultSet.getData_serves hv hw ctx.deref stmt.ard (stmt.streamFor c)
  have hinfo : served.streamInfo = some (stmt.streamFor c) := by
    rw [hserves.streamInfo]
    rcases hwhole with hwhole | rfl
    · rw [TranslationWorker.streamInfo_translate hwhole]
      rfl
    · rw [TranslationWorker.translate_nil]
      rfl
  refine ⟨(odbcEntry [] (readResult served (stmt.streamFor c))).1, fun stmt' hq hard hstream => ?_⟩
  rw [← hstream, ← hard] at hget
  obtain ⟨out, hout, hq', hard', -, hinfo', hresult⟩ :=
    sqlGetData_of_getData (hq ▸ hrs) (hstream ▸ hstatus) hget
  rw [hinfo, Option.getD_some] at hinfo' hresult
  refine ⟨entered out, call_of_uncaught rfl hout, ?_, hq'.trans hq, hard'.trans hard, ?_⟩
  · show (odbcEntry _ out.result).1 = _
    rw [hresult]
    exact odbcEntry_fst _ _ _
  · have hcolumn : out.stmt.mDataStreamInfo.column = c := by
      rw [hinfo']
      exact streamFor_column stmt c
    exact (streamFor_of_eq hcolumn).trans hinfo'

theorem ne_noMoreData_of_result {returned : Returned} (hrs : stmt.mQuery.mResultSet = some rs)
    (hcall : stmt.call ctx (.getData c b) = .ok returned) (hresult : returned.result ≠ .noData) :
    (stmt.streamFor c).status ≠ .noMoreData := by
  intro hstatus
  obtain ⟨returned', hcall', hend⟩ := call_getData_noData ctx b hrs hstatus
  rw [hcall] at hcall'
  obtain rfl := Except.ok.inj hcall'
  exact hresult hend

/-- **A loop over a value that is converted as a whole goes on** once it has succeeded. -/
theorem not_loopStops {returned : Returned} (hrs : stmt.mQuery.mResultSet = some rs)
    (hv : rs.value c = some v) (hw : rs.readWorker c b.targetType = some w)
    (hwhole : w.streams = false ∨ v = []) (hcall : stmt.call ctx (.getData c b) = .ok returned)
    (hsuccess : returned.result = .success ∨ returned.result = .successWithInfo) :
    ¬ LoopStops stmt ⟨ctx, c, b⟩ := by
  have hne : returned.result ≠ .noData := by
    rcases hsuccess with h | h <;> simp [h]
  obtain ⟨result, hrepeats⟩ :=
    call_repeats ctx hrs hv hw hwhole (ne_noMoreData_of_result hrs hcall hne)
  have hresult : returned.result = result := by
    obtain ⟨returned', hcall', hresult, -⟩ := hrepeats stmt rfl rfl rfl
    rw [hcall] at hcall'
    obtain rfl := Except.ok.inj hcall'
    exact hresult
  have hall : ∀ (n : Nat) (stmt' : RetsSTMT) (answers : List (Binding × Returned)),
      stmt'.mQuery = stmt.mQuery → stmt'.ard = stmt.ard → stmt'.streamFor c = stmt.streamFor c →
      reads (List.replicate n ⟨ctx, c, b⟩) stmt' = .ok answers →
      ∀ a ∈ answers, a.2.result = result := by
    intro n
    induction n with
    | zero =>
      intro stmt' answers _ _ _ hanswers a ha
      cases hanswers
      cases ha
    | succ n ih =>
      intro stmt' answers hq hard hstream hanswers a ha
      obtain ⟨returned', hcall', hresult', hq', hard', hstream'⟩ := hrepeats stmt' hq hard hstream
      rw [List.replicate_succ] at hanswers
      unfold reads at hanswers
      obtain ⟨first, hfirst, hanswers⟩ := bind_eq_ok.mp hanswers
      rw [hcall'] at hfirst
      obtain rfl := Except.ok.inj hfirst
      obtain ⟨rest, hrest, heq⟩ := bind_eq_ok.mp hanswers
      cases heq
      rcases List.mem_cons.mp ha with rfl | ha
      · exact hresult'
      · exact ih returned'.stmt rest hq' hard' hstream' hrest a ha
  rintro ⟨n, answers, hanswers, a, ha, hend⟩
  have hsame := hall n stmt answers rfl rfl rfl hanswers a ha
  rw [hsame, ← hresult] at hend
  rcases hsuccess with h | h <;> simp [h] at hend

/-- **Reading a column comes to an end** exactly for a value that is not empty and a type that is
delivered in portions: then a read that succeeds is followed by `SQL_NO_DATA`, and a loop that has
begun to read stops. -/
theorem readingEnds_iff (hrs : stmt.mQuery.mResultSet = some rs) (hv : rs.value c = some v)
    (hw : rs.readWorker c b.targetType = some w) {returned : Returned}
    (hcall : stmt.call ctx (.getData c b) = .ok returned) :
    (returned.result = .success →
      (NextReadEnds returned.stmt c ↔ w.streams = true ∧ v ≠ [])) ∧
    (b.HasRoom → v.length < 2 ^ 63 →
      (returned.result = .success ∨ returned.result = .successWithInfo) →
      (LoopStops stmt ⟨ctx, c, b⟩ ↔ w.streams = true ∧ v ≠ [])) := by
  have hwhole : ¬ (w.streams = true ∧ v ≠ []) → w.streams = false ∨ v = [] := by
    intro h
    by_cases hstreams : w.streams = true
    · exact .inr (by_contra fun hne => h ⟨hstreams, hne⟩)
    · exact .inl (by simpa using hstreams)
  constructor
  · intro hsuccess
    refine ⟨fun hends => by_contra fun hnot => ?_, fun h =>
      nextReadEnds_of_streams hrs hv h.2 hw h.1 hcall hsuccess⟩
    -- the read can be repeated, and then it succeeds once more
    have hne : returned.result ≠ .noData := by simp [hsuccess]
    obtain ⟨result, hrepeats⟩ :=
      call_repeats ctx hrs hv hw (hwhole hnot) (ne_noMoreData_of_result hrs hcall hne)
    obtain ⟨first, hfirst, hresult, hq, hard, hstream⟩ := hrepeats stmt rfl rfl rfl
    rw [hcall] at hfirst
    obtain rfl := Except.ok.inj hfirst
    obtain ⟨second, hsecond, hresult', -⟩ := hrepeats returned.stmt hq hard hstream
    have hsome : returned.stmt.mQuery.mResultSet.isSome = true := by
      rw [hq, hrs]
      rfl
    obtain ⟨third, hthird, hend⟩ := hends returned.stmt rfl hsome ctx b
    rw [hsecond] at hthird
    obtain rfl := Except.ok.inj hthird
    exact hne (hresult.trans (hresult'.symm.trans hend))
  · intro hb h63 hsuccess
    refine ⟨fun hstops => by_contra fun hnot => ?_, fun h =>
      loopStops_of_streams hrs hv h.2 hw h.1 hb h63⟩
    exact not_loopStops hrs hv hw (hwhole hnot) hcall hsuccess hstops

/-- The digits of a count, read as text, end. -/
theorem readingEnds_text :
    ∃ returned, countRow.call idleContext (.getData 1 ⟨sqlChar, 100, 10, 200⟩) = .ok returned ∧
      returned.result = .success ∧ NextReadEnds returned.stmt 1 ∧
      LoopStops countRow ⟨idleContext, 1, ⟨sqlChar, 100, 10, 200⟩⟩ := by
  have hends := @readingEnds_iff countRow _ 1 ⟨sqlChar, 100, 10, 200⟩ "123456".toList idleContext
    .character rfl rfl rfl _ rfl
  exact ⟨_, rfl, rfl, (hends.1 rfl).mpr ⟨rfl, by decide⟩,
    (hends.2 ⟨by decide, by decide, by decide⟩ (by decide) (.inl rfl)).mpr ⟨rfl, by decide⟩⟩

/-- Read as a number they are delivered again and again. -/
theorem not_nextReadEnds_count :
    ¬ ∀ (ctx : CallContext) (stmt : RetsSTMT) (rs : ResultSet) (c : Nat) (b : Binding) (v : Str)
      (w : TranslationWorker) (returned : Returned), stmt.mQuery.mResultSet = some rs →
      rs.value c = some v → rs.readWorker c b.targetType = some w →
      stmt.call ctx (.getData c b) = .ok returned → returned.result = .success →
      NextReadEnds returned.stmt c := by
  intro h
  have hends := h idleContext countRow _ 1 ⟨sqlCSlong, 100, 4, 200⟩ "123456".toList .int _ rfl rfl
    rfl rfl rfl
  obtain ⟨returned, hcall, hend⟩ := hends _ rfl rfl idleContext ⟨sqlCSlong, 100, 4, 200⟩
  cases hcall
  cases hend

end RetsSTMT

end EzRets
