import EzRets.StreamedReads

/-!
# EzRets.ChunkTermination — where the terminator of a streamed chunk stands

A character read through `SQLGetData` terminates its buffer, not its data: the `'\0'` goes to the
last byte of the buffer, however short the chunk is.  What lies between the chunk and that byte is
whatever the application had there.
-/

namespace EzRets

/-- The text that a C program finds at `p` in a buffer of `n` bytes, up to the first `'\0'` that was
stored there; `none` where it runs into a byte without a store, or out of the buffer. -/
def storedCString (ws : List Write) : Ptr → Nat → Option Str
  | _, 0 => none
  | p, n + 1 =>
    match charAfter ws p with
    | none => none
    | some c => if c = '\x00' then some [] else (storedCString ws (p + 1) n).map (c :: ·)

/-- The chunk stands at `p`, in a buffer of `n` bytes, with its terminator right behind it. -/
structure TerminatedChunk (ws : List Write) (p : Ptr) (n : Nat) (chunk : Str) : Prop where
  nul : charAfter ws (p + chunk.length) = some '\x00'
  text : storedCString ws p n = some chunk

theorem storedCString_eq_some_iff {ws : List Write} {p : Ptr} {n : Nat} {s : Str} :
    storedCString ws p n = some s ↔
      s.length < n ∧ '\x00' ∉ s ∧
        ∀ i : Nat, i ≤ s.length → charAfter ws (p + i) = (s ++ ['\x00'])[i]? := by
  induction n generalizing p s with
  | zero =>
    refine iff_of_false (fun h => by cases h) fun h => Nat.not_lt_zero _ h.1
  | succ n ih =>
    unfold storedCString
    constructor
    · intro h
      split at h
      · cases h
      · rename_i c hc
        by_cases hnul : c = '\x00'
        · rw [if_pos hnul] at h
          obtain rfl := Option.some.inj h
          refine ⟨Nat.succ_pos n, List.not_mem_nil, fun i hi => ?_⟩
          obtain rfl : i = 0 := by simpa using hi
          rw [Nat.add_zero, hc, hnul]
          rfl
        · rw [if_neg hnul] at h
          obtain ⟨s', hs', rfl⟩ := Option.map_eq_some_iff.mp h
          obtain ⟨hlt, hmem, hchars⟩ := ih.mp hs'
          refine ⟨Nat.succ_lt_succ hlt, ?_, fun i hi => ?_⟩
          · rw [List.mem_cons, not_or]
            exact ⟨fun h' => hnul h'.symm, hmem⟩
          · rcases i with _ | i
            · exact hc
            · have hi' := hchars i (Nat.le_of_succ_le_succ hi)
              rw [Nat.add_right_comm, Nat.add_assoc p i 1] at hi'
              exact hi'
    · rintro ⟨hlt, hmem, hchars⟩
      have hfirst := hchars 0 (Nat.zero_le _)
      rcases s with _ | ⟨c, s⟩
      · rw [Nat.add_zero] at hfirst
        rw [hfirst]
        rfl
      · rw [List.mem_cons, not_or] at hmem
        rw [Nat.add_zero] at hfirst
        rw [hfirst]
        show (if c = '\x00' then _ else _) = _
        have hrest : storedCString ws (p + 1) n = some s := by
          refine ih.mpr ⟨Nat.lt_of_succ_lt_succ hlt, hmem.2, fun i hi => ?_⟩
          have hi' := hchars (i + 1) (Nat.succ_le_succ hi)
          rw [Nat.add_right_comm, Nat.add_assoc p i 1]
          exact hi'
        rw [if_neg fun h => hmem.1 h.symm, hrest]
        rfl

namespace RetsSTMT

/-- What a read of column `c` with the value `v` delivers into the buffer of `b`. -/
def nextChunk (stmt : RetsSTMT) (c : Nat) (b : Binding) (v : Str) : Str :=
  Chunks.chunk v (stmt.streamFor c).offset (b.bufferLength - 1).toNat

/-- A read of the value `v` of column `c` as text, from an offset that it is not at the end of, into
a buffer with room for a character. -/
structure CharacterRead (stmt : RetsSTMT) (rs : ResultSet) (c : Nat) (b : Binding) (v : Str) :
    Prop where
  resultSet : stmt.mQuery.mResultSet = some rs
  value : rs.value c = some v
  ne_nil : v ≠ []
  worker : rs.readWorker c b.targetType = some .character
  status : (stmt.streamFor c).status ≠ .noMoreData
  offset : (stmt.streamFor c).offset ≤ v.length
  target : b.targetValue ≠ 0
  two_le : 2 ≤ b.bufferLength
  lt : b.bufferLength < 2 ^ 31

variable {ctx : CallContext} {stmt : RetsSTMT} {rs : ResultSet} {c : Nat} {b : Binding} {v : Str}

/-- **The bytes of the buffer**: the chunk, and a terminator in the last byte. -/
theorem CharacterRead.call (h : CharacterRead stmt rs c b v) (ctx : CallContext) :
    ∃ returned, stmt.call ctx (.getData c b) = .ok returned ∧
      returned.stmt.mDataStreamInfo.offset =
        (stmt.streamFor c).offset + (stmt.nextChunk c b v).length ∧
      ∀ i : Nat, charAfter returned.writes ((stmt.readTarget ctx c b).target + i) =
        if i = (b.bufferLength - 1).toNat then some '\x00' else (stmt.nextChunk c b v)[i]? := by
  obtain ⟨returned, served, hcall, hserves, -, -, hwrites, hstream, -⟩ :=
    call_getData_serves h.resultSet h.value h.worker h.status
  have htarget : (stmt.readTarget ctx c b).target ≠ 0 :=
    adjustDescPointer_ne_zero (adjustDescPointer_ne_zero h.target)
  have hlength : (stmt.readTarget ctx c b).targetLen = b.bufferLength := by
    have h2 := h.two_le
    exact toSqlInteger_of_lt (by omega) h.lt
  have hstreamed := translateCharacter_streamed (t := stmt.readTarget ctx c b) h.ne_nil rfl
    h.offset htarget (by have h2 := h.two_le; omega) (by rw [hlength]; exact h.lt)
  rw [hlength] at hstreamed
  have hserved : TranslationWorker.character.translate v (stmt.readTarget ctx c b) = _ := hstreamed
  refine ⟨returned, hcall, ?_, fun i => ?_⟩
  · rw [hstream, hserves.streamInfo, hserved]
    rfl
  · rw [hwrites, hserves.writes, hserved]
    exact charAfter_streamed _ _ _ _ charAt_setResultSize

/-- **A chunk is terminated right after its data** exactly when it fills the buffer, as long as
there is no `'\0'` in it. -/
theorem terminatedChunk_iff (ctx : CallContext) (h : CharacterRead stmt rs c b v) :
    ∃ returned, stmt.call ctx (.getData c b) = .ok returned ∧
      returned.stmt.mDataStreamInfo.offset =
        (stmt.streamFor c).offset + (stmt.nextChunk c b v).length ∧
      (TerminatedChunk returned.writes (stmt.readTarget ctx c b).target b.bufferLength.toNat
          (stmt.nextChunk c b v) ↔
        b.bufferLength - 1 ≤ v.length - (stmt.streamFor c).offset ∧
          '\x00' ∉ stmt.nextChunk c b v) := by
  obtain ⟨returned, hcall, hoffset, hchars⟩ := h.call ctx
  have hlength : (stmt.nextChunk c b v).length =
      min (b.bufferLength - 1).toNat (v.length - (stmt.streamFor c).offset) :=
    Chunks.length_chunk _ _ _
  have hle := h.offset
  have h2 := h.two_le
  refine ⟨returned, hcall, hoffset, ⟨fun hterminated => ?_, ?_⟩⟩
  · refine ⟨?_, (storedCString_eq_some_iff.mp hterminated.text).2.1⟩
    have hnul := hterminated.nul
    rw [hchars, List.getElem?_eq_none (Nat.le_refl _)] at hnul
    split_ifs at hnul with hroom
    omega
  · rintro ⟨hroom, hnul⟩
    have hfull : (stmt.nextChunk c b v).length = (b.bufferLength - 1).toNat := by omega
    refine ⟨by rw [hchars, if_pos hfull], storedCString_eq_some_iff.mpr ⟨by omega, hnul, ?_⟩⟩
    intro i hi
    rw [hchars]
    split_ifs with hlast
    · rw [hlast, ← hfull, List.getElem?_concat_length]
    · rw [List.getElem?_append_left (by omega)]

/-- A statement on the row of a count of six digits. -/
def countRow : RetsSTMT :=
  new.setQuery ⟨.dataCount ⟨"Property".toList, "RES".toList, none, none, 0, 0, true⟩,
    some (countResult nameBinding (countFetched "123456".toList))⟩

theorem characterRead_countRow {bufferLength : Int} (h2 : 2 ≤ bufferLength)
    (h31 : bufferLength < 2 ^ 31) :
    CharacterRead countRow (countResult nameBinding (countFetched "123456".toList)) 1
      ⟨sqlChar, 100, bufferLength, 200⟩ "123456".toList :=
  ⟨rfl, rfl, by decide, rfl, (by decide : (countRow.streamFor 1).status ≠ .noMoreData),
    (by decide : (countRow.streamFor 1).offset ≤ 6), (by decide : (100 : Nat) ≠ 0), h2, h31⟩

/-- A buffer of four bytes is filled. -/
theorem terminatedChunk_count :
    ∃ returned, countRow.call idleContext (.getData 1 ⟨sqlChar, 100, 4, 200⟩) = .ok returned ∧
      returned.stmt.mDataStreamInfo.offset = 3 ∧
      (TerminatedChunk returned.writes 100 4 "123".toList ↔
        (4 : Int) - 1 ≤ 6 - 0 ∧ '\x00' ∉ "123".toList) :=
  terminatedChunk_iff idleContext (characterRead_countRow (by decide) (by decide))

/-- In one of ten bytes the six digits are not followed by a terminator. -/
theorem not_terminatedChunk_count :
    ¬ ∀ ctx stmt rs c b v returned, CharacterRead stmt rs c b v →
      stmt.call ctx (.getData c b) = .ok returned →
      TerminatedChunk returned.writes (stmt.readTarget ctx c b).target b.bufferLength.toNat
        (stmt.nextChunk c b v) := by
  intro h
  have hread : CharacterRead countRow _ 1 ⟨sqlChar, 100, 10, 200⟩ _ :=
    characterRead_countRow (by decide) (by decide)
  obtain ⟨returned, hcall, -, hchars⟩ := hread.call idleContext
  have hnul := (h _ _ _ _ _ _ _ hread hcall).nul
  rw [hchars] at hnul
  exact absurd hnul (by decide)

end RetsSTMT

end EzRets
