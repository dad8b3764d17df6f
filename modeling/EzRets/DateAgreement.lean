import EzRets.DateTimes

/-!
# EzRets.DateAgreement — one text as a date and as a timestamp

The searches of the two workers find the same date.  Only the date worker goes on to look at it: a
date of zeros is an SQL `NULL` there and a timestamp of zeros here.
-/

namespace EzRets

/-! ## Outcomes -/

/-- The value is an SQL `NULL`. -/
def ReportsNull (t : Target) (out : Translated) : Prop :=
  out.thrown = none ∧ lenAfter out.writes t.resultSize = some sqlNullData

/-- The text is refused, with an indicator as for an SQL `NULL`. -/
def RefusesDate (t : Target) (out : Translated) : Prop :=
  (∃ what, out.thrown = some (.dateTimeFormat what)) ∧
    lenAfter out.writes t.resultSize = some sqlNullData

/-- The date is delivered, in a structure that begins with year, month and day. -/
structure DeliversDate (t : Target) (date : Int × Int × Int) (out : Translated) : Prop where
  thrown : out.thrown = none
  indicator : ∃ n, lenAfter out.writes t.resultSize = some n ∧ n ≠ sqlNullData
  year : ∀ ts : TimestampStruct, (ts.after t.target out.writes).year = date.1
  month : ∀ ts : TimestampStruct, (ts.after t.target out.writes).month = date.2.1
  day : ∀ ts : TimestampStruct, (ts.after t.target out.writes).day = date.2.2

theorem DeliversDate.lenAfter_ne {t : Target} {date : Int × Int × Int} {out : Translated}
    (h : DeliversDate t date out) : lenAfter out.writes t.resultSize ≠ some sqlNullData := by
  obtain ⟨n, hn, hne⟩ := h.indicator
  rw [hn]
  exact fun heq => hne (Option.some.inj heq)

/-- The two workers say the same of a text, as far as the date goes. -/
def AgreeOnDate (data : Str) : Prop :=
  ∀ t : Target, t.resultSize ≠ 0 →
    let date := TranslationWorker.translateDate data t
    let timestamp := TranslationWorker.translateTimestamp data t
    (ReportsNull t date ∧ ReportsNull t timestamp) ∨
      (RefusesDate t date ∧ RefusesDate t timestamp) ∨
        ∃ value, DeliversDate t value date ∧ DeliversDate t value timestamp

/-! ## The date that is found -/

/-- No text of the shape of a date begins before `d` in `s`. -/
def LeftmostDate (s : Str) (d : DateText) : Prop :=
  ∃ before after, s = before ++ (d.text ++ after) ∧
    ∀ before' (d' : DateText) after', s = before' ++ (d'.text ++ after') →
      before.length ≤ before'.length

theorem LeftmostDate.search {s : Str} {d : DateText} (h : LeftmostDate s d) :
    ∃ rest, search matchDate s = some (d.value, rest) := by
  obtain ⟨before, after, hs, hleft⟩ := h
  refine ⟨after, search_eq_some_iff.mpr ⟨before, _, hs, ?_, fun before' after' hs' hlt => ?_⟩⟩
  · rw [matchDate_eq_pattern]
    exact d.pattern_text after
  · by_contra hsome
    obtain ⟨⟨value, rest⟩, hmatch⟩ := Option.ne_none_iff_exists'.mp hsome
    rw [matchDate_eq_pattern] at hmatch
    obtain ⟨d', rfl, -⟩ := Triple.of_pattern hmatch
    have hle := hleft before' d' rest hs'
    omega

theorem exists_leftmostDate {s rest : Str} {value : Nat × Nat × Nat}
    (h : search matchDate s = some (value, rest)) : ∃ d, LeftmostDate s d ∧ value = d.value := by
  obtain ⟨before, after, hs, hmatch, hleft⟩ := search_eq_some_iff.mp h
  rw [matchDate_eq_pattern] at hmatch hleft
  obtain ⟨d, rfl, hvalue⟩ := Triple.of_pattern hmatch
  refine ⟨d, ⟨before, rest, hs, fun before' d' after' hs' => ?_⟩, hvalue⟩
  by_contra hlt
  have hnone := hleft before' (d'.text ++ after') hs' (by omega)
  rw [d'.pattern_text] at hnone
  cases hnone

/-- **Both workers find the same date.** -/
theorem search_matchTimestamp (s : Str) :
    (search matchTimestamp s).map Prod.fst = (search matchDate s).map Prod.fst := by
  refine search_congr (fun s => ?_) s
  unfold matchTimestamp
  rcases matchDate s with _ | ⟨date, rest⟩ <;> rfl

/-- The numbers of a date are zero for one text only. -/
theorem value_eq_zero_iff {d : DateText} : d.value = (0, 0, 0) ↔ d.text = "0000-00-00".toList := by
  have hrun : ∀ {n : Nat} {s : Str}, IsDigitRun n s → digitsValue s = 0 →
      s = List.replicate n '0' := by
    intro n s hs hzero
    have hzeros := eq_replicate_of_digitsValue hs.digits hzero
    rwa [hs.length] at hzeros
  constructor
  · intro h
    obtain ⟨hfirst, h⟩ := Prod.mk.inj h
    obtain ⟨hsecond, hthird⟩ := Prod.mk.inj h
    unfold Triple.text
    rw [hrun d.first_run hfirst, hrun d.second_run hsecond, hrun d.third_run hthird]
    rfl
  · intro h
    have hpattern := d.pattern_text []
    rw [List.append_nil, h] at hpattern
    have hzero : Triple.pattern 4 '-' "0000-00-00".toList = some ((0, 0, 0), []) := by decide
    rw [hzero] at hpattern
    exact (Prod.mk.inj (Option.some.inj hpattern)).1.symm

/-- There is only one leftmost date to look at. -/
theorem LeftmostDate.forall_ne_iff {s : Str} {d : DateText} (hd : LeftmostDate s d) :
    (∀ d', LeftmostDate s d' → d'.text ≠ "0000-00-00".toList) ↔ d.value ≠ (0, 0, 0) := by
  constructor
  · intro h hzero
    exact h d hd (value_eq_zero_iff.mp hzero)
  · intro h d' hd' hzero
    obtain ⟨rest, hfound⟩ := hd.search
    obtain ⟨rest', hfound'⟩ := hd'.search
    rw [hfound] at hfound'
    have hvalue : d.value = d'.value := (Prod.mk.inj (Option.some.inj hfound')).1
    exact h (hvalue.trans (value_eq_zero_iff.mpr hzero))

/-! ## What is made of it -/

namespace TranslationWorker

variable {data : Str} {t : Target}

theorem reportsNull_null (ht : t.resultSize ≠ 0) : ReportsNull t t.null :=
  ⟨rfl, lenAfter_setResultSize ht⟩

theorem refusesDate_throws (ht : t.resultSize ≠ 0) (what : Str) :
    RefusesDate t (t.throws (setResultSize t.resultSize sqlNullData) (.dateTimeFormat what)) :=
  ⟨⟨what, rfl⟩, lenAfter_setResultSize ht⟩

/-- The stores of a date and of what else there is in the structure. -/
theorem deliversDate_stores (ht : t.resultSize ≠ 0) {date : Int × Int × Int} {ws : List Write}
    {n : Int} (hn : n ≠ sqlNullData)
    (hws : ∀ ts : TimestampStruct, (ts.after t.target ws).year = date.1 ∧
      (ts.after t.target ws).month = date.2.1 ∧ (ts.after t.target ws).day = date.2.2) :
    DeliversDate t date (t.stores (ws ++ setResultSize t.resultSize n)) := by
  have hafter : ∀ ts : TimestampStruct,
      ts.after t.target (ws ++ setResultSize t.resultSize n) = ts.after t.target ws :=
    fun ts => ts.after_append_setResultSize _ _ _ _
  refine ⟨rfl, ⟨n, ?_, hn⟩, fun ts => ?_, fun ts => ?_, fun ts => ?_⟩
  · show lenAfter (ws ++ setResultSize t.resultSize n) _ = _
    rw [lenAfter_append, lenAfter_setResultSize ht]
    rfl
  · exact (congrArg TimestampStruct.year (hafter ts)).trans (hws ts).1
  · exact (congrArg TimestampStruct.month (hafter ts)).trans (hws ts).2.1
  · exact (congrArg TimestampStruct.day (hafter ts)).trans (hws ts).2.2

/-- A date that is found is delivered as a timestamp. -/
theorem deliversDate_timestamp (ht : t.resultSize ≠ 0) (hblank : isBlank data = false)
    {value : Nat × Nat × Nat} {rest : Str} (hdate : search matchDate data = some (value, rest)) :
    DeliversDate t (value.1, value.2.1, value.2.2) (translateTimestamp data t) := by
  have hsame := search_matchTimestamp data
  rw [hdate, Option.map_some] at hsame
  obtain ⟨⟨value', time⟩, htimestamp, rfl⟩ := Option.map_eq_some_iff.mp hsame
  unfold translateTimestamp
  rw [hblank, if_neg Bool.false_ne_true, htimestamp]
  dsimp only
  refine deliversDate_stores ht (by decide) fun ts => ?_
  simp [TimestampStruct.after, TimestampStruct.store]

/-- As a date it is delivered unless it is zero. -/
theorem translateDate_of_search (hblank : isBlank data = false) {value : Nat × Nat × Nat}
    {rest : Str} (hdate : search matchDate data = some (value, rest)) :
    translateDate data t =
      t.stores ([⟨t.target, .dateYear value.1⟩, ⟨t.target, .dateMonth value.2.1⟩,
          ⟨t.target, .dateDay value.2.2⟩] ++
        setResultSize t.resultSize (if value = (0, 0, 0) then sqlNullData else sqlDateLen)) := by
  obtain ⟨year, month, day⟩ := value
  unfold translateDate
  rw [hblank, if_neg Bool.false_ne_true, hdate]
  dsimp only
  by_cases hzero : year = 0 ∧ month = 0 ∧ day = 0
  · obtain ⟨rfl, rfl, rfl⟩ := hzero
    rfl
  · have hvalue : (year, month, day) ≠ (0, 0, 0) := by simpa using hzero
    rw [if_neg hzero, if_neg hvalue]

end TranslationWorker

open TranslationWorker

/-- **Both conversions agree on the date** exactly when the first date of the text, if there is one,
is not `0000-00-00`. -/
theorem agreeOnDate_iff (data : Str) :
    AgreeOnDate data ↔ ∀ d, LeftmostDate data d → d.text ≠ "0000-00-00".toList := by
  by_cases hblank : isBlank data = true
  · refine iff_of_true (fun t ht => .inl ?_) fun d hd => ?_
    · unfold translateDate translateTimestamp
      rw [if_pos hblank, if_pos hblank]
      exact ⟨reportsNull_null ht, reportsNull_null ht⟩
    · obtain ⟨before, after, rfl, -⟩ := hd
      obtain ⟨c, s, htext, hc⟩ := d.exists_digit (by decide)
      have hspace := isBlank_iff.mp hblank c (by simp [htext])
      rw [isSpace_of_isDigit hc] at hspace
      cases hspace
  have hblank' : isBlank data = false := by simpa using hblank
  rcases hdate : search matchDate data with _ | ⟨value, rest⟩
  · refine iff_of_true (fun t ht => .inr (.inl ?_)) fun d hd => ?_
    · have hsame := search_matchTimestamp data
      rw [hdate, Option.map_none, Option.map_eq_none_iff] at hsame
      unfold translateDate translateTimestamp
      rw [if_neg hblank, if_neg hblank, hdate, hsame]
      exact ⟨refusesDate_throws ht _, refusesDate_throws ht _⟩
    · obtain ⟨rest, hfound⟩ := hd.search
      rw [hdate] at hfound
      cases hfound
  obtain ⟨d, hd, rfl⟩ := exists_leftmostDate hdate
  rw [hd.forall_ne_iff]
  constructor
  · intro h hzero
    have ht : (⟨1, 16, 2, none⟩ : Target).resultSize ≠ 0 := by decide
    have htimestamp := deliversDate_timestamp ht hblank' hdate
    have hnull : ReportsNull ⟨1, 16, 2, none⟩ (translateDate data ⟨1, 16, 2, none⟩) := by
      rw [translateDate_of_search hblank' hdate, if_pos hzero]
      exact ⟨rfl, rfl⟩
    rcases h ⟨1, 16, 2, none⟩ ht with ⟨-, -, hlen⟩ | ⟨-, -, hlen⟩ | ⟨value, hdelivers, -⟩
    · exact htimestamp.lenAfter_ne hlen
    · exact htimestamp.lenAfter_ne hlen
    · exact hdelivers.lenAfter_ne hnull.2
  · intro hvalue t ht
    refine .inr (.inr ⟨_, ?_, deliversDate_timestamp ht hblank' hdate⟩)
    rw [translateDate_of_search hblank' hdate, if_neg hvalue]
    refine deliversDate_stores ht (by decide) fun ts => ?_
    simp [TimestampStruct.after, TimestampStruct.store]

/-- A date of zeros is no value as a date, and a timestamp of zeros. -/
theorem not_agreeOnDate_zero : ¬ AgreeOnDate "0000-00-00".toList := by
  intro h
  rcases h ⟨1, 16, 2, none⟩ (by decide) with
    ⟨-, -, hlen⟩ | ⟨⟨⟨what, hwhat⟩, -⟩, -⟩ | ⟨value, hdelivers, -⟩
  · exact absurd hlen (by decide)
  · cases hwhat
  · have hnull : lenAfter (translateDate "0000-00-00".toList ⟨1, 16, 2, none⟩).writes 2 =
        some sqlNullData := by decide
    exact hdelivers.lenAfter_ne hnull

end EzRets
