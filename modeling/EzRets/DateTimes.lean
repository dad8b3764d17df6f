import EzRets.TranslationWorkers

/-!
# EzRets.DateTimes — what the date and timestamp workers find in a text

Both workers search the text for the leftmost date; the timestamp worker goes on to a time and a
fraction behind it.  The fraction is stored as the number of its three digits, and a date of zeros is
an SQL `NULL` for one of the workers only.
-/

namespace EzRets

/-! ## Searches -/

section Search

variable {β γ δ : Type} {p : Str → Option β} {q : Str → Option γ}

theorem search_of_match {s : Str} {b : β} (h : p s = some b) : search p s = some b := by
  rcases s with _ | ⟨c, s⟩
  · exact h
  · unfold search
    rw [h]
    rfl

theorem search_cons_of_none {c : Char} {s : Str} (h : p (c :: s) = none) :
    search p (c :: s) = search p s := by
  conv_lhs => unfold search
  rw [h, Option.none_or]

/-- Patterns that agree everywhere, in what is asked of them, find the same. -/
theorem search_congr {f : β → δ} {g : γ → δ} (h : ∀ s, (p s).map f = (q s).map g) (s : Str) :
    (search p s).map f = (search q s).map g := by
  induction s with
  | nil => exact h []
  | cons c s ih =>
    have hc := h (c :: s)
    rcases hp : p (c :: s) with _ | b
    · have hq : q (c :: s) = none := by
        rw [hp] at hc
        exact Option.map_eq_none_iff.mp hc.symm
      rw [search_cons_of_none hp, search_cons_of_none hq, ih]
    · obtain ⟨b', hq, -⟩ : ∃ b', q (c :: s) = some b' ∧ g b' = f b := by
        rw [hp] at hc
        exact Option.map_eq_some_iff.mp hc.symm
      rw [search_of_match hp, search_of_match hq, ← hp, ← hq, hc]

/-- **The leftmost match.** -/
theorem search_eq_some_iff {s : Str} {b : β} :
    search p s = some b ↔ ∃ before after, s = before ++ after ∧ p after = some b ∧
      ∀ before' after', s = before' ++ after' → before'.length < before.length →
        p after' = none := by
  induction s with
  | nil =>
    constructor
    · intro h
      exact ⟨[], [], rfl, h, fun _ _ _ hlt => absurd hlt (Nat.not_lt_zero _)⟩
    · rintro ⟨before, after, hs, hp, -⟩
      obtain ⟨rfl, rfl⟩ := List.append_eq_nil_iff.mp hs.symm
      exact hp
  | cons c s ih =>
    rcases hc : p (c :: s) with _ | b'
    · rw [search_cons_of_none hc, ih]
      constructor
      · rintro ⟨before, after, rfl, hp, hleft⟩
        refine ⟨c :: before, after, rfl, hp, fun before' after' hs hlt => ?_⟩
        rcases before' with _ | ⟨c', before'⟩
        · rw [List.nil_append] at hs
          rw [← hs, hc]
        · obtain ⟨-, hs'⟩ := List.cons.inj hs
          exact hleft before' after' hs' (Nat.lt_of_succ_lt_succ hlt)
      · rintro ⟨before, after, hs, hp, hleft⟩
        rcases before with _ | ⟨c', before⟩
        · rw [List.nil_append] at hs
          rw [← hs, hc] at hp
          cases hp
        · obtain ⟨rfl, hs'⟩ := List.cons.inj hs
          refine ⟨before, after, hs', hp, fun before' after' hs₂ hlt => ?_⟩
          refine hleft (c :: before') after' ?_ (Nat.succ_lt_succ hlt)
          rw [hs₂]
          rfl
    · rw [search_of_match hc]
      constructor
      · intro h
        obtain rfl := Option.some.inj h
        exact ⟨[], c :: s, rfl, hc, fun _ _ _ hlt => absurd hlt (Nat.not_lt_zero _)⟩
      · rintro ⟨before, after, hs, hp, hleft⟩
        rcases before with _ | ⟨c', before⟩
        · rw [List.nil_append] at hs
          rw [← hc, hs, hp]
        · have hnone := hleft [] (c :: s) rfl (Nat.succ_pos _)
          rw [hc] at hnone
          cases hnone

end Search

/-! ## Digits -/

/-- Exactly `n` digits. -/
structure IsDigitRun (n : Nat) (d : Str) : Prop where
  length : d.length = n
  digits : ∀ c ∈ d, c.isDigit = true

theorem IsDigitRun.of_all {n : Nat} {d : Str} (hlength : d.length = n)
    (hall : d.all Char.isDigit = true) : IsDigitRun n d := ⟨hlength, List.all_eq_true.mp hall⟩

theorem matchDigits_append {n : Nat} {d : Str} (h : IsDigitRun n d) (rest : Str) :
    matchDigits n (d ++ rest) = some (digitsValue d, rest) := by
  have htake : (d ++ rest).take n = d := List.take_left' h.length
  have hdrop : (d ++ rest).drop n = rest := List.drop_left' h.length
  unfold matchDigits
  rw [htake, hdrop]
  refine if_pos ?_
  rw [Bool.and_eq_true, decide_eq_true_iff, List.all_eq_true]
  exact ⟨h.length, h.digits⟩

theorem matchDigits_eq_some {n v : Nat} {s rest : Str} (h : matchDigits n s = some (v, rest)) :
    ∃ d, IsDigitRun n d ∧ s = d ++ rest ∧ v = digitsValue d := by
  unfold matchDigits at h
  dsimp only at h
  split_ifs at h with hdigits
  obtain ⟨rfl, rfl⟩ := Prod.mk.inj (Option.some.inj h)
  rw [Bool.and_eq_true, decide_eq_true_iff, List.all_eq_true] at hdigits
  exact ⟨s.take n, ⟨hdigits.1, hdigits.2⟩, (List.take_append_drop n s).symm, rfl⟩

theorem matchChar_eq_some_iff {c : Char} {s rest : Str} :
    matchChar c s = some rest ↔ s = c :: rest := by
  rcases s with _ | ⟨c', s⟩
  · exact iff_of_false (fun h => by cases h) fun h => by cases h
  · show (if c' = c then some s else none) = some rest ↔ _
    split_ifs with hc
    · rw [hc, Option.some.injEq, List.cons.injEq, eq_self_iff_true, true_and]
    · refine iff_of_false (fun h => by cases h) fun h => hc (List.cons.inj h).1

theorem matchChar_cons (c : Char) (s : Str) : matchChar c (c :: s) = some s :=
  matchChar_eq_some_iff.mpr rfl

/-- Digits whose number is zero are zeros. -/
theorem eq_replicate_of_digitsValue {d : Str} (hdigits : ∀ c ∈ d, c.isDigit = true)
    (h : digitsValue d = 0) : d = List.replicate d.length '0' := by
  induction d with
  | nil => rfl
  | cons c d ih =>
    have happend := digitsValue_append [c] d
    rw [List.singleton_append, h] at happend
    have hd : digitsValue d = 0 := by omega
    have hc : digitsValue [c] = 0 := by
      have hpow : 0 < 10 ^ d.length := by positivity
      have hmul : digitsValue [c] * 10 ^ d.length = 0 := by omega
      exact (Nat.mul_eq_zero.mp hmul).resolve_right (by omega)
    have hchar : c = '0' := by
      have hdigit := (Char.isDigit_iff_toNat.mp (hdigits c List.mem_cons_self)).1
      have hsub : 10 * 0 + (c.toNat - '0'.toNat) = 0 := hc
      exact Char.toNat_inj.mp (by omega)
    rw [List.length_cons, List.replicate_succ, ← ih (fun c' hc' => hdigits c' (by simp [hc'])) hd,
      hchar]

/-! ## Dates and times as text -/

/-- Three numbers with `sep` between them, of `n`, two and two digits. -/
structure Triple (n : Nat) (sep : Char) where
  first : Str
  second : Str
  third : Str
  first_run : IsDigitRun n first
  second_run : IsDigitRun 2 second
  third_run : IsDigitRun 2 third

/-- `YYYY-MM-DD`. -/
abbrev DateText := Triple 4 '-'

/-- `hh:mm:ss`. -/
abbrev TimeText := Triple 2 ':'

namespace Triple

variable {n : Nat} {sep : Char} (d : Triple n sep)

def text : Str := d.first ++ sep :: (d.second ++ sep :: d.third)

/-- The three numbers. -/
def value : Nat × Nat × Nat := (digitsValue d.first, digitsValue d.second, digitsValue d.third)

/-- The pattern of dates and times. -/
def pattern (n : Nat) (sep : Char) (s : Str) : Option ((Nat × Nat × Nat) × Str) := do
  let (first, s) ← matchDigits n s
  let s ← matchChar sep s
  let (second, s) ← matchDigits 2 s
  let s ← matchChar sep s
  let (third, s) ← matchDigits 2 s
  return ((first, second, third), s)

theorem pattern_text (rest : Str) : pattern n sep (d.text ++ rest) = some (d.value, rest) := by
  have hsplit : d.text ++ rest =
      d.first ++ (sep :: (d.second ++ (sep :: (d.third ++ rest)))) := by
    simp [text]
  rw [hsplit]
  refine Option.bind_eq_some_iff.mpr ⟨_, matchDigits_append d.first_run _, ?_⟩
  refine Option.bind_eq_some_iff.mpr ⟨_, matchChar_cons sep _, ?_⟩
  refine Option.bind_eq_some_iff.mpr ⟨_, matchDigits_append d.second_run _, ?_⟩
  refine Option.bind_eq_some_iff.mpr ⟨_, matchChar_cons sep _, ?_⟩
  exact Option.bind_eq_some_iff.mpr ⟨_, matchDigits_append d.third_run _, rfl⟩

/-- **The pattern is found only where such a text stands.** -/
theorem of_pattern {s rest : Str} {value : Nat × Nat × Nat}
    (h : pattern n sep s = some (value, rest)) :
    ∃ d : Triple n sep, s = d.text ++ rest ∧ value = d.value := by
  obtain ⟨⟨v₁, s₁⟩, hfirst, h⟩ := Option.bind_eq_some_iff.mp h
  obtain ⟨s₂, hsep, h⟩ := Option.bind_eq_some_iff.mp h
  obtain ⟨⟨v₂, s₃⟩, hsecond, h⟩ := Option.bind_eq_some_iff.mp h
  obtain ⟨s₄, hsep', h⟩ := Option.bind_eq_some_iff.mp h
  obtain ⟨⟨v₃, s₅⟩, hthird, h⟩ := Option.bind_eq_some_iff.mp h
  obtain ⟨rfl, rfl⟩ := Prod.mk.inj (Option.some.inj h)
  obtain ⟨first, hfirst_run, rfl, rfl⟩ := matchDigits_eq_some hfirst
  obtain ⟨second, hsecond_run, rfl, rfl⟩ := matchDigits_eq_some hsecond
  obtain ⟨third, hthird_run, rfl, rfl⟩ := matchDigits_eq_some hthird
  obtain rfl := matchChar_eq_some_iff.mp hsep
  obtain rfl := matchChar_eq_some_iff.mp hsep'
  exact ⟨⟨first, second, third, hfirst_run, hsecond_run, hthird_run⟩, by simp [text], rfl⟩

/-- Such a text begins with a digit. -/
theorem exists_digit (hn : n ≠ 0) : ∃ c s, d.text = c :: s ∧ c.isDigit = true := by
  have hlength := d.first_run.length
  rcases hfirst : d.first with _ | ⟨c, first⟩
  · rw [hfirst] at hlength
    exact absurd hlength.symm hn
  · refine ⟨c, first ++ sep :: (d.second ++ sep :: d.third), ?_,
      d.first_run.digits c (by simp [hfirst])⟩
    unfold text
    rw [hfirst]
    rfl

end Triple

theorem matchDate_eq_pattern : matchDate = Triple.pattern 4 '-' := rfl

theorem matchTime_eq_pattern : matchTime = Triple.pattern 2 ':' := rfl

/-- What may stand behind the date: a `'T'` or a blank, a time, and three digits of a fraction. -/
structure ClockText where
  separator : Char
  time : TimeText
  fraction : Option Str
  separator_eq : separator = 'T' ∨ isSpace separator = true
  fraction_run : ∀ s ∈ fraction, IsDigitRun 3 s

namespace ClockText

variable (d : ClockText)

def fractionText : Str :=
  match d.fraction with
  | none => []
  | some s => '.' :: s

def text : Str := d.separator :: (d.time.text ++ d.fractionText)

/-- The thousandths of a second that the fraction denotes. -/
def thousandths : Nat := digitsValue (d.fraction.getD [])

theorem skipDateTimeSeparator_text :
    skipDateTimeSeparator d.text = d.time.text ++ d.fractionText := by
  obtain ⟨c, s, htime, hc⟩ := d.time.exists_digit (by decide)
  rcases d.separator_eq with h | h
  · have hspace : isSpace 'T' = false := by decide
    unfold skipDateTimeSeparator text
    dsimp only
    rw [h, hspace, if_neg Bool.false_ne_true, matchChar_cons]
    rfl
  · have hT : matchChar 'T' (c :: s ++ d.fractionText) = none := by
      show (if c = 'T' then _ else _) = _
      refine if_neg ?_
      rintro rfl
      exact absurd hc (by decide)
    unfold skipDateTimeSeparator text
    dsimp only
    rw [h, if_pos rfl, htime, hT]
    rfl

theorem matchFraction_fractionText : matchFraction d.fractionText = d.thousandths := by
  have hrun := d.fraction_run
  unfold matchFraction fractionText thousandths
  rcases hfraction : d.fraction with _ | s
  · rfl
  · have hdigits := matchDigits_append (hrun s hfraction) []
    dsimp only
    rw [List.append_nil] at hdigits
    rw [matchChar_cons, Option.bind_some, hdigits]
    rfl

end ClockText

/-- A RETS date or date and time. -/
structure TimestampText where
  date : DateText
  clock : Option ClockText

/-- `TIMESTAMP_STRUCT`; the fraction counts billionths of a second. -/
structure TimestampStruct where
  year : Int
  month : Int
  day : Int
  hour : Int
  minute : Int
  second : Int
  fraction : Int
  deriving DecidableEq, Repr

namespace TimestampStruct

/-- One store into the structure at `p`. -/
def store (p : Ptr) (ts : TimestampStruct) (w : Write) : TimestampStruct :=
  if w.ptr = p then
    match w.value with
    | .dateYear n => { ts with year := n }
    | .dateMonth n => { ts with month := n }
    | .dateDay n => { ts with day := n }
    | .timeHour n => { ts with hour := n }
    | .timeMinute n => { ts with minute := n }
    | .timeSecond n => { ts with second := n }
    | .fraction n => { ts with fraction := n }
    | _ => ts
  else ts

/-- What the stores leave in the structure at `p`. -/
def after (p : Ptr) (ts : TimestampStruct) (ws : List Write) : TimestampStruct :=
  ws.foldl (store p) ts

/-- The stores of a whole structure. -/
def writes (p : Ptr) (ts : TimestampStruct) : List Write :=
  [⟨p, .dateYear ts.year⟩, ⟨p, .dateMonth ts.month⟩, ⟨p, .dateDay ts.day⟩,
    ⟨p, .timeHour ts.hour⟩, ⟨p, .timeMinute ts.minute⟩, ⟨p, .timeSecond ts.second⟩,
    ⟨p, .fraction ts.fraction⟩]

/-- The length/indicator is no part of it. -/
theorem after_append_setResultSize (p q : Ptr) (n : Int) (ts : TimestampStruct)
    (ws : List Write) : ts.after p (ws ++ setResultSize q n) = ts.after p ws := by
  unfold after setResultSize
  rw [List.foldl_append]
  split_ifs
  · show store p _ _ = _
    unfold store
    split_ifs <;> rfl
  · rfl

theorem after_writes (p : Ptr) (ts ts' : TimestampStruct) : ts'.after p (ts.writes p) = ts := by
  simp only [after, writes, List.foldl_cons, List.foldl_nil, store, if_true]

end TimestampStruct

namespace TimestampText

variable (d : TimestampText)

def text : Str :=
  match d.clock with
  | none => d.date.text
  | some clock => d.date.text ++ clock.text

/-- The time of the text, zero where it has none. -/
def timeOfDay : Nat × Nat × Nat :=
  match d.clock with
  | none => (0, 0, 0)
  | some clock => clock.time.value

/-- The thousandths of a second, zero where the text has no fraction. -/
def thousandths : Nat :=
  match d.clock with
  | none => 0
  | some clock => clock.thousandths

/-- The structure with a given fraction. -/
def struct (fraction : Nat) : TimestampStruct :=
  ⟨d.date.value.1, d.date.value.2.1, d.date.value.2.2, d.timeOfDay.1, d.timeOfDay.2.1,
    d.timeOfDay.2.2, fraction⟩

/-- The instant that the text denotes. -/
def instant : TimestampStruct := d.struct (d.thousandths * 1000000)

theorem matchTimestamp_text : matchTimestamp d.text =
    some (d.date.value, d.clock.map fun clock => (clock.time.value, clock.thousandths)) := by
  unfold matchTimestamp text
  rw [matchDate_eq_pattern]
  rcases d.clock with _ | clock
  · have hdate := d.date.pattern_text []
    rw [List.append_nil] at hdate
    exact Option.bind_eq_some_iff.mpr ⟨_, hdate, rfl⟩
  · refine Option.bind_eq_some_iff.mpr ⟨_, d.date.pattern_text clock.text, ?_⟩
    have htime : matchTime (skipDateTimeSeparator clock.text) =
        some (clock.time.value, clock.fractionText) := by
      rw [clock.skipDateTimeSeparator_text, matchTime_eq_pattern]
      exact clock.time.pattern_text clock.fractionText
    dsimp only
    rw [htime, Option.map_some, clock.matchFraction_fractionText]
    rfl

theorem isBlank_text : isBlank d.text = false := by
  obtain ⟨c, s, hdate, hc⟩ := d.date.exists_digit (by decide)
  have hmem : c ∈ d.text := by
    unfold text
    rw [hdate]
    rcases d.clock with _ | clock <;> simp
  exact isBlank_eq_false hmem (isSpace_of_isDigit hc)

end TimestampText

namespace TranslationWorker

open TimestampStruct

/-- What the worker stores for a text of the format. -/
theorem translateTimestamp_text (d : TimestampText) (t : Target) :
    translateTimestamp d.text t =
      t.stores ((d.struct d.thousandths).writes t.target ++
        setResultSize t.resultSize sqlTimestampLen) := by
  unfold translateTimestamp
  rw [d.isBlank_text, if_neg Bool.false_ne_true, search_of_match d.matchTimestamp_text]
  dsimp only
  unfold TimestampText.struct TimestampText.thousandths TimestampText.timeOfDay
  rcases d.clock with _ | clock <;> rfl

/-- Wherever the text is converted to, the structure denotes its instant. -/
def KeepsInstant (d : TimestampText) : Prop :=
  ∀ (t : Target) (ts : TimestampStruct), (translateTimestamp d.text t).thrown = none ∧
    ts.after t.target (translateTimestamp d.text t).writes = d.instant

/-- **A timestamp keeps its meaning** exactly when it has no fraction, or one of zero. -/
theorem keepsInstant_iff (d : TimestampText) : KeepsInstant d ↔ d.thousandths = 0 := by
  have hafter : ∀ (t : Target) (ts : TimestampStruct),
      ts.after t.target (translateTimestamp d.text t).writes = d.struct d.thousandths := by
    intro t ts
    rw [translateTimestamp_text]
    exact (after_append_setResultSize _ _ _ _ _).trans (after_writes _ _ _)
  constructor
  · intro h
    obtain ⟨-, hinstant⟩ := h ⟨1, 16, 0, none⟩ ⟨0, 0, 0, 0, 0, 0, 0⟩
    rw [hafter] at hinstant
    have hfraction : (d.thousandths : Int) = (d.thousandths * 1000000 : Nat) :=
      congrArg TimestampStruct.fraction hinstant
    omega
  · intro hzero t ts
    refine ⟨?_, ?_⟩
    · rw [translateTimestamp_text]
      rfl
    · rw [hafter]
      unfold TimestampText.instant
      rw [hzero]

/-- `2006-07-08T09:10:11.250`. -/
def quarterText : TimestampText where
  date := ⟨"2006".toList, "07".toList, "08".toList, .of_all rfl rfl, .of_all rfl rfl,
    .of_all rfl rfl⟩
  clock := some
    { separator := 'T'
      time := ⟨"09".toList, "10".toList, "11".toList, .of_all rfl rfl, .of_all rfl rfl,
        .of_all rfl rfl⟩
      fraction := some "250".toList
      separator_eq := .inl rfl
      fraction_run := fun s hs => by
        obtain rfl := Option.some.inj hs
        exact .of_all rfl rfl }

example : quarterText.text = "2006-07-08T09:10:11.250".toList := rfl

/-- A quarter of a second becomes 250 billionths. -/
theorem not_keepsInstant_quarter : ¬ KeepsInstant quarterText := by
  intro h
  obtain ⟨-, hinstant⟩ := h ⟨1, 16, 0, none⟩ ⟨0, 0, 0, 0, 0, 0, 0⟩
  rw [translateTimestamp_text] at hinstant
  exact absurd (congrArg TimestampStruct.fraction hinstant) (by decide)

end TranslationWorker

end EzRets
