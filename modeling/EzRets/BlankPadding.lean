import EzRets.DateTimes
import EzRets.IntegerValues

/-!
# EzRets.BlankPadding — a value and the same value between blanks

Each typed worker meets blanks in its own way: the dates and times are searched for, the casts fail
on a blank, the numeric worker trims, and the bit worker compares the whole text with `"0"`.
-/

namespace EzRets

/-! ## Readers and appended blanks -/

section Append

variable {β γ : Type} {c : Char}

/-- A reader that takes one of some texts without `c` takes the same in front of a `c`. -/
theorem append_of_takes {p : Str → Option (β × Str)} {D : β → Str → Prop}
    (hp : ∀ s b rest, p s = some (b, rest) ↔ ∃ d, D b d ∧ s = d ++ rest)
    (hD : ∀ b d, D b d → c ∉ d) (s : Str) :
    p (s ++ [c]) = (p s).map fun r => (r.1, r.2 ++ [c]) := by
  rcases h : p s with _ | ⟨b, rest⟩
  · rcases hc : p (s ++ [c]) with _ | ⟨b, rest⟩
    · rfl
    · obtain ⟨d, hd, hs⟩ := (hp _ _ _).mp hc
      rcases List.eq_nil_or_concat rest with rfl | ⟨rest, c', rfl⟩
      · have hmem : c ∈ d := by
          rw [List.append_nil] at hs
          rw [← hs]
          simp
        exact absurd hmem (hD b d hd)
      · rw [List.concat_eq_append, ← List.append_assoc] at hs
        obtain ⟨hs, -⟩ := List.append_inj' hs rfl
        have htaken := (hp s b rest).mpr ⟨d, hd, hs⟩
        rw [h] at htaken
        cases htaken
  · obtain ⟨d, hd, rfl⟩ := (hp _ _ _).mp h
    exact (hp _ _ _).mpr ⟨d, hd, by simp⟩

theorem matchChar_append {c' : Char} (h : c ≠ c') (s : Str) :
    matchChar c' (s ++ [c]) = (matchChar c' s).map (· ++ [c]) := by
  rcases s with _ | ⟨a, s⟩
  · exact if_neg h
  · show (if a = c' then some (s ++ [c]) else none) = (if a = c' then some s else none).map _
    split_ifs <;> rfl

/-- Among digits there is no blank. -/
theorem IsDigitRun.not_mem {n : Nat} {d : Str} (h : IsDigitRun n d) (hc : isSpace c = true) :
    c ∉ d := by
  intro hmem
  exact Bool.false_ne_true ((isSpace_of_isDigit (h.digits c hmem)).symm.trans hc)

theorem matchDigits_concat (n : Nat) (hc : isSpace c = true) (s : Str) :
    matchDigits n (s ++ [c]) = (matchDigits n s).map fun r => (r.1, r.2 ++ [c]) := by
  refine append_of_takes (D := fun v d => IsDigitRun n d ∧ v = digitsValue d)
    (fun s v rest => ⟨fun h => ?_, ?_⟩) (fun v d hd => hd.1.not_mem hc) s
  · obtain ⟨d, hrun, hs, hv⟩ := matchDigits_eq_some h
    exact ⟨d, ⟨hrun, hv⟩, hs⟩
  · rintro ⟨d, ⟨hrun, rfl⟩, rfl⟩
    exact matchDigits_append hrun rest

namespace Triple

variable {n : Nat} {sep : Char}

theorem not_mem_text (d : Triple n sep) (hsep : isSpace sep = false) (hc : isSpace c = true) :
    c ∉ d.text := by
  have hne : c ≠ sep := by
    rintro rfl
    exact Bool.false_ne_true (hsep.symm.trans hc)
  unfold text
  simp only [List.mem_append, List.mem_cons, not_or]
  exact ⟨d.first_run.not_mem hc, hne, d.second_run.not_mem hc, hne, d.third_run.not_mem hc⟩

theorem pattern_concat (hsep : isSpace sep = false) (hc : isSpace c = true) (s : Str) :
    pattern n sep (s ++ [c]) = (pattern n sep s).map fun r => (r.1, r.2 ++ [c]) := by
  refine append_of_takes (D := fun v d => ∃ d' : Triple n sep, d = d'.text ∧ v = d'.value)
    (fun s v rest => ⟨fun h => ?_, ?_⟩) ?_ s
  · obtain ⟨d, hs, hv⟩ := of_pattern h
    exact ⟨d.text, ⟨d, rfl, hv⟩, hs⟩
  · rintro ⟨_, ⟨d, rfl, rfl⟩, rfl⟩
    exact d.pattern_text rest
  · rintro v _ ⟨d, rfl, -⟩
    exact d.not_mem_text hsep hc

end Triple

end Append

/-! ## Searches in a padded text -/

/-- A pattern that starts at no blank and of which blanks behind the match change nothing. -/
structure IgnoresBlanks {β γ : Type} (p : Str → Option β) (f : β → γ) : Prop where
  cons : ∀ c s, isSpace c = true → p (c :: s) = none
  concat : ∀ c s, isSpace c = true → (p (s ++ [c])).map f = (p s).map f

namespace IgnoresBlanks

variable {β γ : Type} {p : Str → Option β} {f : β → γ}

theorem search_append_left (h : IgnoresBlanks p f) {before : Str}
    (hbefore : ∀ c ∈ before, isSpace c = true) (s : Str) :
    search p (before ++ s) = search p s := by
  induction before with
  | nil => rfl
  | cons c before ih =>
    rw [List.cons_append, search_cons_of_none (h.cons c _ (hbefore c List.mem_cons_self))]
    exact ih fun c' hc' => hbefore c' (List.mem_cons_of_mem _ hc')

theorem search_concat (h : IgnoresBlanks p f) {c : Char} (hc : isSpace c = true) (s : Str) :
    (search p (s ++ [c])).map f = (search p s).map f := by
  induction s with
  | nil =>
    rw [List.nil_append, search_cons_of_none (h.cons c [] hc)]
  | cons a s ih =>
    have hfirst := h.concat c (a :: s) hc
    rw [List.cons_append] at hfirst ⊢
    rcases hp : p (a :: s) with _ | b
    · rw [hp, Option.map_none, Option.map_eq_none_iff] at hfirst
      rw [search_cons_of_none hp, search_cons_of_none hfirst, ih]
    · rw [hp] at hfirst
      obtain ⟨b', hb', -⟩ := Option.map_eq_some_iff.mp hfirst
      rw [search_of_match hp, search_of_match hb', ← hb', hfirst]

theorem search_append_right (h : IgnoresBlanks p f) {after : Str}
    (hafter : ∀ c ∈ after, isSpace c = true) (s : Str) :
    (search p (s ++ after)).map f = (search p s).map f := by
  induction after generalizing s with
  | nil => rw [List.append_nil]
  | cons c after ih =>
    rw [List.append_cons, ih (fun c' hc' => hafter c' (List.mem_cons_of_mem _ hc')),
      h.search_concat (hafter c List.mem_cons_self)]

/-- **What is found does not depend on the padding.** -/
theorem search_trim (h : IgnoresBlanks p f) (s : Str) :
    (search p s).map f = (search p (trim s)).map f := by
  obtain ⟨before, after, hs, hbefore, hafter, -, -⟩ := exists_trim s
  conv_lhs => rw [hs]
  rw [h.search_append_right hafter, h.search_append_left hbefore]

end IgnoresBlanks

theorem matchDigits_cons_blank {n : Nat} (hn : n ≠ 0) {c : Char} (hc : isSpace c = true) (s : Str) :
    matchDigits n (c :: s) = none := by
  rcases h : matchDigits n (c :: s) with _ | ⟨v, rest⟩
  · rfl
  · obtain ⟨d, hrun, hs, -⟩ := matchDigits_eq_some h
    rcases d with _ | ⟨c', d⟩
    · exact absurd hrun.length.symm hn
    · obtain ⟨rfl, -⟩ := List.cons.inj hs
      exact absurd List.mem_cons_self (hrun.not_mem hc)

theorem ignoresBlanks_pattern {n : Nat} (hn : n ≠ 0) {sep : Char} (hsep : isSpace sep = false) :
    IgnoresBlanks (Triple.pattern n sep) Prod.fst where
  cons c s hc := by
    unfold Triple.pattern
    rw [matchDigits_cons_blank hn hc]
    rfl
  concat c s hc := by
    rw [Triple.pattern_concat hsep hc, Option.map_map]
    rfl

theorem matchFraction_concat {c : Char} (hc : isSpace c = true) (s : Str) :
    matchFraction (s ++ [c]) = matchFraction s := by
  have hne : c ≠ '.' := by
    rintro rfl
    exact absurd hc (by decide)
  unfold matchFraction
  rw [matchChar_append hne]
  rcases matchChar '.' s with _ | s'
  · rfl
  · rw [Option.map_some, Option.bind_some, Option.bind_some, matchDigits_concat 3 hc,
      Option.map_map]
    rfl

theorem skipDateTimeSeparator_concat {c : Char} (hc : isSpace c = true) {s : Str} (hs : s ≠ []) :
    skipDateTimeSeparator (s ++ [c]) = skipDateTimeSeparator s ++ [c] := by
  have hne : c ≠ 'T' := by
    rintro rfl
    exact absurd hc (by decide)
  have hT : ∀ s : Str, (matchChar 'T' (s ++ [c])).getD (s ++ [c]) =
      (matchChar 'T' s).getD s ++ [c] := by
    intro s
    rw [matchChar_append hne]
    rcases matchChar 'T' s with _ | s' <;> rfl
  obtain ⟨a, s, rfl⟩ := List.exists_cons_of_ne_nil hs
  unfold skipDateTimeSeparator
  rw [List.cons_append]
  dsimp only
  split_ifs
  · exact hT s
  · exact hT (a :: s)

/-- The time behind a date, its rest aside. -/
theorem matchTime_skip_concat {c : Char} (hc : isSpace c = true) (s : Str) :
    matchTime (skipDateTimeSeparator (s ++ [c])) =
      (matchTime (skipDateTimeSeparator s)).map fun r => (r.1, r.2 ++ [c]) := by
  rcases s with _ | ⟨a, s⟩
  · have hskip : skipDateTimeSeparator ([] ++ [c]) = [] := by
      unfold skipDateTimeSeparator
      rw [List.nil_append]
      dsimp only
      rw [if_pos hc]
      rfl
    rw [hskip]
    rfl
  · rw [skipDateTimeSeparator_concat hc (List.cons_ne_nil a s), matchTime_eq_pattern]
    exact Triple.pattern_concat (by decide) hc _

theorem ignoresBlanks_matchTimestamp : IgnoresBlanks matchTimestamp id where
  cons c s hc := by
    unfold matchTimestamp
    rw [matchDate_eq_pattern, (ignoresBlanks_pattern (by decide) (by decide)).cons c s hc]
    rfl
  concat c s hc := by
    rw [Option.map_id, id, id]
    unfold matchTimestamp
    rw [matchDate_eq_pattern, Triple.pattern_concat (by decide) hc]
    rcases Triple.pattern 4 '-' s with _ | ⟨date, s'⟩
    · rfl
    · rw [Option.map_some]
      show some (date, _) = some (date, _)
      rw [matchTime_skip_concat hc, Option.map_map]
      rcases matchTime (skipDateTimeSeparator s') with _ | ⟨time, s''⟩
      · rfl
      · show some (date, some (time, matchFraction (s'' ++ [c]))) = _
        rw [matchFraction_concat hc]
        rfl

/-! ## Casts of padded texts -/

namespace IntegerText

theorem isSpace_of_mem_text (d : IntegerText) {c : Char} (h : c ∈ d.text) : isSpace c = false := by
  rcases List.mem_append.mp h with h | h
  · rcases d.sign_eq c (Option.mem_toList.mp h) with rfl | rfl <;> decide
  · exact isSpace_of_isDigit ((isDigits_iff.mp d.isDigits).2 c h)

theorem trim_text (d : IntegerText) : trim d.text = d.text :=
  trim_eq_self fun _ hc => d.isSpace_of_mem_text hc

end IntegerText

/-- A cast that succeeds has seen no blank. -/
theorem trim_of_lexicalCastSigned {bits : Nat} {s : Str} {n : Int}
    (h : lexicalCastSigned bits s = some n) : trim s = s := by
  obtain ⟨d, rfl⟩ := IntegerText.exists_of_lexicalCastSigned h
  exact d.trim_text

theorem trim_of_lexicalCastUnsigned {bits n : Nat} {s : Str}
    (h : lexicalCastUnsigned bits s = some n) : trim s = s := by
  obtain ⟨d, rfl⟩ := IntegerText.exists_of_lexicalCastUnsigned h
  exact d.trim_text

/-! ## The workers -/

namespace TranslationWorker

/-- The workers of the types other than text, binary data and floating point numbers. -/
def isTyped : TranslationWorker → Bool
  | .decimal | .character | .double | .binary => false
  | _ => true

/-- Where the padded text is converted, the outcome is that of the text without the padding. -/
def PaddingHarmless (w : TranslationWorker) (s : Str) : Prop :=
  ∀ t : Target, (w.translate s t).thrown = none → w.translate (trim s) t = w.translate s t

variable {w : TranslationWorker} {s : Str}

/-- Blanks alone are an SQL `NULL` either way; otherwise it is enough to look at the conversion. -/
theorem paddingHarmless_of_convert {convert : Str → Target → Translated}
    (hw : ∀ s t, w.translate s t = if isBlank s then t.null else convert s t)
    (h : ∀ t, (convert s t).thrown = none → convert (trim s) t = convert s t) :
    PaddingHarmless w s := by
  intro t hthrown
  rw [hw] at hthrown
  rw [hw, hw, isBlank_trim]
  split_ifs at hthrown ⊢
  · rfl
  · exact h t hthrown

theorem paddingHarmless_of_cast {α : Type} {value : Str → Option α} {toValue : α → CValue}
    {size : Int}
    (hw : ∀ s t, w.translate s t =
      if isBlank s then t.null else t.storeCast (value s) toValue size)
    (hvalue : ∀ v, value s = some v → trim s = s) : PaddingHarmless w s := by
  refine paddingHarmless_of_convert hw fun t hthrown => ?_
  rcases hs : value s with _ | v
  · rw [hs] at hthrown
    cases hthrown
  · rw [hvalue v hs, hs]

theorem paddingHarmless_tiny : PaddingHarmless .tiny s := by
  refine paddingHarmless_of_convert (fun _ _ => rfl) fun t hthrown => ?_
  rcases hs : lexicalCastSigned 32 s with _ | n
  · rw [hs] at hthrown
    cases hthrown
  · rw [trim_of_lexicalCastSigned hs, hs]

/-- What is found in the padded text is found in the trimmed one. -/
theorem search_eq_some_of_trim {β γ : Type} {p : Str → Option β} {f : β → γ}
    (h : IgnoresBlanks p f) {b : β} (hs : search p s = some b) :
    ∃ b', search p (trim s) = some b' ∧ f b' = f b := by
  have htrim := h.search_trim s
  rw [hs, Option.map_some] at htrim
  exact Option.map_eq_some_iff.mp htrim.symm

theorem paddingHarmless_date : PaddingHarmless .date s := by
  refine paddingHarmless_of_convert (fun _ _ => rfl) fun t hthrown => ?_
  rcases hs : search matchDate s with _ | ⟨date, rest⟩
  · rw [hs] at hthrown
    cases hthrown
  · obtain ⟨⟨date', rest'⟩, htrim, hdate⟩ :=
      search_eq_some_of_trim (ignoresBlanks_pattern (by decide) (by decide)) hs
    obtain rfl : date' = date := hdate
    rw [← matchDate_eq_pattern] at htrim
    rw [htrim]

theorem paddingHarmless_time : PaddingHarmless .time s := by
  refine paddingHarmless_of_convert (fun _ _ => rfl) fun t hthrown => ?_
  rcases hs : search matchTime s with _ | ⟨time, rest⟩
  · rw [hs] at hthrown
    cases hthrown
  · obtain ⟨⟨time', rest'⟩, htrim, htime⟩ :=
      search_eq_some_of_trim (ignoresBlanks_pattern (by decide) (by decide)) hs
    obtain rfl : time' = time := htime
    rw [← matchTime_eq_pattern] at htrim
    rw [htrim]

theorem paddingHarmless_timestamp : PaddingHarmless .timestamp s := by
  refine paddingHarmless_of_convert (fun _ _ => rfl) fun t hthrown => ?_
  rcases hs : search matchTimestamp s with _ | timestamp
  · rw [hs] at hthrown
    cases hthrown
  · obtain ⟨timestamp', htrim, htimestamp⟩ :=
      search_eq_some_of_trim ignoresBlanks_matchTimestamp hs
    obtain rfl : timestamp' = timestamp := htimestamp
    rw [htrim]

/-- The numeric worker trims. -/
theorem translateNumericOn_trim (order : ByteOrder) {s : Str} {t : Target}
    (h : (translateNumericOn order s t).thrown = none) :
    translateNumericOn order (trim s) t = translateNumericOn order s t := by
  unfold translateNumericOn at h ⊢
  rw [trim_trim]
  extract_lets _ _ body _ _ _ _ at h
  extract_lets
  split_ifs at h ⊢
  · rfl
  · cases h
  · rcases hcast : lexicalCastUnsigned 64 (body.filter (· ≠ '.')) with _ | intvalue
    · rw [hcast] at h
      cases h
    · rfl

/-- The bit worker is off exactly for a padded `"0"`. -/
theorem paddingHarmless_bit_iff :
    PaddingHarmless .bit s ↔ (trim s = "0".toList → s = "0".toList) := by
  have hbit : ∀ s t, TranslationWorker.bit.translate s t = translateBit s t := fun _ _ => rfl
  constructor
  · intro h hzero
    have hblank : isBlank s = false := by
      rw [isBlank_eq_isEmpty_trim, hzero]
      rfl
    by_contra hne
    have hpadded : translateBit s ⟨1, 1, 0, none⟩ =
        Target.stores ⟨1, 1, 0, none⟩ [⟨1, .byte 1⟩] := by
      unfold translateBit
      rw [hblank, if_neg Bool.false_ne_true, if_neg hne]
      rfl
    have hthrown : (TranslationWorker.bit.translate s ⟨1, 1, 0, none⟩).thrown = none := by
      rw [hbit, hpadded]
      rfl
    have hsame := congrArg Translated.writes (h _ hthrown)
    rw [hbit, hbit, hpadded, hzero] at hsame
    exact absurd hsame (by decide)
  · intro h
    refine paddingHarmless_of_convert (fun _ _ => rfl) fun t _ => ?_
    have hvalue : trim s = "0".toList ↔ s = "0".toList := by
      refine ⟨h, ?_⟩
      rintro rfl
      decide
    simp only [hvalue]

/-- **Blanks around a value never change it**, for any typed worker but the one of bits, and there
for every text but a padded `"0"`. -/
theorem paddingHarmless_iff (hw : w.isTyped = true) (s : Str) :
    PaddingHarmless w s ↔ ¬ (w = .bit ∧ trim s = "0".toList ∧ s ≠ "0".toList) := by
  have hother : w ≠ .bit → PaddingHarmless w s →
      (PaddingHarmless w s ↔ ¬ (w = .bit ∧ trim s = "0".toList ∧ s ≠ "0".toList)) := by
    intro hne h
    exact iff_of_true h fun hbit => hne hbit.1
  rcases w
  case bit =>
    rw [paddingHarmless_bit_iff]
    tauto
  case date => exact hother (by decide) paddingHarmless_date
  case time => exact hother (by decide) paddingHarmless_time
  case timestamp => exact hother (by decide) paddingHarmless_timestamp
  case tiny => exact hother (by decide) paddingHarmless_tiny
  case smallInt =>
    exact hother (by decide)
      (paddingHarmless_of_cast (fun _ _ => rfl) fun _ => trim_of_lexicalCastSigned)
  case int =>
    exact hother (by decide)
      (paddingHarmless_of_cast (fun _ _ => rfl) fun _ => trim_of_lexicalCastSigned)
  case bigInt =>
    exact hother (by decide)
      (paddingHarmless_of_cast (fun _ _ => rfl) fun _ => trim_of_lexicalCastSigned)
  case uLong =>
    exact hother (by decide)
      (paddingHarmless_of_cast (fun _ _ => rfl) fun _ => trim_of_lexicalCastUnsigned)
  case uShort =>
    exact hother (by decide)
      (paddingHarmless_of_cast (fun _ _ => rfl) fun _ => trim_of_lexicalCastUnsigned)
  case numeric => exact hother (by decide) fun _ hthrown => translateNumericOn_trim .little hthrown
  all_goals cases hw

theorem paddingHarmless_paddedInt :
    PaddingHarmless .int " 5".toList ↔ ¬ (TranslationWorker.int = .bit ∧
      trim " 5".toList = "0".toList ∧ " 5".toList ≠ "0".toList) :=
  paddingHarmless_iff rfl " 5".toList

/-- A padded zero is read as true. -/
theorem not_paddingHarmless_zero : ¬ PaddingHarmless .bit " 0".toList := by
  intro h
  have hsame := congrArg Translated.writes (h ⟨1, 1, 0, none⟩ (by decide))
  exact absurd hsame (by decide)

end TranslationWorker

end EzRets
