import EzRets.IntegerValues
import EzRets.NumericValue

/-!
# EzRets.NumericGrammar — which texts become a `SQL_NUMERIC_STRUCT`

The numeric worker strips one `'-'`, counts the characters behind the first point, erases all points
and leaves the rest to a cast that takes a sign of its own.  Every decimal number of a fitting size
gets through, and so do some texts that are none.
-/

namespace EzRets

/-! ## Decimal numbers -/

/-- An optional sign and digits with at most one point, at least one digit. -/
structure IsDecimal (s : Str) : Prop where
  exists_parts : ∃ sign int point frac : Str, s = sign ++ (int ++ (point ++ frac)) ∧
    (sign = [] ∨ sign = ['-'] ∨ sign = ['+']) ∧ (point = [] ∨ point = ['.']) ∧
    isDigits (int ++ frac) = true

/-- What follows the first point. -/
def behindPoint (s : Str) : Str := (s.dropWhile (· ≠ '.')).drop 1

/-- A text without the `'-'` that it may begin with. -/
def withoutMinus (s : Str) : Str := if s.head? = some '-' then s.drop 1 else s

/-- With its points erased the rest of the text is an integer in range. -/
structure ReadsAsInteger (s : Str) (d : IntegerText) : Prop where
  filter_eq : (withoutMinus s).filter (· ≠ '.') = d.text
  decimals_lt : (behindPoint (withoutMinus s)).length < 128
  digits_lt : digitsValue d.digits < 2 ^ 64

/-- The text has two points, or a sign behind another one or behind the point. -/
def IsReassembled (s : Str) : Prop :=
  ∃ d, ReadsAsInteger s d ∧ (2 ≤ (withoutMinus s).count '.' ∨
    (d.sign ≠ none ∧ (s.head? = some '-' ∨ (withoutMinus s).head? = some '.')))

/-! ### Texts with at most one point -/

theorem count_point_of_digits {s : Str} (h : ∀ c ∈ s, c.isDigit = true) : s.count '.' = 0 := by
  refine List.count_eq_zero.mpr fun hmem => ?_
  exact absurd (h _ hmem) (by decide)

/-- The digits around the point are what is left without it. -/
theorem filter_point {int point frac : Str} (hpoint : point = [] ∨ point = ['.'])
    (hdigits : isDigits (int ++ frac) = true) :
    (int ++ (point ++ frac)).filter (· ≠ '.') = int ++ frac := by
  have hall := (isDigits_iff.mp hdigits).2
  have hint := filter_point_of_digits fun c hc => hall c (List.mem_append_left frac hc)
  have hfrac := filter_point_of_digits fun c hc => hall c (List.mem_append_right int hc)
  rw [List.filter_append, List.filter_append, hint, hfrac]
  rcases hpoint with rfl | rfl <;> rfl

theorem count_point_le {int point frac : Str} (hpoint : point = [] ∨ point = ['.'])
    (hdigits : isDigits (int ++ frac) = true) : (int ++ (point ++ frac)).count '.' ≤ 1 := by
  have hall := (isDigits_iff.mp hdigits).2
  have hint := count_point_of_digits fun c hc => hall c (List.mem_append_left frac hc)
  have hfrac := count_point_of_digits fun c hc => hall c (List.mem_append_right int hc)
  rw [List.count_append, List.count_append, hint, hfrac]
  rcases hpoint with rfl | rfl <;> decide

/-- A text with at most one point is split at it. -/
theorem exists_point {s : Str} (h : s.count '.' ≤ 1) :
    ∃ int point frac : Str, s = int ++ (point ++ frac) ∧ (point = [] ∨ point = ['.']) ∧
      s.filter (· ≠ '.') = int ++ frac := by
  have hself : ∀ {s : Str}, s.count '.' = 0 → s.filter (· ≠ '.') = s := by
    intro s hs
    refine List.filter_eq_self.mpr fun c hc => ?_
    rw [decide_eq_true_iff]
    rintro rfl
    exact List.count_eq_zero.mp hs hc
  by_cases hmem : '.' ∈ s
  · obtain ⟨int, frac, rfl⟩ := List.append_of_mem hmem
    rw [List.count_append, List.count_cons_self] at h
    refine ⟨int, ['.'], frac, rfl, .inr rfl, ?_⟩
    rw [List.filter_append, hself (by omega), List.filter_cons_of_neg (by simp), hself (by omega)]
  · refine ⟨s, [], [], by simp, .inl rfl, ?_⟩
    rw [List.append_nil]
    exact hself (List.count_eq_zero.mpr hmem)

/-! ### Decimal numbers among the texts that read as an integer -/

theorem IntegerText.text_ne_nil (d : IntegerText) : d.text ≠ [] := by
  intro h
  obtain ⟨-, hdigits⟩ := List.append_eq_nil_iff.mp h
  exact (isDigits_iff.mp d.isDigits).1 hdigits

/-- Digits are read without a sign. -/
theorem IntegerText.sign_eq_none {d : IntegerText} {s : Str} (hs : EzRets.isDigits s = true)
    (h : s = d.text) : d.sign = none := by
  rcases hsign : d.sign with _ | c
  · rfl
  · have hc : c.isDigit = true := by
      refine (isDigits_iff.mp hs).2 c ?_
      rw [h]
      unfold IntegerText.text
      rw [hsign]
      exact List.mem_cons_self
    rcases d.sign_eq c hsign with rfl | rfl
    · exact absurd hc (by decide)
    · exact absurd hc (by decide)

theorem withoutMinus_of_head {s : Str} (h : s.head? ≠ some '-') : withoutMinus s = s := if_neg h

/-- The text is `'-'` and the rest, or begins otherwise. -/
theorem eq_or_withoutMinus (s : Str) :
    s = '-' :: withoutMinus s ∨ s.head? ≠ some '-' ∧ withoutMinus s = s := by
  by_cases h : s.head? = some '-'
  · rcases s with _ | ⟨c, s⟩
    · cases h
    · obtain rfl := Option.some.inj h
      exact .inl rfl
  · exact .inr ⟨h, withoutMinus_of_head h⟩

/-- A decimal number is not reassembled from other parts. -/
theorem IsDecimal.of_readsAsInteger {s : Str} {d : IntegerText} (h : IsDecimal s)
    (hd : ReadsAsInteger s d) :
    (withoutMinus s).count '.' ≤ 1 ∧
      (d.sign = none ∨ s.head? ≠ some '-' ∧ (withoutMinus s).head? ≠ some '.') := by
  obtain ⟨sign, int, point, frac, rfl, hsign, hpoint, hdigits⟩ := h.exists_parts
  have hfilter := filter_point hpoint hdigits
  have hcount := count_point_le hpoint hdigits
  have hread := hd.filter_eq
  rcases hsign with rfl | rfl | rfl
  · have hhead : (int ++ (point ++ frac)).head? ≠ some '-' := by
      intro hhead
      have hmem : '-' ∈ (int ++ (point ++ frac)).filter (· ≠ '.') :=
        List.mem_filter.mpr ⟨List.mem_of_mem_head? hhead, by decide⟩
      rw [hfilter] at hmem
      exact absurd ((isDigits_iff.mp hdigits).2 _ hmem) (by decide)
    rw [List.nil_append] at hread ⊢
    rw [withoutMinus_of_head hhead] at hread ⊢
    rw [hfilter] at hread
    exact ⟨hcount, .inl (IntegerText.sign_eq_none hdigits hread)⟩
  · have hrest : withoutMinus (['-'] ++ (int ++ (point ++ frac))) = int ++ (point ++ frac) := rfl
    rw [hrest] at hread ⊢
    rw [hfilter] at hread
    exact ⟨hcount, .inl (IntegerText.sign_eq_none hdigits hread)⟩
  · have hrest : withoutMinus (['+'] ++ (int ++ (point ++ frac))) =
        '+' :: (int ++ (point ++ frac)) := rfl
    rw [hrest, List.count_cons_of_ne (by decide)]
    refine ⟨hcount, .inr ⟨?_, ?_⟩⟩
    · exact fun h => absurd (Option.some.inj h) (by decide)
    · exact fun h => absurd (Option.some.inj h) (by decide)

/-- A sign that neither the worker nor the point has put to the front is the one of the text. -/
theorem ReadsAsInteger.eq_plus_cons {s : Str} {d : IntegerText} (hd : ReadsAsInteger s d)
    (hsign : d.sign ≠ none) (hminus : s.head? ≠ some '-')
    (hpoint : (withoutMinus s).head? ≠ some '.') :
    ∃ rest, s = '+' :: rest ∧ rest.filter (· ≠ '.') = d.digits := by
  have hread := hd.filter_eq
  rw [withoutMinus_of_head hminus] at hread hpoint
  rcases s with _ | ⟨c, rest⟩
  · exact absurd hread.symm d.text_ne_nil
  · have hc : c ≠ '.' := fun h => hpoint (congrArg some h)
    obtain ⟨sign, hs⟩ := Option.ne_none_iff_exists'.mp hsign
    unfold IntegerText.text at hread
    rw [hs, List.filter_cons_of_pos (by simpa using hc)] at hread
    obtain ⟨rfl, hrest⟩ := List.cons.inj hread
    rcases d.sign_eq _ hs with rfl | rfl
    · exact absurd rfl hminus
    · exact ⟨rest, rfl, hrest⟩

/-- **Otherwise the text is a decimal number.** -/
theorem ReadsAsInteger.isDecimal {s : Str} {d : IntegerText} (hd : ReadsAsInteger s d)
    (hcount : (withoutMinus s).count '.' ≤ 1)
    (hsign : d.sign = none ∨ s.head? ≠ some '-' ∧ (withoutMinus s).head? ≠ some '.') :
    IsDecimal s := by
  have hread := hd.filter_eq
  by_cases hnone : d.sign = none
  · obtain ⟨int, point, frac, hparts, hpoint, hfilter⟩ := exists_point hcount
    have hdigits : isDigits (int ++ frac) = true := by
      rw [← hfilter, hread]
      unfold IntegerText.text
      rw [hnone]
      exact d.isDigits
    rcases eq_or_withoutMinus s with h | ⟨-, h⟩
    · exact ⟨['-'], int, point, frac, by rw [h, hparts]; rfl, .inr (.inl rfl), hpoint, hdigits⟩
    · exact ⟨[], int, point, frac, by rw [← h, hparts]; rfl, .inl rfl, hpoint, hdigits⟩
  · obtain ⟨hminus, hhead⟩ := hsign.resolve_left hnone
    obtain ⟨rest, rfl, hrest⟩ := hd.eq_plus_cons hnone hminus hhead
    rw [withoutMinus_of_head hminus, List.count_cons_of_ne (by decide)] at hcount
    obtain ⟨int, point, frac, rfl, hpoint, hfilter⟩ := exists_point hcount
    have hdigits : isDigits (int ++ frac) = true := by
      rw [← hfilter, hrest]
      exact d.isDigits
    exact ⟨['+'], int, point, frac, rfl, .inr (.inr rfl), hpoint, hdigits⟩

/-! ## What the worker accepts -/

theorem length_behindPoint (s : Str) :
    (if s.findIdx (· = '.') = s.length then 0 else s.length - s.findIdx (· = '.') - 1) =
      (behindPoint s).length := by
  have hdrop : s.dropWhile (· ≠ '.') = s.drop (s.findIdx (· = '.')) := by
    rw [List.dropWhile_eq_drop_findIdx_not]
    congr 2
    funext c
    simp
  unfold behindPoint
  rw [hdrop, List.length_drop, List.length_drop]
  split_ifs with h
  · omega
  · rfl

namespace TranslationWorker

/-- The exception of the worker, where there is something to convert. -/
theorem thrown_translateNumericOn_eq (order : ByteOrder) {s : Str} (t : Target)
    (h : trim s ≠ []) :
    (translateNumericOn order s t).thrown =
      if (behindPoint (withoutMinus (trim s))).length < 128 ∧
        (lexicalCastUnsigned 64 ((withoutMinus (trim s)).filter (· ≠ '.'))).isSome = true then none
      else some (numericBadCast s) := by
  have hempty : ¬ (trim s).isEmpty = true := by simpa using h
  unfold translateNumericOn
  dsimp only
  rw [if_neg hempty]
  have hbody : (if (trim s).head? = some '-' then (trim s).drop 1 else trim s) =
      withoutMinus (trim s) := rfl
  rw [hbody, length_behindPoint]
  generalize behindPoint (withoutMinus (trim s)) = decimals
  generalize (withoutMinus (trim s)).filter (· ≠ '.') = digits
  by_cases hscale : decimals.length ≥ 128
  · have hrefused : ¬ (decimals.length < 128 ∧ (lexicalCastUnsigned 64 digits).isSome = true) := by
      omega
    rw [if_pos hscale, if_neg hrefused]
    rfl
  · rw [if_neg hscale]
    rcases lexicalCastUnsigned 64 digits with _ | intvalue
    · have hrefused : ¬ (decimals.length < 128 ∧ (none : Option Nat).isSome = true) := by simp
      rw [if_neg hrefused]
      rfl
    · have haccepted : decimals.length < 128 ∧ (some intvalue).isSome = true := ⟨by omega, rfl⟩
      rw [if_pos haccepted]
      rfl

/-- **The worker accepts a text** that reads as an integer without its points. -/
theorem thrown_translateNumericOn_iff (order : ByteOrder) {s : Str} (t : Target)
    (h : trim s ≠ []) :
    (translateNumericOn order s t).thrown = none ↔ ∃ d, ReadsAsInteger (trim s) d := by
  rw [thrown_translateNumericOn_eq order t h]
  constructor
  · intro hnone
    split_ifs at hnone with haccepted
    obtain ⟨d, htext, hlt⟩ := IntegerText.lexicalCastUnsigned_isSome_iff.mp haccepted.2
    exact ⟨d, htext, haccepted.1, hlt⟩
  · rintro ⟨d, hd⟩
    exact if_pos ⟨hd.decimals_lt,
      IntegerText.lexicalCastUnsigned_isSome_iff.mpr ⟨d, hd.filter_eq, hd.digits_lt⟩⟩

/-- A text that is neither blank nor a decimal number is refused. -/
def RejectsMalformed (order : ByteOrder) (s : Str) : Prop :=
  ∀ t : Target, trim s ≠ [] → ¬ IsDecimal (trim s) →
    ∃ what, (translateNumericOn order s t).thrown = some (.dataTranslation what)

/-- **The worker refuses every text that is no decimal number**, but for those that become an
integer when their points and one sign are taken away. -/
theorem rejectsMalformed_iff (order : ByteOrder) (s : Str) :
    RejectsMalformed order s ↔ ¬ IsReassembled (trim s) := by
  constructor
  · rintro h ⟨d, hd, hmalformed⟩
    have hne : trim s ≠ [] := by
      intro hnil
      rw [hnil] at hd
      exact d.text_ne_nil hd.filter_eq.symm
    have haccepted := (thrown_translateNumericOn_iff order ⟨1, 19, 0, none⟩ hne).mpr ⟨d, hd⟩
    by_cases hdecimal : IsDecimal (trim s)
    · obtain ⟨hcount, hsign⟩ := hdecimal.of_readsAsInteger hd
      rcases hmalformed with htwo | ⟨hsome, hfront⟩
      · omega
      · obtain ⟨hminus, hhead⟩ := hsign.resolve_left hsome
        rcases hfront with hfront | hfront
        · exact hminus hfront
        · exact hhead hfront
    · obtain ⟨what, hthrown⟩ := h _ hne hdecimal
      rw [haccepted] at hthrown
      cases hthrown
  · intro h t hne hmalformed
    have hrefused : ¬ (translateNumericOn order s t).thrown = none := by
      intro haccepted
      obtain ⟨d, hd⟩ := (thrown_translateNumericOn_iff order t hne).mp haccepted
      refine h ⟨d, hd, ?_⟩
      by_contra hparts
      push Not at hparts
      refine hmalformed (hd.isDecimal (by omega) ?_)
      by_cases hnone : d.sign = none
      · exact .inl hnone
      · exact .inr (hparts.2 hnone)
    rw [thrown_translateNumericOn_eq order t hne] at hrefused ⊢
    split_ifs at hrefused ⊢
    · exact absurd rfl hrefused
    · exact ⟨_, rfl⟩

/-- Two points make 123 thousandths. -/
theorem not_rejectsMalformed_twoPoints : ¬ RejectsMalformed .little "1.2.3".toList := by
  intro h
  have hdecimal : ¬ IsDecimal (trim "1.2.3".toList) := by
    rintro ⟨sign, int, point, frac, hs, hsign, hpoint, hdigits⟩
    have hle := count_point_le hpoint hdigits
    have htwo : (sign ++ (int ++ (point ++ frac))).count '.' = 2 := by
      rw [← hs]
      decide
    rw [List.count_append] at htwo
    rcases hsign with rfl | rfl | rfl
    · rw [List.count_nil] at htwo
      omega
    · have hzero : ['-'].count '.' = 0 := by decide
      omega
    · have hzero : ['+'].count '.' = 0 := by decide
      omega
  obtain ⟨what, hthrown⟩ := h ⟨1, 19, 0, none⟩ (by decide) hdecimal
  have haccepted : (translateNumericOn .little "1.2.3".toList ⟨1, 19, 0, none⟩).thrown = none := by
    decide
  rw [haccepted] at hthrown
  cases hthrown

end TranslationWorker

end EzRets
