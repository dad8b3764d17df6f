import EzRets.Odbc
import Mathlib.Data.List.TakeWhile

/-!
# EzRets.Lexical — conversions between text and values

What the translation workers use of Boost and of the C++ library: `trim`, `lexical_cast` and the
searches for a date, a time and a timestamp in a text.
-/

namespace EzRets

/-- `isspace` in the C locale. -/
def isSpace (c : Char) : Bool :=
  c = ' ' || c = '\t' || c = '\n' || c = '\x0b' || c = '\x0c' || c = '\r'

/-- `boost::trim_copy`. -/
def trim (s : Str) : Str := ((s.dropWhile isSpace).reverse.dropWhile isSpace).reverse

/-- The test at the start of the typed workers: empty, or nothing but blanks. -/
def isBlank (data : Str) : Bool := data.isEmpty || (trim data).isEmpty

/-- Nothing is dropped where the first character stays. -/
theorem dropWhile_of_head {p : Char → Bool} {s : Str} (h : ∀ c ∈ s.head?, p c = false) :
    s.dropWhile p = s := by
  rcases s with _ | ⟨c, s⟩
  · rfl
  · exact List.dropWhile_cons_of_neg (by simp [h c rfl])

/-- What is left begins with a character that stays. -/
theorem head_dropWhile {p : Char → Bool} (s : Str) :
    ∀ c ∈ (s.dropWhile p).head?, p c = false := by
  intro c hc
  have hhead := List.head?_dropWhile_not p s
  rw [Option.mem_def.mp hc] at hhead
  exact hhead

/-- Blanks around a text without blanks are removed. -/
theorem trim_append {before s after : Str} (hbefore : ∀ c ∈ before, isSpace c = true)
    (hs : ∀ c ∈ s, isSpace c = false) (hafter : ∀ c ∈ after, isSpace c = true) :
    trim (before ++ s ++ after) = s := by
  have hstop : ∀ {s' : Str}, (∀ c ∈ s', isSpace c = false) → s'.dropWhile isSpace = s' :=
    fun hs' => dropWhile_of_head fun c hc => hs' c (List.mem_of_mem_head? hc)
  rcases s with _ | ⟨c, cs⟩
  · have hblank : ∀ c ∈ before ++ after, isSpace c = true := by
      intro c hc
      rcases List.mem_append.mp hc with h | h
      · exact hbefore c h
      · exact hafter c h
    unfold trim
    rw [List.append_nil, List.dropWhile_eq_nil_iff.mpr hblank]
    rfl
  · have hfirst : (c :: cs ++ after).dropWhile isSpace = c :: cs ++ after :=
      List.dropWhile_cons_of_neg (by simp [hs c List.mem_cons_self])
    have hlast : ∀ c' ∈ after.reverse, isSpace c' = true := by
      intro c' hc'
      exact hafter c' (List.mem_reverse.mp hc')
    have hrest : ∀ c' ∈ (c :: cs).reverse, isSpace c' = false := by
      intro c' hc'
      exact hs c' (List.mem_reverse.mp hc')
    unfold trim
    rw [List.append_assoc, List.dropWhile_append_of_pos hbefore, hfirst, List.reverse_append,
      List.dropWhile_append_of_pos hlast, hstop hrest, List.reverse_reverse]

/-- A text with its blanks split off. -/
theorem exists_trim (s : Str) : ∃ before after, s = before ++ trim s ++ after ∧
    (∀ c ∈ before, isSpace c = true) ∧ (∀ c ∈ after, isSpace c = true) ∧
    (∀ c ∈ (trim s).head?, isSpace c = false) ∧ ∀ c ∈ (trim s).getLast?, isSpace c = false := by
  have hsplit := @List.takeWhile_append_dropWhile _ isSpace (s.dropWhile isSpace).reverse
  have hrest : s.dropWhile isSpace =
      trim s ++ ((s.dropWhile isSpace).reverse.takeWhile isSpace).reverse := by
    rw [← List.reverse_inj, List.reverse_append, List.reverse_reverse]
    unfold trim
    rw [List.reverse_reverse]
    exact hsplit.symm
  refine ⟨s.takeWhile isSpace, ((s.dropWhile isSpace).reverse.takeWhile isSpace).reverse,
    ?_, fun c hc => List.mem_takeWhile_imp hc, fun c hc => ?_, fun c hc => ?_, fun c hc => ?_⟩
  · rw [List.append_assoc, ← hrest, List.takeWhile_append_dropWhile]
  · exact List.mem_takeWhile_imp (List.mem_reverse.mp hc)
  · refine head_dropWhile s c ?_
    rw [hrest]
    exact List.mem_head?_append_of_mem_head? hc
  · refine head_dropWhile (s.dropWhile isSpace).reverse c ?_
    unfold trim at hc
    rwa [List.getLast?_reverse] at hc

theorem trim_eq_self_of_ends {s : Str} (hhead : ∀ c ∈ s.head?, isSpace c = false)
    (hlast : ∀ c ∈ s.getLast?, isSpace c = false) : trim s = s := by
  have hreverse : s.reverse.dropWhile isSpace = s.reverse := by
    refine dropWhile_of_head fun c hc => hlast c ?_
    rwa [List.head?_reverse] at hc
  unfold trim
  rw [dropWhile_of_head hhead, hreverse, List.reverse_reverse]

theorem trim_trim (s : Str) : trim (trim s) = trim s := by
  obtain ⟨-, -, -, -, -, hhead, hlast⟩ := exists_trim s
  exact trim_eq_self_of_ends hhead hlast

theorem trim_eq_nil_iff {s : Str} : trim s = [] ↔ ∀ c ∈ s, isSpace c = true := by
  constructor
  · intro h c hc
    obtain ⟨before, after, hs, hbefore, hafter, -, -⟩ := exists_trim s
    rw [hs, h, List.append_nil, List.mem_append] at hc
    rcases hc with hc | hc
    · exact hbefore c hc
    · exact hafter c hc
  · intro h
    unfold trim
    rw [List.dropWhile_eq_nil_iff.mpr h]
    rfl

theorem isBlank_eq_isEmpty_trim (s : Str) : isBlank s = (trim s).isEmpty := by
  rcases s with _ | ⟨c, s⟩ <;> rfl

theorem isBlank_iff {s : Str} : isBlank s = true ↔ ∀ c ∈ s, isSpace c = true := by
  rw [isBlank_eq_isEmpty_trim, List.isEmpty_iff, trim_eq_nil_iff]

theorem isBlank_trim (s : Str) : isBlank (trim s) = isBlank s := by
  rw [isBlank_eq_isEmpty_trim, isBlank_eq_isEmpty_trim, trim_trim]

/-- A text without blanks is not trimmed. -/
theorem trim_eq_self {s : Str} (h : ∀ c ∈ s, isSpace c = false) : trim s = s :=
  trim_eq_self_of_ends (fun c hc => h c (List.mem_of_mem_head? hc))
    fun c hc => h c (List.mem_of_getLast? hc)

theorem isBlank_eq_false {s : Str} {c : Char} (hmem : c ∈ s) (hc : isSpace c = false) :
    isBlank s = false := by
  by_contra h
  have hblank := isBlank_iff.mp (by simpa using h) c hmem
  exact Bool.false_ne_true (hc.symm.trans hblank)

/-- The number that a string of decimal digits denotes. -/
def digitsValue (s : Str) : Nat := s.foldl (fun n c => 10 * n + (c.toNat - '0'.toNat)) 0

/-- A non-empty string of decimal digits. -/
def isDigits (s : Str) : Bool := !s.isEmpty && s.all Char.isDigit

/-- An optional sign, `true` for `'-'`, and the rest. -/
def splitSign : Str → Bool × Str
  | '-' :: s => (true, s)
  | '+' :: s => (false, s)
  | s => (false, s)

/-- `lexical_cast` to a signed integer type of `bits` bits. -/
def lexicalCastSigned (bits : Nat) (s : Str) : Option Int :=
  let (minus, digits) := splitSign s
  if isDigits digits then
    let n := digitsValue digits
    if minus then
      if n ≤ 2 ^ (bits - 1) then some (-n) else none
    else if n < 2 ^ (bits - 1) then some n else none
  else none

/-- `lexical_cast` to an unsigned integer type of `bits` bits; a negated text wraps around. -/
def lexicalCastUnsigned (bits : Nat) (s : Str) : Option Nat :=
  let (minus, digits) := splitSign s
  if isDigits digits then
    let n := digitsValue digits
    if n < 2 ^ bits then some (if minus then (2 ^ bits - n) % 2 ^ bits else n) else none
  else none

/-- `lexical_cast` to a one-byte character type. -/
def lexicalCastChar : Str → Option Char
  | [c] => some c
  | _ => none

/-! ## Floating point texts -/

/-- The digits before and after the point and the exponent of a decimal literal. -/
def splitDouble (s : Str) : Str × Str × Option Str :=
  let int := s.takeWhile Char.isDigit
  let s := s.dropWhile Char.isDigit
  let (frac, s) := match s with
    | '.' :: s => (s.takeWhile Char.isDigit, s.dropWhile Char.isDigit)
    | s => ([], s)
  (int, frac, if s.isEmpty then none else some s)

/-- `mantissa * 10 ^ exponent` rounds to a finite `double`. -/
def isFiniteDouble (mantissa : Nat) (digits : Nat) (exponent : Int) : Bool :=
  let bound := 2 ^ 1024 - 2 ^ 970
  if mantissa = 0 || digits + exponent < 309 then true
  else if digits + exponent > 309 then false
  else if 0 ≤ exponent then mantissa * 10 ^ exponent.toNat < bound
  else mantissa < bound * 10 ^ (-exponent).toNat

/-- The texts that `lexical_cast<double>` accepts. -/
def isDoubleLiteral (s : Str) : Bool :=
  let body := (splitSign s).2
  let lower := body.map Char.toLower
  if lower = "inf".toList || lower = "infinity".toList || lower = "nan".toList then true
  else
    let (int, frac, rest) := splitDouble body
    let mantissa := (int ++ frac).dropWhile (· = '0')
    if (int ++ frac).isEmpty then false
    else
      match rest with
      | none => isFiniteDouble (digitsValue mantissa) mantissa.length (-frac.length)
      | some (e :: s) =>
        let (minus, digits) := splitSign s
        (e = 'e' || e = 'E') && isDigits digits &&
          isFiniteDouble (digitsValue mantissa) mantissa.length
            ((if minus then -(digitsValue digits : Int) else digitsValue digits) - frac.length)
      | some [] => false

/-! ## Dates and times

The patterns are anchored matchers; `search` tries them at every position, from the left, as
`regex_search` does. -/

/-- Exactly `n` digits. -/
def matchDigits (n : Nat) (s : Str) : Option (Nat × Str) :=
  let d := s.take n
  if d.length = n && d.all Char.isDigit then some (digitsValue d, s.drop n) else none

/-- The character `c`. -/
def matchChar (c : Char) : Str → Option Str
  | c' :: s => if c' = c then some s else none
  | [] => none

/-- The first match in the text. -/
def search {β : Type} (pattern : Str → Option β) : Str → Option β
  | [] => pattern []
  | c :: s => (pattern (c :: s)).or (search pattern s)

/-- `(\d{4})-(\d{2})-(\d{2})` and the rest of the text. -/
def matchDate (s : Str) : Option ((Nat × Nat × Nat) × Str) := do
  let (year, s) ← matchDigits 4 s
  let s ← matchChar '-' s
  let (month, s) ← matchDigits 2 s
  let s ← matchChar '-' s
  let (day, s) ← matchDigits 2 s
  return ((year, month, day), s)

/-- `(\d{2}):(\d{2}):(\d{2})` and the rest of the text. -/
def matchTime (s : Str) : Option ((Nat × Nat × Nat) × Str) := do
  let (hour, s) ← matchDigits 2 s
  let s ← matchChar ':' s
  let (minute, s) ← matchDigits 2 s
  let s ← matchChar ':' s
  let (second, s) ← matchDigits 2 s
  return ((hour, minute, second), s)

/-- `(\.(\d{3}))?`. -/
def matchFraction (s : Str) : Nat :=
  (((matchChar '.' s).bind (matchDigits 3)).map Prod.fst).getD 0

/-- What `\s?T?` takes; a digit has to follow, so it never gives anything back. -/
def skipDateTimeSeparator (s : Str) : Str :=
  let s := match s with
    | c :: s' => if isSpace c then s' else s
    | [] => []
  (matchChar 'T' s).getD s

/-- The date and, where a time follows, the time and the fraction. -/
def matchTimestamp (s : Str) :
    Option ((Nat × Nat × Nat) × Option ((Nat × Nat × Nat) × Nat)) := do
  let (date, s) ← matchDate s
  let time := (matchTime (skipDateTimeSeparator s)).map fun (time, s) => (time, matchFraction s)
  return (date, time)

/-! ## Numbers as text -/

/-- `lexical_cast<string>` of an integer. -/
def intText (n : Int) : Str := (toString n).toList

theorem intText_of_nonneg {n : Int} (h : 0 ≤ n) : intText n = Nat.toDigits 10 n.toNat := by
  unfold intText
  rw [Int.toString_eq_repr, Int.repr_eq_if, if_pos h, Nat.toList_repr]

theorem intText_of_neg {n : Int} (h : n < 0) :
    intText n = '-' :: Nat.toDigits 10 (-n).toNat := by
  unfold intText
  rw [Int.toString_eq_repr, Int.repr_eq_if, if_neg (by omega), String.toList_append,
    Nat.toList_repr]
  rfl

/-! ### Reading digits -/

theorem digitsValue_eq (s : Str) : digitsValue s = Nat.ofDigitChars 10 s 0 := rfl

theorem digitsValue_append (s s' : Str) :
    digitsValue (s ++ s') = digitsValue s * 10 ^ s'.length + digitsValue s' := by
  rw [digitsValue_eq, Nat.ofDigitChars_append, Nat.ofDigitChars_eq_ofDigitChars_zero, mul_comm]
  rfl

theorem isDigits_iff {s : Str} : isDigits s = true ↔ s ≠ [] ∧ ∀ c ∈ s, c.isDigit = true := by
  unfold isDigits
  rw [Bool.and_eq_true, List.all_eq_true]
  simp

/-- A digit is no sign. -/
theorem splitSign_of_isDigits {s : Str} (h : isDigits s = true) : splitSign s = (false, s) := by
  obtain ⟨hne, hdigits⟩ := isDigits_iff.mp h
  obtain ⟨c, cs, rfl⟩ := List.exists_cons_of_ne_nil hne
  have hc := hdigits c List.mem_cons_self
  unfold splitSign
  split
  · rename_i heq
    obtain ⟨rfl, -⟩ := List.cons.inj heq
    exact absurd hc (by decide)
  · rename_i heq
    obtain ⟨rfl, -⟩ := List.cons.inj heq
    exact absurd hc (by decide)
  · rfl

theorem lexicalCastUnsigned_of_isDigits (bits : Nat) {s : Str} (h : isDigits s = true) :
    lexicalCastUnsigned bits s =
      if digitsValue s < 2 ^ bits then some (digitsValue s) else none := by
  unfold lexicalCastUnsigned
  rw [splitSign_of_isDigits h]
  dsimp only
  rw [if_pos h]
  rfl

theorem lexicalCastSigned_of_isDigits (bits : Nat) {s : Str} (h : isDigits s = true) :
    lexicalCastSigned bits s =
      if digitsValue s < 2 ^ (bits - 1) then some (digitsValue s : Int) else none := by
  unfold lexicalCastSigned
  rw [splitSign_of_isDigits h]
  dsimp only
  rw [if_pos h]
  rfl

theorem isDigits_toDigits (n : Nat) : isDigits (Nat.toDigits 10 n) = true :=
  isDigits_iff.mpr ⟨Nat.toDigits_ne_nil, fun _ hc =>
    Nat.isDigit_of_mem_toDigits (by decide) le_rfl hc⟩

theorem digitsValue_toDigits (n : Nat) : digitsValue (Nat.toDigits 10 n) = n := by
  rw [digitsValue_eq, Nat.ofDigitChars_ten_toDigits]

/-- The text of an integer is read back when it is in the range of the type. -/
theorem lexicalCastSigned_intText (bits : Nat) (n : Int) :
    lexicalCastSigned bits (intText n) =
      if -2 ^ (bits - 1) ≤ n ∧ n < 2 ^ (bits - 1) then some n else none := by
  unfold lexicalCastSigned
  rcases lt_or_ge n 0 with h | h
  · have hsplit : splitSign ('-' :: Nat.toDigits 10 (-n).toNat) =
        (true, Nat.toDigits 10 (-n).toNat) := rfl
    have hbound : (-n).toNat ≤ 2 ^ (bits - 1) ↔ -2 ^ (bits - 1) ≤ n ∧ n < 2 ^ (bits - 1) := by
      have hcast : ((2 ^ (bits - 1) : Nat) : Int) = 2 ^ (bits - 1) := by push_cast; rfl
      omega
    have hneg : -((-n).toNat : Int) = n := by omega
    rw [intText_of_neg h, hsplit]
    dsimp only
    rw [if_pos (isDigits_toDigits _), if_pos rfl, digitsValue_toDigits, hneg]
    split_ifs <;> tauto
  · have hbound : n.toNat < 2 ^ (bits - 1) ↔ -2 ^ (bits - 1) ≤ n ∧ n < 2 ^ (bits - 1) := by
      have hcast : ((2 ^ (bits - 1) : Nat) : Int) = 2 ^ (bits - 1) := by push_cast; rfl
      omega
    have hself : ((n.toNat : Nat) : Int) = n := Int.toNat_of_nonneg h
    rw [intText_of_nonneg h, splitSign_of_isDigits (isDigits_toDigits _)]
    dsimp only
    rw [if_pos (isDigits_toDigits _), if_neg Bool.false_ne_true, digitsValue_toDigits, hself]
    split_ifs <;> tauto

theorem isSpace_of_isDigit {c : Char} (h : c.isDigit = true) : isSpace c = false := by
  unfold isSpace
  simp only [Bool.or_eq_false_iff, decide_eq_false_iff_not]
  refine ⟨⟨⟨⟨⟨?_, ?_⟩, ?_⟩, ?_⟩, ?_⟩, ?_⟩
  all_goals
    rintro rfl
    exact absurd h (by decide)

theorem isBlank_intText (n : Int) : isBlank (intText n) = false := by
  have hdigits : ∀ m : Nat, ∃ c ∈ Nat.toDigits 10 m, isSpace c = false := by
    intro m
    obtain ⟨c, cs, hcons⟩ := List.exists_cons_of_ne_nil (@Nat.toDigits_ne_nil m 10)
    have hmem : c ∈ Nat.toDigits 10 m := by
      rw [hcons]
      exact List.mem_cons_self
    exact ⟨c, hmem, isSpace_of_isDigit (Nat.isDigit_of_mem_toDigits (by decide) le_rfl hmem)⟩
  rcases lt_or_ge n 0 with h | h
  · obtain ⟨c, hmem, hc⟩ := hdigits (-n).toNat
    rw [intText_of_neg h]
    exact isBlank_eq_false (List.mem_cons_of_mem _ hmem) hc
  · obtain ⟨c, hmem, hc⟩ := hdigits n.toNat
    rw [intText_of_nonneg h]
    exact isBlank_eq_false hmem hc

theorem intText_ne_nil (n : Int) : intText n ≠ [] := by
  rcases lt_or_ge n 0 with h | h
  · rw [intText_of_neg h]
    exact List.cons_ne_nil _ _
  · rw [intText_of_nonneg h]
    exact Nat.toDigits_ne_nil

theorem toDigits_injective {m n : Nat} (h : Nat.toDigits 10 m = Nat.toDigits 10 n) : m = n := by
  have hvalue := congrArg (fun s => Nat.ofDigitChars 10 s 0) h
  simpa only [Nat.ofDigitChars_ten_toDigits] using hvalue

/-- The digits of a number do not begin with a sign. -/
theorem toDigits_ne_minus (n : Nat) (s : Str) : Nat.toDigits 10 n ≠ '-' :: s := by
  intro h
  have hmem : '-' ∈ Nat.toDigits 10 n := by
    rw [h]
    exact List.mem_cons_self
  have hdigit := Nat.isDigit_of_mem_toDigits (by decide) le_rfl hmem
  revert hdigit
  decide

/-- Numbers with the same text are equal. -/
theorem intText_injective {m n : Int} (h : intText m = intText n) : m = n := by
  rcases lt_or_ge m 0 with hm | hm <;> rcases lt_or_ge n 0 with hn | hn
  · rw [intText_of_neg hm, intText_of_neg hn] at h
    have hdigits := toDigits_injective (List.cons.inj h).2
    omega
  · rw [intText_of_neg hm, intText_of_nonneg hn] at h
    exact absurd h.symm (toDigits_ne_minus _ _)
  · rw [intText_of_nonneg hm, intText_of_neg hn] at h
    exact absurd h (toDigits_ne_minus _ _)
  · rw [intText_of_nonneg hm, intText_of_nonneg hn] at h
    have hdigits := toDigits_injective h
    omega

end EzRets
