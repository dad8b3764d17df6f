import EzRets.TranslationWorkers
import Mathlib.Algebra.BigOperators.Fin
import Mathlib.Data.Nat.Digits.Defs
import Mathlib.Tactic.FieldSimp
import Mathlib.Tactic.Positivity

/-!
# EzRets.NumericValue — the number that a `SQL_NUMERIC_STRUCT` is filled with

The numeric worker stores the sign, the scale and the bytes of the digits in separate steps.  Read
back together they denote the number of the text only while seven bytes hold all of it.
-/

namespace EzRets

/-! ## The structure -/

/-- `SQL_NUMERIC_STRUCT`. -/
structure SqlNumericStruct where
  precision : Nat
  scale : Int
  sign : Nat
  val : Fin 16 → Nat

namespace SqlNumericStruct

/-- One store into the structure at `p`. -/
def store (p : Ptr) (numeric : SqlNumericStruct) (w : Write) : SqlNumericStruct :=
  if w.ptr = p then
    match w.value with
    | .numericSign n => { numeric with sign := n }
    | .numericScale n => { numeric with scale := n }
    | .numericPrecision n => { numeric with precision := n }
    | .numericVal start bytes =>
      { numeric with
        val := fun i =>
          if start ≤ i then (bytes[i.val - start]?).getD (numeric.val i) else numeric.val i }
    | _ => numeric
  else numeric

/-- What the stores leave in the structure at `p`. -/
def after (p : Ptr) (numeric : SqlNumericStruct) (ws : List Write) : SqlNumericStruct :=
  ws.foldl (store p) numeric

/-- The number that the structure denotes. -/
def number (numeric : SqlNumericStruct) : ℚ :=
  (if numeric.sign = 0 then -1 else 1) * ((∑ i, numeric.val i * 256 ^ i.val : ℕ) : ℚ) /
    10 ^ numeric.scale

end SqlNumericStruct

/-- The value of bytes that are read with zeros behind them. -/
theorem sum_getD_eq_ofDigits (b : Nat) {n : Nat} {bytes : List Nat} (h : bytes.length ≤ n) :
    (∑ i : Fin n, (bytes[i.val]?).getD 0 * b ^ i.val) = Nat.ofDigits b bytes := by
  induction n generalizing bytes with
  | zero =>
    obtain rfl := List.length_eq_zero_iff.mp (Nat.le_zero.mp h)
    rfl
  | succ n ih =>
    rcases bytes with _ | ⟨d, bytes⟩
    · simp
    · have hrest := ih (Nat.le_of_succ_le_succ h)
      rw [Fin.sum_univ_succ, Nat.ofDigits_cons, ← hrest, Finset.mul_sum]
      congr 1
      · simp
      · refine Finset.sum_congr rfl fun i _ => ?_
        rw [Fin.val_succ, List.getElem?_cons_succ, pow_succ]
        ring

namespace TranslationWorker

/-! ## The copied bytes -/

theorem ofDigits_littleEndian (n value : Nat) :
    Nat.ofDigits 256 (littleEndian n value) = value % 256 ^ n := by
  induction n generalizing value with
  | zero =>
    rw [pow_zero, Nat.mod_one]
    rfl
  | succ n ih =>
    unfold littleEndian
    rw [Nat.ofDigits_cons, ih, pow_succ', Nat.mod_mul]

theorem littleEndian_take (n k value : Nat) :
    (littleEndian (n + k) value).take n = littleEndian n value := by
  induction n generalizing value with
  | zero => rfl
  | succ n ih =>
    rw [Nat.succ_add]
    unfold littleEndian
    rw [List.take_succ_cons, ih]

/-- The number that the copied bytes denote, for an `intvalue` of eight bytes. -/
def copiedValue : ByteOrder → Nat → Nat
  | .little, intvalue => intvalue % 256 ^ 7
  | .big, intvalue => intvalue / 256

theorem ofDigits_copiedBytes (order : ByteOrder) {intvalue : Nat} (h : intvalue < 2 ^ 64) :
    Nat.ofDigits 256 (copiedBytes order intvalue) = copiedValue order intvalue := by
  rcases order with _ | _
  · show Nat.ofDigits 256 ((littleEndian (7 + 1) intvalue).take 7) = _
    rw [littleEndian_take, ofDigits_littleEndian]
    rfl
  · -- the reversal of all but the last byte leaves out the least significant one
    have hbytes : copiedBytes .big intvalue = littleEndian 7 (intvalue / 256) := rfl
    have hdiv : intvalue / 256 < 256 ^ 7 := by omega
    rw [hbytes, ofDigits_littleEndian, Nat.mod_eq_of_lt hdiv]
    rfl

end TranslationWorker

/-! ## Decimal texts -/

theorem filter_point_of_digits {s : Str} (h : ∀ c ∈ s, c.isDigit = true) :
    s.filter (· ≠ '.') = s := by
  refine List.filter_eq_self.mpr fun c hc => ?_
  have hdigit := h c hc
  rw [decide_eq_true_iff]
  rintro rfl
  exact absurd hdigit (by decide)

/-- Digits with at most one point, after an optional `'-'` and between blanks. -/
structure DecimalText where
  before : Str
  minus : Bool
  int : Str
  frac : Option Str
  after : Str
  before_blank : ∀ c ∈ before, isSpace c = true
  int_digits : ∀ c ∈ int, c.isDigit = true
  frac_digits : ∀ c ∈ frac.getD [], c.isDigit = true
  after_blank : ∀ c ∈ after, isSpace c = true
  digits_ne_nil : int ++ frac.getD [] ≠ []

namespace DecimalText

variable (d : DecimalText)

/-- The digits behind the point. -/
def decimals : Str := d.frac.getD []

/-- The text without blanks and sign. -/
def unsigned : Str :=
  match d.frac with
  | none => d.int
  | some frac => d.int ++ '.' :: frac

def signed : Str := if d.minus then '-' :: d.unsigned else d.unsigned

def text : Str := d.before ++ d.signed ++ d.after

/-- All digits, read as one integer. -/
def digits : Nat := digitsValue (d.int ++ d.decimals)

/-- The number that the text denotes. -/
def number : ℚ :=
  (if d.minus then -1 else 1) *
    (digitsValue d.int + digitsValue d.decimals / 10 ^ d.decimals.length)

theorem number_eq :
    d.number = (if d.minus then -1 else 1) * (d.digits : ℚ) / 10 ^ d.decimals.length := by
  have hpow : (10 : ℚ) ^ d.decimals.length ≠ 0 := by positivity
  unfold number digits
  rw [digitsValue_append]
  push_cast
  field_simp

theorem isDigits_digits : isDigits (d.int ++ d.decimals) = true := by
  refine isDigits_iff.mpr ⟨d.digits_ne_nil, fun c hc => ?_⟩
  rcases List.mem_append.mp hc with h | h
  · exact d.int_digits c h
  · exact d.frac_digits c h

theorem mem_unsigned {c : Char} (h : c ∈ d.unsigned) : c.isDigit = true ∨ c = '.' := by
  unfold unsigned at h
  have hfrac := d.frac_digits
  rcases hd : d.frac with _ | frac <;> rw [hd] at h hfrac
  · exact .inl (d.int_digits c h)
  · rcases List.mem_append.mp h with h | h
    · exact .inl (d.int_digits c h)
    · rcases List.mem_cons.mp h with rfl | h
      · exact .inr rfl
      · exact .inl (hfrac c h)

theorem unsigned_ne_nil : d.unsigned ≠ [] := by
  have hne := d.digits_ne_nil
  unfold unsigned
  rcases hd : d.frac with _ | frac <;> rw [hd] at hne
  · simpa using hne
  · simp

theorem trim_text : trim d.text = d.signed := by
  refine trim_append d.before_blank (fun c hc => ?_) d.after_blank
  have hmem : c = '-' ∨ c ∈ d.unsigned := by
    unfold signed at hc
    split_ifs at hc
    · exact List.mem_cons.mp hc
    · exact .inr hc
  rcases hmem with rfl | hmem
  · decide
  · rcases d.mem_unsigned hmem with h | rfl
    · exact isSpace_of_isDigit h
    · decide

theorem head_signed : d.signed.head? = some '-' ↔ d.minus = true := by
  unfold signed
  split_ifs with h
  · exact iff_of_true rfl h
  · refine iff_of_false (fun hhead => ?_) h
    rcases d.mem_unsigned (List.mem_of_mem_head? hhead) with h' | h'
    · exact absurd h' (by decide)
    · exact absurd h' (by decide)

/-- The point is found where the digits before it end. -/
theorem scale_unsigned :
    (if d.unsigned.findIdx (· = '.') = d.unsigned.length then 0
      else d.unsigned.length - d.unsigned.findIdx (· = '.') - 1) = d.decimals.length := by
  have hint : ∀ c ∈ d.int, (decide (c = '.')) = false := by
    intro c hc
    have hdigit := d.int_digits c hc
    rw [decide_eq_false_iff_not]
    rintro rfl
    exact absurd hdigit (by decide)
  unfold unsigned decimals
  rcases hd : d.frac with _ | frac
  · dsimp only
    rw [List.findIdx_eq_length_of_false hint, if_pos rfl]
    rfl
  · have hindex : (d.int ++ '.' :: frac).findIdx (· = '.') = d.int.length := by
      rw [List.findIdx_append, List.findIdx_eq_length_of_false hint, if_neg (Nat.lt_irrefl _)]
      rw [List.findIdx_cons]
      simp
    dsimp only
    rw [hindex, List.length_append, List.length_cons, if_neg (by omega)]
    show _ = frac.length
    omega

theorem filter_unsigned : d.unsigned.filter (· ≠ '.') = d.int ++ d.decimals := by
  have hfrac := d.frac_digits
  unfold unsigned decimals
  rcases hd : d.frac with _ | frac <;> rw [hd] at hfrac
  · dsimp only
    rw [filter_point_of_digits d.int_digits]
    exact (List.append_nil _).symm
  · dsimp only
    have hfrac' : frac.filter (· ≠ '.') = frac := filter_point_of_digits hfrac
    rw [List.filter_append, filter_point_of_digits d.int_digits,
      List.filter_cons_of_neg (by simp), hfrac']
    rfl

end DecimalText

/-! ## The translation of a decimal text -/

namespace TranslationWorker

variable (order : ByteOrder) (d : DecimalText) (t : Target)

/-- The stores before the digits are converted. -/
def numericWrites : List Write :=
  [⟨t.target, .numericSign (if d.minus then 0 else 1)⟩, ⟨t.target, .numericScale d.decimals.length⟩,
    ⟨t.target, .numericPrecision d.decimals.length⟩,
    ⟨t.target, .numericVal 0 (List.replicate 16 0)⟩]

/-- What the worker does with a decimal text. -/
theorem translateNumericOn_text :
    translateNumericOn order d.text t =
      if d.decimals.length ≥ 128 then
        t.throws [⟨t.target, .numericSign (if d.minus then 0 else 1)⟩] (numericBadCast d.text)
      else if d.digits < 2 ^ 64 then
        t.stores (numericWrites d t ++ [⟨t.target, .numericVal 0 (copiedBytes order d.digits)⟩] ++
          setResultSize t.resultSize 19)
      else t.throws (numericWrites d t) (numericBadCast d.text) := by
  have hempty : ¬ d.signed.isEmpty = true := by
    have hne := d.unsigned_ne_nil
    unfold DecimalText.signed
    split_ifs <;> simp [hne]
  have hbody : (if d.signed.head? = some '-' then d.signed.drop 1 else d.signed) = d.unsigned := by
    by_cases hminus : d.minus = true
    · rw [if_pos (d.head_signed.mpr hminus)]
      unfold DecimalText.signed
      rw [if_pos hminus]
      rfl
    · rw [if_neg (mt d.head_signed.mp hminus)]
      unfold DecimalText.signed
      rw [if_neg hminus]
  have hsign : (if d.signed.head? = some '-' then 0 else 1) = if d.minus = true then 0 else 1 := by
    simp only [d.head_signed]
  have hcast : lexicalCastUnsigned 64 (d.int ++ d.decimals) =
      if d.digits < 2 ^ 64 then some d.digits else none :=
    lexicalCastUnsigned_of_isDigits 64 d.isDigits_digits
  unfold translateNumericOn numericWrites
  dsimp only
  rw [d.trim_text, if_neg hempty, hbody, hsign, d.scale_unsigned, d.filter_unsigned, hcast]
  split_ifs <;> rfl

/-- A decimal text is converted unless it has too many decimals or too many digits. -/
theorem thrown_translateNumericOn :
    (translateNumericOn order d.text t).thrown = none ↔
      d.decimals.length < 128 ∧ d.digits < 2 ^ 64 := by
  rw [translateNumericOn_text]
  by_cases hscale : d.decimals.length ≥ 128
  · rw [if_pos hscale]
    exact iff_of_false (fun h => by cases h) fun h => absurd h.1 (by omega)
  · rw [if_neg hscale]
    by_cases hdigits : d.digits < 2 ^ 64
    · rw [if_pos hdigits]
      exact iff_of_true rfl ⟨by omega, hdigits⟩
    · rw [if_neg hdigits]
      exact iff_of_false (fun h => by cases h) fun h => hdigits h.2

/-- The structure that the stores fill. -/
theorem after_translateNumericOn {order : ByteOrder} {d : DecimalText} {t : Target}
    (h : (translateNumericOn order d.text t).thrown = none) (numeric : SqlNumericStruct) :
    numeric.after t.target (translateNumericOn order d.text t).writes =
      ⟨d.decimals.length, d.decimals.length, if d.minus then 0 else 1,
        fun i => ((copiedBytes order d.digits)[i.val]?).getD 0⟩ := by
  obtain ⟨hscale, hdigits⟩ := (thrown_translateNumericOn order d t).mp h
  have hsize : ∀ numeric : SqlNumericStruct,
      numeric.after t.target (setResultSize t.resultSize 19) = numeric := by
    intro numeric
    unfold setResultSize SqlNumericStruct.after
    split_ifs
    · show SqlNumericStruct.store _ _ _ = numeric
      unfold SqlNumericStruct.store
      split_ifs <;> rfl
    · rfl
  have hzero : ∀ i : Fin 16, ((List.replicate 16 0)[i.val]?).getD (numeric.val i) = 0 := by
    intro i
    rw [List.getElem?_replicate, if_pos i.isLt]
    rfl
  rw [translateNumericOn_text, if_neg (by omega), if_pos hdigits]
  show SqlNumericStruct.after _ _ (_ ++ _ ++ _) = _
  unfold SqlNumericStruct.after
  rw [List.foldl_append]
  refine (hsize _).trans ?_
  simp only [numericWrites, List.cons_append, List.nil_append, List.foldl_cons, List.foldl_nil,
    SqlNumericStruct.store, if_true, Nat.zero_le, Nat.sub_zero, hzero]

/-- **The number of the structure.** -/
theorem number_translateNumericOn {order : ByteOrder} {d : DecimalText} {t : Target}
    (h : (translateNumericOn order d.text t).thrown = none) (numeric : SqlNumericStruct) :
    (numeric.after t.target (translateNumericOn order d.text t).writes).number =
      (if d.minus then -1 else 1) * (copiedValue order d.digits : ℚ) / 10 ^ d.decimals.length := by
  obtain ⟨-, hdigits⟩ := (thrown_translateNumericOn order d t).mp h
  have hlength : (copiedBytes order d.digits).length ≤ 16 := by
    rcases order with _ | _ <;> exact Nat.le_of_ble_eq_true rfl
  have hsign : ((if d.minus then 0 else 1 : Nat) = 0) ↔ d.minus = true := by
    split_ifs with hminus <;> simp [hminus]
  rw [after_translateNumericOn h]
  unfold SqlNumericStruct.number
  dsimp only
  rw [zpow_natCast, sum_getD_eq_ofDigits 256 hlength, ofDigits_copiedBytes order hdigits]
  simp only [hsign]

/-- The digits that a build carries over: seven bytes, or none but zero where the bytes are
reversed. -/
def Carries : ByteOrder → Nat → Prop
  | .little, digits => digits < 2 ^ 56
  | .big, digits => digits = 0

theorem copiedValue_eq_iff (order : ByteOrder) (digits : Nat) :
    copiedValue order digits = digits ↔ Carries order digits := by
  rcases order with _ | _
  · show digits % 256 ^ 7 = digits ↔ digits < 2 ^ 56
    omega
  · show digits / 256 = digits ↔ digits = 0
    omega

theorem number_eq_iff {order : ByteOrder} {d : DecimalText} {t : Target}
    (h : (translateNumericOn order d.text t).thrown = none) (numeric : SqlNumericStruct) :
    (numeric.after t.target (translateNumericOn order d.text t).writes).number = d.number ↔
      Carries order d.digits := by
  have hpow : (10 : ℚ) ^ d.decimals.length ≠ 0 := by positivity
  have hsign : (if d.minus then -1 else 1 : ℚ) ≠ 0 := by split_ifs <;> norm_num
  rw [number_translateNumericOn h, d.number_eq, ← copiedValue_eq_iff, div_left_inj' hpow,
    mul_right_inj' hsign, Nat.cast_inj]

/-- Wherever the text is converted to, the structure denotes its number. -/
def KeepsNumber (order : ByteOrder) (d : DecimalText) : Prop :=
  ∀ (t : Target) (numeric : SqlNumericStruct),
    (translateNumericOn order d.text t).thrown = none →
      (numeric.after t.target (translateNumericOn order d.text t).writes).number = d.number

theorem KeepsNumber.carries {order : ByteOrder} {d : DecimalText} (h : KeepsNumber order d)
    (hscale : d.decimals.length < 128) (hdigits : d.digits < 2 ^ 64) : Carries order d.digits := by
  have hconverted := (thrown_translateNumericOn order d ⟨1, 19, 0, none⟩).mpr ⟨hscale, hdigits⟩
  exact (number_eq_iff hconverted ⟨0, 0, 0, fun _ => 0⟩).mp (h _ _ hconverted)

/-- **A decimal text that is converted keeps its number** exactly when the copied bytes carry its
digits. -/
theorem keepsNumber_iff (order : ByteOrder) (d : DecimalText) :
    KeepsNumber order d ↔
      (d.decimals.length < 128 → d.digits < 2 ^ 64 → Carries order d.digits) := by
  constructor
  · intro h hscale hdigits
    exact h.carries hscale hdigits
  · intro h t numeric hconverted
    obtain ⟨hscale, hdigits⟩ := (thrown_translateNumericOn order d t).mp hconverted
    exact (number_eq_iff hconverted numeric).mpr (h hscale hdigits)

/-- An integer without blanks and sign. -/
def plainInteger (digits : Str) (h : isDigits digits = true) : DecimalText where
  before := []
  minus := false
  int := digits
  frac := none
  after := []
  before_blank := fun _ hc => absurd hc List.not_mem_nil
  int_digits := (isDigits_iff.mp h).2
  frac_digits := fun _ hc => absurd hc List.not_mem_nil
  after_blank := fun _ hc => absurd hc List.not_mem_nil
  digits_ne_nil := fun hnil => (isDigits_iff.mp h).1 (List.append_eq_nil_iff.mp hnil).1

/-- The eighth byte is lost, and with the bytes reversed the first. -/
theorem not_keepsNumber_plainInteger :
    ¬ KeepsNumber .little (plainInteger "72057594037927936".toList (by decide)) ∧
      ¬ KeepsNumber .big (plainInteger "1".toList (by decide)) := by
  constructor
  · intro h
    have hdigits : (plainInteger "72057594037927936".toList (by decide)).digits = 2 ^ 56 := by
      decide
    have hcarries := h.carries (by decide) (by rw [hdigits]; norm_num)
    rw [hdigits] at hcarries
    exact Nat.lt_irrefl _ hcarries
  · intro h
    have hdigits : (plainInteger "1".toList (by decide)).digits = 1 := by decide
    have hcarries := h.carries (by decide) (by rw [hdigits]; norm_num)
    rw [hdigits] at hcarries
    exact Nat.one_ne_zero hcarries

end TranslationWorker

end EzRets
