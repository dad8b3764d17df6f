import EzRets.DataTranslator

/-!
# EzRets.IntegerValues — the integer that a conversion stores

The integer workers leave the range check to the cast.  The cast of the signed types checks it; the
one of the unsigned types takes a leading `'-'` and wraps around.
-/

namespace EzRets

/-! ## Integers as text -/

/-- An optional sign and decimal digits. -/
structure IntegerText where
  sign : Option Char
  digits : Str
  sign_eq : ∀ c ∈ sign, c = '-' ∨ c = '+'
  isDigits : isDigits digits = true

namespace IntegerText

variable (d : IntegerText)

def text : Str := d.sign.toList ++ d.digits

def minus : Bool := d.sign = some '-'

/-- The integer that the text denotes. -/
def number : Int := if d.minus then -digitsValue d.digits else digitsValue d.digits

theorem splitSign_text : splitSign d.text = (d.minus, d.digits) := by
  have hsign := d.sign_eq
  unfold text minus
  rcases hs : d.sign with _ | c
  · exact splitSign_of_isDigits d.isDigits
  · rcases hsign c hs with rfl | rfl <;> rfl

theorem isBlank_text : isBlank d.text = false := by
  obtain ⟨hne, hdigits⟩ := isDigits_iff.mp d.isDigits
  obtain ⟨c, cs, hcons⟩ := List.exists_cons_of_ne_nil hne
  refine isBlank_eq_false (c := c) ?_ (isSpace_of_isDigit (hdigits c (by simp [hcons])))
  unfold text
  rw [hcons]
  simp

/-- **A signed type** takes what is in its range. -/
theorem lexicalCastSigned_text (bits : Nat) :
    lexicalCastSigned bits d.text =
      if -2 ^ (bits - 1) ≤ d.number ∧ d.number < 2 ^ (bits - 1) then some d.number else none := by
  have hcast : ((2 ^ (bits - 1) : Nat) : Int) = 2 ^ (bits - 1) := by push_cast; rfl
  have hpos : 0 < 2 ^ (bits - 1) := Nat.two_pow_pos _
  unfold lexicalCastSigned number
  rw [d.splitSign_text]
  dsimp only
  rw [if_pos d.isDigits]
  rcases d.minus with _ | _
  · rw [if_neg Bool.false_ne_true, if_neg Bool.false_ne_true]
    exact if_congr (by omega) rfl rfl
  · rw [if_pos rfl, if_pos rfl]
    exact if_congr (by omega) rfl rfl

/-- An unsigned type only looks at the digits. -/
theorem lexicalCastUnsigned_text (bits : Nat) :
    lexicalCastUnsigned bits d.text =
      if digitsValue d.digits < 2 ^ bits then
        some (if d.minus then (2 ^ bits - digitsValue d.digits) % 2 ^ bits
          else digitsValue d.digits)
      else none := by
  unfold lexicalCastUnsigned
  rw [d.splitSign_text]
  dsimp only
  rw [if_pos d.isDigits]

/-- **An unsigned type** stores another number exactly for a negative one that is not too large. -/
theorem lexicalCastUnsigned_eq_iff {bits : Nat} :
    (∀ n, lexicalCastUnsigned bits d.text = some n → (n : Int) = d.number) ↔
      (d.number < 0 → 2 ^ bits ≤ -d.number) := by
  have hcast : ((2 ^ bits : Nat) : Int) = 2 ^ bits := by push_cast; rfl
  have hpos : 0 < 2 ^ bits := Nat.two_pow_pos _
  rw [d.lexicalCastUnsigned_text]
  unfold number
  rcases d.minus with _ | _
  · refine iff_of_true (fun n hn => ?_) fun hneg => ?_
    · rw [if_neg Bool.false_ne_true] at hn ⊢
      split_ifs at hn
      exact congrArg Nat.cast (Option.some.inj hn).symm
    · rw [if_neg Bool.false_ne_true] at hneg
      omega
  · rw [if_pos rfl, if_pos rfl]
    by_cases hlt : digitsValue d.digits < 2 ^ bits
    · rw [if_pos hlt]
      constructor
      · intro h hneg
        have hn := h _ rfl
        rw [Nat.mod_eq_of_lt (by omega)] at hn
        omega
      · intro h n hn
        obtain rfl := Option.some.inj hn
        have hzero : digitsValue d.digits = 0 := by
          by_contra hne
          have hbound := h (by omega)
          omega
        rw [hzero, Nat.sub_zero, Nat.mod_self]
        rfl
    · rw [if_neg hlt]
      refine iff_of_true (fun n hn => by cases hn) fun _ => by omega

/-- The texts that the cast takes apart are those of integers. -/
theorem exists_of_splitSign {s : Str} (h : EzRets.isDigits (splitSign s).2 = true) :
    ∃ d : IntegerText, s = d.text := by
  rcases s with _ | ⟨c, s⟩
  · exact absurd h (by decide)
  · by_cases hminus : c = '-'
    · subst hminus
      exact ⟨⟨some '-', s, by simp, h⟩, rfl⟩
    · by_cases hplus : c = '+'
      · subst hplus
        exact ⟨⟨some '+', s, by simp, h⟩, rfl⟩
      · have hself : splitSign (c :: s) = (false, c :: s) := by
          unfold splitSign
          split
          · rename_i heq
            exact absurd (List.cons.inj heq).1 hminus
          · rename_i heq
            exact absurd (List.cons.inj heq).1 hplus
          · rfl
        rw [hself] at h
        exact ⟨⟨none, c :: s, by simp, h⟩, rfl⟩

theorem exists_of_lexicalCastSigned {bits : Nat} {s : Str} {n : Int}
    (h : lexicalCastSigned bits s = some n) : ∃ d : IntegerText, s = d.text := by
  refine exists_of_splitSign ?_
  by_contra hnot
  unfold lexicalCastSigned at h
  dsimp only at h
  rw [if_neg hnot] at h
  cases h

theorem exists_of_lexicalCastUnsigned {bits n : Nat} {s : Str}
    (h : lexicalCastUnsigned bits s = some n) : ∃ d : IntegerText, s = d.text := by
  refine exists_of_splitSign ?_
  by_contra hnot
  unfold lexicalCastUnsigned at h
  dsimp only at h
  rw [if_neg hnot] at h
  cases h

theorem lexicalCastUnsigned_isSome_iff {bits : Nat} {s : Str} :
    (lexicalCastUnsigned bits s).isSome = true ↔
      ∃ d : IntegerText, s = d.text ∧ digitsValue d.digits < 2 ^ bits := by
  constructor
  · intro h
    obtain ⟨n, hn⟩ := Option.isSome_iff_exists.mp h
    obtain ⟨d, rfl⟩ := exists_of_lexicalCastUnsigned hn
    refine ⟨d, rfl, ?_⟩
    rw [d.lexicalCastUnsigned_text] at h
    by_contra hlarge
    rw [if_neg hlarge] at h
    cases h
  · rintro ⟨d, rfl, hlt⟩
    rw [d.lexicalCastUnsigned_text, if_pos hlt]
    rfl

end IntegerText

/-! ## The stored integer -/

/-- The integer that a value holds, if it is of an integer type. -/
def CValue.storedInteger : CValue → Option Int
  | .byte n | .smallint n | .integer n | .bigint n => some n
  | .usmallint n | .uinteger n => some n
  | _ => none

/-- The integer at `p` after the stores. -/
def integerAfter : List Write → Ptr → Option Int
  | [], _ => none
  | w :: ws, p => (integerAfter ws p).or (if w.ptr = p then w.value.storedInteger else none)

theorem integerAfter_stored (p q : Ptr) (value : CValue) (n : Int) :
    integerAfter (⟨p, value⟩ :: setResultSize q n) p = value.storedInteger := by
  have hsize : integerAfter (setResultSize q n) p = none := by
    unfold setResultSize
    split_ifs
    · unfold integerAfter
      split_ifs <;> rfl
    · rfl
  unfold integerAfter
  rw [hsize, Option.none_or, if_pos rfl]

namespace TranslationWorker

/-- The workers of the integer types. -/
def isInteger : TranslationWorker → Bool
  | .tiny | .smallInt | .int | .bigInt | .uLong | .uShort => true
  | _ => false

/-- The width of the unsigned ones. -/
def unsignedBits : TranslationWorker → Option Nat
  | .uLong => some 32
  | .uShort => some 16
  | _ => none

/-- The worker stores the integer of the text, or throws. -/
def StoresNumber (w : TranslationWorker) (d : IntegerText) : Prop :=
  ∀ t : Target, (w.translate d.text t).thrown = none →
    integerAfter (w.translate d.text t).writes t.target = some d.number

variable {w : TranslationWorker} {d : IntegerText}

/-- A worker that only casts stores what the cast gives. -/
theorem storesNumber_of_cast {α : Type} {value : Option α} {toValue : α → CValue} {size : Int}
    (hw : ∀ t, w.translate d.text t =
      if isBlank d.text then t.null else t.storeCast value toValue size) :
    StoresNumber w d ↔ ∀ v, value = some v → (toValue v).storedInteger = some d.number := by
  have htranslate : ∀ t : Target, w.translate d.text t = t.storeCast value toValue size := by
    intro t
    rw [hw, d.isBlank_text, if_neg Bool.false_ne_true]
  constructor
  · rintro h v rfl
    have hstored := h ⟨1, 8, 0, none⟩ (by rw [htranslate]; rfl)
    rw [htranslate] at hstored
    exact (integerAfter_stored _ _ _ _).symm.trans hstored
  · intro h t hthrown
    rw [htranslate] at hthrown ⊢
    rcases value with _ | v
    · cases hthrown
    · exact (integerAfter_stored _ _ _ _).trans (h v rfl)

theorem storesNumber_signed {bits : Nat} {toValue : Int → CValue} {size : Int}
    (hw : ∀ t, w.translate d.text t =
      if isBlank d.text then t.null else t.storeCast (lexicalCastSigned bits d.text) toValue size)
    (hvalue : ∀ n, (toValue n).storedInteger = some n) : StoresNumber w d := by
  refine (storesNumber_of_cast hw).mpr fun v hv => ?_
  rw [d.lexicalCastSigned_text] at hv
  split_ifs at hv
  rw [hvalue, ← Option.some.inj hv]

theorem storesNumber_unsigned {bits : Nat} {toValue : Nat → CValue} {size : Int}
    (hw : ∀ t, w.translate d.text t =
      if isBlank d.text then t.null else t.storeCast (lexicalCastUnsigned bits d.text) toValue size)
    (hvalue : ∀ n : Nat, (toValue n).storedInteger = some (n : Int)) :
    StoresNumber w d ↔ (d.number < 0 → 2 ^ bits ≤ -d.number) := by
  rw [storesNumber_of_cast hw, ← d.lexicalCastUnsigned_eq_iff]
  refine forall₂_congr fun v _ => ?_
  rw [hvalue, Option.some.injEq]

/-- `TINYINT` goes through an `int`, and is checked once more. -/
theorem storesNumber_tiny : StoresNumber .tiny d := by
  intro t hthrown
  have htiny : TranslationWorker.tiny.translate d.text t = translateTiny d.text t := rfl
  rw [htiny] at hthrown ⊢
  unfold translateTiny at hthrown ⊢
  rw [d.isBlank_text, if_neg Bool.false_ne_true, d.lexicalCastSigned_text] at hthrown ⊢
  by_cases hint : -2 ^ (32 - 1) ≤ d.number ∧ d.number < 2 ^ (32 - 1)
  · rw [if_pos hint] at hthrown ⊢
    dsimp only at hthrown ⊢
    split_ifs at hthrown ⊢
    · exact integerAfter_stored _ _ _ _
    · cases hthrown
  · rw [if_neg hint] at hthrown
    cases hthrown

/-- A cast that throws stores nothing. -/
theorem writes_storeCast {α : Type} {t : Target} {value : Option α} {toValue : α → CValue}
    {size : Int} (h : (t.storeCast value toValue size).thrown ≠ none) :
    (t.storeCast value toValue size).writes = [] := by
  rcases value with _ | v
  · rfl
  · exact absurd rfl h

/-- **An integer worker that throws stores nothing**, whatever the text. -/
theorem writes_of_thrown (hw : w.isInteger = true) {data : Str} {t : Target}
    (h : (w.translate data t).thrown ≠ none) : (w.translate data t).writes = [] := by
  have hblank : ∀ {out : Translated}, (out.thrown ≠ none → out.writes = []) →
      (if isBlank data then t.null else out).thrown ≠ none →
      (if isBlank data then t.null else out).writes = [] := by
    intro out hout hthrown
    split_ifs at hthrown ⊢
    · exact absurd rfl hthrown
    · exact hout hthrown
  rcases w
  case tiny =>
    refine hblank ?_ h
    rcases lexicalCastSigned 32 data with _ | n
    · exact fun _ => rfl
    · intro hthrown
      dsimp only at hthrown ⊢
      split_ifs at hthrown ⊢
      · exact absurd rfl hthrown
      · rfl
  case smallInt => exact hblank writes_storeCast h
  case int => exact hblank writes_storeCast h
  case bigInt => exact hblank writes_storeCast h
  case uLong => exact hblank writes_storeCast h
  case uShort => exact hblank writes_storeCast h
  all_goals cases hw

/-- **An integer worker never changes the number**, but for the unsigned ones and a negative number
that wraps around. -/
theorem storesNumber_iff (hw : w.isInteger = true) :
    StoresNumber w d ↔
      ∀ bits, w.unsignedBits = some bits → d.number < 0 → 2 ^ bits ≤ -d.number := by
  have hsigned : w.unsignedBits = none → StoresNumber w d → (StoresNumber w d ↔
      ∀ bits, w.unsignedBits = some bits → d.number < 0 → 2 ^ bits ≤ -d.number) := by
    intro hnone h
    refine iff_of_true h fun bits hbits => ?_
    rw [hnone] at hbits
    cases hbits
  have hunsigned : ∀ {bits : Nat}, w.unsignedBits = some bits →
      (StoresNumber w d ↔ (d.number < 0 → 2 ^ bits ≤ -d.number)) → (StoresNumber w d ↔
        ∀ bits, w.unsignedBits = some bits → d.number < 0 → 2 ^ bits ≤ -d.number) := by
    intro bits hbits h
    rw [h, hbits]
    refine ⟨fun hwrap bits' hbits' => ?_, fun hwrap => hwrap bits rfl⟩
    obtain rfl := Option.some.inj hbits'
    exact hwrap
  rcases w
  case tiny => exact hsigned rfl storesNumber_tiny
  case smallInt => exact hsigned rfl (storesNumber_signed (fun _ => rfl) fun _ => rfl)
  case int => exact hsigned rfl (storesNumber_signed (fun _ => rfl) fun _ => rfl)
  case bigInt => exact hsigned rfl (storesNumber_signed (fun _ => rfl) fun _ => rfl)
  case uLong => exact hunsigned rfl (storesNumber_unsigned (fun _ => rfl) fun _ => rfl)
  case uShort => exact hunsigned rfl (storesNumber_unsigned (fun _ => rfl) fun _ => rfl)
  all_goals cases hw

end TranslationWorker

namespace DataTranslator

/-- Wherever the text is converted to, the integer is stored, or the conversion throws and stores
nothing. -/
def KeepsInteger (dt : DataTranslator) (type : Int) (d : IntegerText) : Prop :=
  ∀ t : Target, ((dt.translate d.text type t).thrown = none →
      integerAfter (dt.translate d.text type t).writes t.target = some d.number) ∧
    ((dt.translate d.text type t).thrown ≠ none → (dt.translate d.text type t).writes = [])

/-- **Integer conversions keep the number**, for every integer type of the translator, unless the
type is unsigned and the number negative and in its width. -/
theorem keepsInteger_iff {dt : DataTranslator} {type : Int} {w : TranslationWorker}
    (hworker : dt.worker type = some w) (hw : w.isInteger = true) (d : IntegerText) :
    KeepsInteger dt type d ↔
      ¬ ∃ bits, w.unsignedBits = some bits ∧ d.number < 0 ∧ -d.number < 2 ^ bits := by
  have hserves : KeepsInteger dt type d ↔ w.StoresNumber d := by
    refine forall_congr' fun t => ?_
    have hserved := serves_translate hworker d.text t
    rw [ne_eq, hserved.thrown_eq_none_iff, hserved.writes]
    exact and_iff_left (TranslationWorker.writes_of_thrown hw)
  rw [hserves, TranslationWorker.storesNumber_iff hw]
  push Not
  rfl

/-- The text `-5`. -/
def minusFive : IntegerText := ⟨some '-', "5".toList, by simp, rfl⟩

theorem keepsInteger_minusFive :
    KeepsInteger (.native false) sqlSmallint minusFive ↔
      ¬ ∃ bits, TranslationWorker.smallInt.unsignedBits = some bits ∧ minusFive.number < 0 ∧
        -minusFive.number < 2 ^ bits :=
  keepsInteger_iff rfl rfl minusFive

/-- As an `SQL_C_USHORT` it is stored as 65531. -/
theorem not_keepsInteger_ushort : ¬ KeepsInteger (.native false) sqlCUshort minusFive := by
  intro h
  exact absurd ((h ⟨1, 2, 0, none⟩).1 (by decide)) (by decide)

end DataTranslator

end EzRets
