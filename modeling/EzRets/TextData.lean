import EzRets.Column

/-!
# EzRets.TextData — character and binary targets

Both translators send character and binary types to the same two workers.  Without a streaming
state these store a value at once, inside the buffer, and cut it to the buffer without a word.
-/

namespace EzRets

/-- The character types, `SQL_C_CHAR` among them. -/
def IsCharacter (type : Int) : Prop := type = sqlChar ∨ type = sqlVarchar

/-- The binary types, `SQL_C_BINARY` among them. -/
def IsBinary (type : Int) : Prop :=
  type = sqlBinary ∨ type = sqlVarbinary ∨ type = sqlLongvarbinary

instance (type : Int) : Decidable (IsCharacter type) :=
  inferInstanceAs (Decidable (type = sqlChar ∨ type = sqlVarchar))

instance (type : Int) : Decidable (IsBinary type) :=
  inferInstanceAs (Decidable (type = sqlBinary ∨ type = sqlVarbinary ∨ type = sqlLongvarbinary))

theorem IsBinary.not_isCharacter {type : Int} (h : IsBinary type) : ¬ IsCharacter type := by
  rcases h with rfl | rfl | rfl <;> decide

namespace DataTranslator

theorem convertBadCast_eq_self {data : Str} {type : Int} {out : Translated}
    (h : out.thrown ≠ some .badLexicalCast) : convertBadCast data type out = out := by
  unfold convertBadCast
  rw [if_neg h]

/-- A worker whose cast does not fail has the last word. -/
theorem translate_of_worker {dt : DataTranslator} {type : Int} {w : TranslationWorker}
    (hworker : dt.worker type = some w) {data : Str} {t : Target}
    (h : (w.translate data t).thrown ≠ some .badLexicalCast) :
    dt.translate data type t = w.translate data t := by
  rcases dt with decimalAsString | _
  · have hworker' : odbc2Trans decimalAsString type = some w := hworker
    unfold translate
    dsimp only
    rw [hworker']
    exact convertBadCast_eq_self h
  · obtain rfl := Option.some.inj hworker
    rfl

theorem worker_character (dt : DataTranslator) {type : Int} (h : IsCharacter type) :
    dt.worker type = some .character := by
  rcases dt with decimalAsString | _
  · rcases h with rfl | rfl <;> rfl
  · rcases h with rfl | rfl <;> rfl

theorem worker_binary (dt : DataTranslator) {type : Int} (h : IsBinary type) :
    dt.worker type = some .binary := by
  rcases dt with decimalAsString | _
  · rcases h with rfl | rfl | rfl <;> rfl
  · rcases h with rfl | rfl | rfl <;> rfl

theorem translateCharacter_thrown (data : Str) (t : Target) :
    (TranslationWorker.translateCharacter data t).thrown ≠ some .badLexicalCast := by
  unfold TranslationWorker.translateCharacter
  split
  · simp [Target.null, Target.stores]
  · split
    · simp
    · dsimp only
      split
      · split <;> simp [Target.throws]
      · simp

theorem translateBinary_thrown (data : Str) (t : Target) :
    (TranslationWorker.translateBinary data t).thrown ≠ some .badLexicalCast := by
  unfold TranslationWorker.translateBinary
  split
  · simp [Target.null, Target.stores]
  · dsimp only
    split
    · simp [Target.throws]
    · split <;> simp

/-- **Character data** goes to the character worker. -/
theorem translate_character (dt : DataTranslator) {type : Int} (h : IsCharacter type) (data : Str)
    (t : Target) : dt.translate data type t = TranslationWorker.translateCharacter data t :=
  translate_of_worker (dt.worker_character h) (translateCharacter_thrown data t)

/-- **Binary data** goes to the binary worker. -/
theorem translate_binary (dt : DataTranslator) {type : Int} (h : IsBinary type) (data : Str)
    (t : Target) : dt.translate data type t = TranslationWorker.translateBinary data t :=
  translate_of_worker (dt.worker_binary h) (translateBinary_thrown data t)

end DataTranslator

/-! ## Stores and buffers -/

theorem charAt_setResultSize {p q : Ptr} {n : Int} :
    ∀ w ∈ setResultSize p n, w.charAt q = none := by
  intro w hw
  unfold setResultSize at hw
  split at hw
  · rw [List.mem_singleton] at hw
    subst hw
    rfl
  · cases hw

/-! ## Values stored at once -/

/-- A whole value as it stands in a buffer: character data is terminated. -/
def wholeText (type : Int) (v : Str) : Str := if IsCharacter type then v ++ ['\x00'] else v

/-- The buffer at `target` holds the whole value; an empty value is an SQL `NULL` and has none. -/
def HoldsValue (writes : List Write) (target : Ptr) (type : Int) (v : Str) : Prop :=
  v ≠ [] → bufferAfter writes target (wholeText type v).length = (wholeText type v).map some

/-- A buffer of `n` bytes has room for the value. -/
def Fits (type : Int) (v : Str) (n : Int) : Prop := v ≠ [] → (wholeText type v).length ≤ n

section AtOnce

variable {v : Str} {t : Target}

theorem translateCharacter_none (hv : v ≠ []) (ht : t.streamInfo = none) :
    TranslationWorker.translateCharacter v t =
      ⟨(copyString v t.target (toSize t.targetLen)).1 ++
        setResultSize t.resultSize (copyString v t.target (toSize t.targetLen)).2, none, none⟩ := by
  have hempty : v.isEmpty = false := by simpa using hv
  simp [TranslationWorker.translateCharacter, hempty, ht]

theorem translateBinary_none (hv : v ≠ []) (ht : t.streamInfo = none) (htarget : t.target ≠ 0) :
    TranslationWorker.translateBinary v t =
      ⟨⟨t.target, .chars (v.take (toSize t.targetLen))⟩ ::
        setResultSize t.resultSize (min (toSize t.targetLen) v.length), none, none⟩ := by
  have hempty : v.isEmpty = false := by simpa using hv
  have hoffset : toSize (toSqlInteger 0) = 0 := by decide
  simp [TranslationWorker.translateBinary, hempty, ht, htarget, hoffset, copyFrom]

theorem translate_nil (dt : DataTranslator) {type : Int} (h : IsCharacter type ∨ IsBinary type) :
    dt.translate [] type t = t.null := by
  rcases h with h | h
  · exact dt.translate_character h [] t
  · exact dt.translate_binary h [] t

theorem charAt_take_within {src : Str} {dest length p : Nat}
    (hp : p < dest ∨ dest + src.length ≤ p ∨ dest + length ≤ p) :
    (⟨dest, .chars (src.take length)⟩ : Write).charAt p = none := by
  refine charAt_chars_eq_none ?_
  rw [List.length_take]
  omega

variable (dt : DataTranslator) {type : Int}

/-- **Without a streaming state a text value never throws.** -/
theorem translate_none_thrown (h : IsCharacter type ∨ IsBinary type) (ht : t.streamInfo = none)
    (htarget : t.target ≠ 0) : (dt.translate v type t).thrown = none := by
  by_cases hv : v = []
  · rw [hv, translate_nil dt h]
    rfl
  · rcases h with h | h
    · rw [dt.translate_character h, translateCharacter_none hv ht]
    · rw [dt.translate_binary h, translateBinary_none hv ht htarget]

/-- **Its stores stay inside the buffer** and within the room that the whole value takes. -/
theorem translate_none_within (h : IsCharacter type ∨ IsBinary type) (ht : t.streamInfo = none)
    (htarget : t.target ≠ 0) {p : Nat}
    (hp : v ≠ [] → p < t.target ∨ t.target + (wholeText type v).length ≤ p ∨
      t.target + toSize t.targetLen ≤ p) :
    ∀ w ∈ (dt.translate v type t).writes, w.charAt p = none := by
  intro w hw
  by_cases hv : v = []
  · rw [hv, translate_nil dt h] at hw
    exact charAt_setResultSize w hw
  · have hp := hp hv
    rcases h with h | h
    · rw [dt.translate_character h, translateCharacter_none hv ht] at hw
      have hwhole : (wholeText type v).length = v.length + 1 := by simp [wholeText, h]
      rw [hwhole] at hp
      rcases List.mem_append.mp hw with hw | hw
      · exact copyString_within hp w hw
      · exact charAt_setResultSize w hw
    · rw [dt.translate_binary h, translateBinary_none hv ht htarget] at hw
      have hwhole : (wholeText type v).length = v.length := by
        simp [wholeText, h.not_isCharacter]
      rw [hwhole] at hp
      rcases List.mem_cons.mp hw with rfl | hw
      · exact charAt_take_within hp
      · exact charAt_setResultSize w hw

/-- **A value that the length argument leaves room for is stored whole.** -/
theorem translate_none_holds (h : IsCharacter type ∨ IsBinary type) (ht : t.streamInfo = none)
    (htarget : t.target ≠ 0) (hfits : Fits type v (toSize t.targetLen)) :
    HoldsValue (dt.translate v type t).writes t.target type v := by
  intro hv
  have hroom := hfits hv
  rcases h with h | h
  · have hwhole : wholeText type v = v ++ ['\x00'] := by simp [wholeText, h]
    rw [hwhole] at hroom ⊢
    rw [List.length_append, List.length_singleton] at hroom
    have hcopied : HoldsPrefix (copyString v t.target (toSize t.targetLen)).1 t.target
        (toSize t.targetLen) v := copyString_holdsPrefix htarget (by omega)
    rw [dt.translate_character h, translateCharacter_none hv ht,
      ← terminated_of_fits (show v.length < toSize t.targetLen by omega)]
    exact hcopied.append_right fun w hw q => charAt_setResultSize w hw
  · have hwhole : wholeText type v = v := by simp [wholeText, h.not_isCharacter]
    rw [hwhole] at hroom ⊢
    rw [dt.translate_binary h, translateBinary_none hv ht htarget]
    refine bufferAfter_eq_map_some fun i hi => ?_
    dsimp only
    rw [charAfter_cons, charAfter_eq_none charAt_setResultSize, Option.none_or, charAt_chars_add,
      List.take_of_length_le (by omega)]

end AtOnce

end EzRets
