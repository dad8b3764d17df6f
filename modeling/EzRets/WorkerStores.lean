import EzRets.DataTranslator

/-!
# EzRets.WorkerStores — what a translation stores, and where

A worker stores values of its C type or text, and last the size at the length/indicator pointer.
One induction rule over its stores serves every property of them.
-/

namespace EzRets

/-- A value of a C type other than text, as a worker stores it. -/
def CValue.isTyped : CValue → Bool
  | .chars _ | .len _ | .ulen _ | .pointer _ => false
  | _ => true

/-- What holds of typed values and of the size holds of all these stores. -/
structure StoreRule (t : Target) (P : Write → Prop) : Prop where
  size : ∀ n, ∀ w ∈ setResultSize t.resultSize n, P w
  typed : ∀ p v, v.isTyped = true → P ⟨p, v⟩

namespace StoreRule

variable {t : Target} {P : Write → Prop}

theorem null (h : StoreRule t P) : ∀ w ∈ t.null.writes, P w := h.size _

theorem blank (h : StoreRule t P) {data : Str} {out : Translated} (hout : ∀ w ∈ out.writes, P w) :
    ∀ w ∈ (if isBlank data then t.null else out).writes, P w := by
  split_ifs
  · exact h.null
  · exact hout

theorem cons_size (h : StoreRule t P) {p : Ptr} {v : CValue} (hv : v.isTyped = true) (n : Int) :
    ∀ w ∈ ⟨p, v⟩ :: setResultSize t.resultSize n, P w :=
  List.forall_mem_cons.mpr ⟨h.typed p v hv, h.size n⟩

theorem append_size (h : StoreRule t P) {ws : List Write} (hws : ∀ w ∈ ws, P w) (n : Int) :
    ∀ w ∈ ws ++ setResultSize t.resultSize n, P w :=
  List.forall_mem_append.mpr ⟨hws, h.size n⟩

/-- Several typed values. -/
theorem all_typed (h : StoreRule t P) {ws : List Write}
    (hws : ws.all (fun w => w.value.isTyped) = true) : ∀ w ∈ ws, P w :=
  fun w hw => h.typed w.ptr w.value (List.all_eq_true.mp hws w hw)

theorem storeCast (h : StoreRule t P) {α : Type} {value : Option α} {toValue : α → CValue}
    {size : Int} (hv : ∀ a, (toValue a).isTyped = true) :
    ∀ w ∈ (t.storeCast value toValue size).writes, P w := by
  rcases value with _ | v
  · exact fun w hw => nomatch hw
  · exact h.cons_size (hv v) size

theorem translateNumeric (h : StoreRule t P) (data : Str) :
    ∀ w ∈ (TranslationWorker.translateNumeric data t).writes, P w := by
  unfold TranslationWorker.translateNumeric TranslationWorker.translateNumericOn
  dsimp only
  by_cases hempty : (trim data).isEmpty = true
  · rw [if_pos hempty]
    exact h.null
  · rw [if_neg hempty]
    -- the sign and the scale are known before the last test
    generalize (if (trim data).head? = some '-' then (trim data).drop 1 else trim data) = trimd
    split_ifs
    all_goals first
      | exact h.all_typed rfl
      | split
        · exact h.all_typed rfl
        · exact h.append_size (h.all_typed rfl) 19

theorem translateCharacter (h : StoreRule t P) (htext : ∀ p s, P ⟨p, .chars s⟩) (data : Str) :
    ∀ w ∈ (TranslationWorker.translateCharacter data t).writes, P w := by
  have hpair : ∀ (p q : Ptr) (s s' : Str),
      ∀ w ∈ ([⟨p, .chars s⟩, ⟨q, .chars s'⟩] : List Write), P w := fun p q s s' =>
    List.forall_mem_cons.mpr ⟨htext p s, List.forall_mem_singleton.mpr (htext q s')⟩
  unfold TranslationWorker.translateCharacter
  split_ifs
  · exact h.null
  · split
    · refine h.append_size ?_ _
      unfold copyString
      split_ifs
      · exact fun w hw => nomatch hw
      · dsimp only
        split_ifs
        · exact hpair _ _ _ _
        · exact hpair _ _ _ _
    · dsimp only
      split_ifs
      · split
        · exact fun w hw => nomatch hw
        · exact h.append_size (hpair _ _ _ _) _
      · exact h.size _

theorem translateBinary (h : StoreRule t P) (htext : ∀ p s, P ⟨p, .chars s⟩) (data : Str) :
    ∀ w ∈ (TranslationWorker.translateBinary data t).writes, P w := by
  have hchunk : ∀ chunk : Str,
      ∀ w ∈ (if t.target ≠ 0 then [(⟨t.target, .chars chunk⟩ : Write)] else []), P w := by
    intro chunk
    split_ifs
    · exact List.forall_mem_singleton.mpr (htext _ _)
    · exact fun w hw => nomatch hw
  unfold TranslationWorker.translateBinary
  by_cases hempty : data.isEmpty = true
  · rw [if_pos hempty]
    exact h.null
  · rw [if_neg hempty]
    dsimp only
    generalize (if t.target ≠ 0 then copyFrom data (toSize t.targetLen)
      (toSize (toSqlInteger ((t.streamInfo.map DataStreamInfo.offset).getD 0)))
      else some []) = copied
    rcases copied with _ | chunk
    · exact fun w hw => nomatch hw
    · rcases t.streamInfo with _ | info
      · exact h.append_size (hchunk chunk) _
      · exact h.append_size (hchunk chunk) _

/-- **Whatever a worker stores** is a typed value, text or the size. -/
theorem translate (h : StoreRule t P) (worker : TranslationWorker) (data : Str)
    (htext : worker = .character ∨ worker = .binary → ∀ p s, P ⟨p, .chars s⟩) :
    ∀ w ∈ (worker.translate data t).writes, P w := by
  cases worker with
  | character => exact h.translateCharacter (htext (.inl rfl)) data
  | binary => exact h.translateBinary (htext (.inr rfl)) data
  | bit => exact h.blank (h.cons_size rfl 1)
  | date =>
    refine h.blank ?_
    split
    · exact h.size _
    · dsimp only
      split_ifs <;> exact h.append_size (h.all_typed rfl) _
  | timestamp =>
    refine h.blank ?_
    split
    · exact h.size _
    · exact h.append_size (h.all_typed rfl) _
  | time =>
    refine h.blank ?_
    split
    · exact h.size _
    · exact h.append_size (h.all_typed rfl) _
  | tiny =>
    refine h.blank ?_
    split
    · exact fun w hw => nomatch hw
    · split_ifs
      · exact h.cons_size rfl 1
      · exact fun w hw => nomatch hw
  | smallInt => exact h.blank (h.storeCast fun _ => rfl)
  | int => exact h.blank (h.storeCast fun _ => rfl)
  | bigInt => exact h.blank (h.storeCast fun _ => rfl)
  | decimal => exact h.blank (h.storeCast fun _ => rfl)
  | double => exact h.blank (h.storeCast fun _ => rfl)
  | numeric => exact h.translateNumeric data
  | uLong => exact h.blank (h.storeCast fun _ => rfl)
  | uShort => exact h.blank (h.storeCast fun _ => rfl)

end StoreRule

namespace DataTranslator

/-- **A translator stores what its worker does**, and without a worker the size alone. -/
theorem forall_translate {t : Target} {P : Write → Prop} (h : StoreRule t P)
    (htext : ∀ p s, P ⟨p, .chars s⟩) (dt : DataTranslator) (data : Str) (type : Int) :
    ∀ w ∈ (dt.translate data type t).writes, P w := by
  rcases hworker : dt.worker type with _ | worker
  · rcases dt with decimalAsString | _
    · have hnone : odbc2Trans decimalAsString type = none := hworker
      unfold translate
      dsimp only
      rw [hnone]
      exact h.size _
    · cases hworker
  · rw [(serves_translate hworker data t).writes]
    exact h.translate worker data fun _ => htext

end DataTranslator

end EzRets
