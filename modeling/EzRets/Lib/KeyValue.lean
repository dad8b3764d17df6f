import EzRets.Lib.Split

/-!
# EzRets.Lib.KeyValue — lists of `key=value` entries with a separator

A text is split at every separator and each piece is cut at its first `eq`; a piece without
`eq` is *bare*.  Printing writes `key=value` and a separator for each entry.  Printing does not
escape anything, so a value that contains the separator is read back in pieces.
-/

namespace KeyValue

variable {α : Type*} [DecidableEq α]

/-- The text before the first `eq` and, if there is one, the text after it. -/
def cut (eq : α) : List α → List α × Option (List α)
  | [] => ([], none)
  | c :: t => if c = eq then ([], some t) else (c :: (cut eq t).1, (cut eq t).2)

/-- The entries of a text. -/
def parse (sep eq : α) (t : List α) : List (List α × Option (List α)) :=
  (t.splitOn sep).map (cut eq)

/-- The text of a list of entries. -/
def print (sep eq : α) (l : List (List α × List α)) : List α :=
  l.flatMap fun p => p.1 ++ eq :: p.2 ++ [sep]

/-- What an entry is read back as: its value up to the first separator, then the rest of the
value as entries of their own. -/
def reread (sep eq : α) (p : List α × List α) : List (List α × Option (List α)) :=
  match p.2.splitOn sep with
  | [] => []
  | v :: stray => (p.1, some v) :: stray.map (cut eq)

variable {sep eq : α}

/-! ## Cutting a piece -/

theorem cut_of_not_mem : ∀ {t : List α}, eq ∉ t → cut eq t = (t, none)
  | [], _ => rfl
  | c :: t, h => by
    obtain ⟨hc, ht⟩ := not_or.mp (List.mem_cons.not.mp h)
    rw [cut, if_neg (Ne.symm hc), cut_of_not_mem ht]

/-- The first `eq` separates a key without `eq` from any value. -/
theorem cut_append_cons : ∀ {k : List α}, eq ∉ k → ∀ v, cut eq (k ++ eq :: v) = (k, some v)
  | [], _, v => by rw [List.nil_append, cut, if_pos rfl]
  | c :: k, h, v => by
    obtain ⟨hc, hk⟩ := not_or.mp (List.mem_cons.not.mp h)
    rw [List.cons_append, cut, if_neg (Ne.symm hc), cut_append_cons hk v]

/-- A bare piece is its own key. -/
theorem cut_eq_none {t k : List α} (h : cut eq t = (k, none)) : k = t := by
  induction t generalizing k with
  | nil => simpa [cut] using h.symm
  | cons c t ih =>
    rw [cut] at h
    split_ifs at h with hc
    · simp at h
    · obtain ⟨rfl, h2⟩ := Prod.mk.inj h
      exact congrArg (c :: ·) (ih (Prod.ext rfl h2))

/-! ## Reading a printed text -/

theorem parse_append_cons (t t' : List α) :
    parse sep eq (t ++ sep :: t') = parse sep eq t ++ parse sep eq t' := by
  simp only [parse, List.splitOn_append_cons_self, List.map_append]

/-- One printed entry. -/
theorem parse_entry {k : List α} (hse : sep ≠ eq) (hk : sep ∉ k) (he : eq ∉ k) (v : List α) :
    parse sep eq (k ++ eq :: v) = reread sep eq (k, v) := by
  obtain ⟨w, ws, hw⟩ := List.exists_cons_of_ne_nil (List.splitOn_ne_nil sep v)
  have hhead : (k ++ eq :: v).splitOn sep = (k ++ eq :: w) :: ws := by
    have hcons : ∀ (k : List α), sep ∉ k → (k ++ eq :: v).splitOn sep = (k ++ eq :: w) :: ws := by
      intro k hk
      induction k with
      | nil =>
        rw [List.nil_append, List.splitOn_cons_eq_if_modifyHead, hw]
        simp [hse.symm]
      | cons c k ih =>
        obtain ⟨hc, hk⟩ := not_or.mp (List.mem_cons.not.mp hk)
        rw [List.cons_append, List.splitOn_cons_eq_if_modifyHead, ih hk]
        simp [Ne.symm hc]
    exact hcons k hk
  rw [parse, hhead, List.map_cons, cut_append_cons he]
  simp [reread, hw]

/-- **A printed text is read back entry by entry**, followed by one empty piece. -/
theorem parse_print (hse : sep ≠ eq) {l : List (List α × List α)}
    (hl : ∀ p ∈ l, sep ∉ p.1 ∧ eq ∉ p.1) :
    parse sep eq (print sep eq l) = l.flatMap (reread sep eq) ++ [([], none)] := by
  induction l with
  | nil => rfl
  | cons p l ih =>
    obtain ⟨hk, he⟩ := hl p (by simp)
    have ih := ih fun q hq => hl q (by simp [hq])
    have hprint : print sep eq (p :: l) = (p.1 ++ eq :: p.2) ++ sep :: print sep eq l := by
      simp [print]
    rw [hprint, parse_append_cons, parse_entry hse hk he, ih, List.flatMap_cons,
      List.append_assoc]

omit [DecidableEq α] in
/-- A printed text is at least as long as each of its values. -/
theorem length_le_length_print {p : List α × List α} {l : List (List α × List α)} (hp : p ∈ l) :
    p.2.length ≤ (print sep eq l).length := by
  induction l with
  | nil => cases hp
  | cons q l ih =>
    have hprint : print sep eq (q :: l) = q.1 ++ eq :: q.2 ++ [sep] ++ print sep eq l := rfl
    rw [hprint, List.length_append, List.length_append, List.length_append, List.length_cons]
    rcases List.mem_cons.mp hp with rfl | hp
    · omega
    · have hrest := ih hp
      omega

/-- A value without separator is read back whole. -/
theorem reread_of_not_mem {p : List α × List α} (h : sep ∉ p.2) :
    reread sep eq p = [(p.1, some p.2)] := by
  simp [reread, List.splitOn_eq_singleton h]

end KeyValue
