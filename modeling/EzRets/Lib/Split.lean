import Mathlib.Algebra.GroupWithZero.Nat
import Mathlib.Data.List.Basic
import Mathlib.Tactic.SplitIfs

/-!
# EzRets.Lib.Split — pieces of a text between separators

`List.splitOn` keeps empty pieces, as `boost::split` does without token compression.
-/

namespace Split

variable {α : Type*}

section Pieces

variable [BEq α] [LawfulBEq α]

/-- No piece contains the separator. -/
theorem not_mem_of_mem_splitOn {a : α} {w : List α} :
    ∀ {t : List α}, w ∈ t.splitOn a → a ∉ w
  | [], hw => by
    rw [List.splitOn_nil, List.mem_singleton] at hw
    subst hw
    simp
  | x :: t, hw => by
    obtain ⟨r, rs, hr⟩ := List.exists_cons_of_ne_nil (List.splitOn_ne_nil a t)
    have hmem : ∀ w ∈ r :: rs, a ∉ w := fun w h => not_mem_of_mem_splitOn (hr ▸ h)
    rw [List.splitOn_cons_eq_if_modifyHead, hr] at hw
    split_ifs at hw with hx
    · rcases List.mem_cons.mp hw with rfl | hw
      · simp
      · exact hmem w hw
    · rcases List.mem_cons.mp hw with rfl | hw
      · have hra : a ∉ r := hmem r (by simp)
        have hxa : a ≠ x := fun h => hx (by simp [h])
        simp [hxa, hra]
      · exact hmem w (by simp [hw])

/-- The first piece of a text is the whole text exactly when there is no separator in it. -/
theorem head_splitOn_eq_self_iff {a : α} {t : List α} :
    (t.splitOn a).head? = some t ↔ a ∉ t := by
  constructor
  · intro h
    exact not_mem_of_mem_splitOn (List.mem_of_mem_head? h)
  · intro h
    rw [List.splitOn_eq_singleton h]
    rfl

/-- A single piece is the whole text. -/
theorem splitOn_of_length_le_one {a : α} {t : List α} (h : (t.splitOn a).length ≤ 1) :
    t.splitOn a = [t] := by
  obtain ⟨w, ws, hsplit⟩ := List.exists_cons_of_ne_nil (List.splitOn_ne_nil a t)
  have hjoin := @List.intercalate_splitOn _ t _ _ a
  rw [hsplit, List.length_cons] at h
  obtain rfl : ws = [] := List.length_eq_zero_iff.mp (by omega)
  rw [hsplit, List.intercalate_singleton] at hjoin
  rw [hsplit, hjoin]

/-- Two pieces have one separator between them. -/
theorem eq_of_splitOn_pair {a : α} {t x y : List α} (h : t.splitOn a = [x, y]) :
    t = x ++ a :: y := by
  have hjoin := @List.intercalate_splitOn _ t _ _ a
  rw [h] at hjoin
  rw [← hjoin]
  simp [List.intercalate]

end Pieces

/-! ## Texts put together again -/

theorem intercalate_append {a : α} {l m : List (List α)} (hl : l ≠ []) (hm : m ≠ []) :
    [a].intercalate (l ++ m) = [a].intercalate l ++ a :: [a].intercalate m := by
  induction l with
  | nil => exact absurd rfl hl
  | cons w l ih =>
    by_cases hnil : l = []
    · rw [hnil, List.singleton_append, List.intercalate_cons_of_ne_nil hm,
        List.intercalate_singleton]
      simp
    · have hrest : l ++ m ≠ [] := by simp [hnil]
      rw [List.cons_append, List.intercalate_cons_of_ne_nil hrest,
        List.intercalate_cons_of_ne_nil hnil, ih hnil]
      simp

/-- Without separators in it the text is a single piece. -/
theorem not_mem_intercalate_iff {a : α} {l : List (List α)} (hl : l ≠ []) :
    a ∉ [a].intercalate l ↔ ∃ w, l = [w] ∧ a ∉ w := by
  rcases l with _ | ⟨w, _ | ⟨w', l⟩⟩
  · exact absurd rfl hl
  · rw [List.intercalate_singleton]
    exact ⟨fun h => ⟨w, rfl, h⟩, fun ⟨_, hw, h⟩ => by rwa [(List.cons.inj hw).1]⟩
  · refine iff_of_false (fun h => h ?_) ?_
    · rw [List.intercalate_cons_cons]
      simp
    · rintro ⟨_, hw, -⟩
      cases (List.cons.inj hw).2

/-- A joined text has one separator between two pieces. -/
theorem length_intercalate {a : α} {l : List (List α)} (hl : l ≠ []) :
    ([a].intercalate l).length + 1 = (l.map List.length).sum + l.length := by
  induction l with
  | nil => exact absurd rfl hl
  | cons w l ih =>
    by_cases hnil : l = []
    · rw [hnil, List.intercalate_singleton]
      simp
    · have hrest := ih hnil
      rw [List.intercalate_cons_of_ne_nil hnil]
      simp only [List.length_append, List.length_nil, List.map_cons, List.sum_cons,
        List.length_cons]
      omega

section Quoted

variable [DecidableEq α] (sep quote : α)

/-- The pieces between the separators that stand outside quotes; the flag says whether the text
starts inside them. -/
def splitQuoted : Bool → List α → List (List α)
  | _, [] => [[]]
  | quoted, a :: l =>
    if a = sep ∧ quoted = false then [] :: splitQuoted false l
    else (splitQuoted (if a = quote then !quoted else quoted) l).modifyHead (a :: ·)

variable {sep quote}

/-- The first piece is a beginning of the text, and the others are parts of it. -/
theorem splitQuoted_pieces (quoted : Bool) (l : List α) :
    ∃ w ws, splitQuoted sep quote quoted l = w :: ws ∧ w <+: l ∧ ∀ w' ∈ ws, w' <:+: l := by
  induction l generalizing quoted with
  | nil => exact ⟨[], [], rfl, List.prefix_rfl, by simp⟩
  | cons a l ih =>
    rw [splitQuoted]
    by_cases hsep : a = sep ∧ quoted = false
    · rw [if_pos hsep]
      obtain ⟨w, ws, hsplit, hw, hws⟩ := ih false
      refine ⟨[], w :: ws, by rw [hsplit], List.nil_prefix, fun w' hw' => ?_⟩
      rcases List.mem_cons.mp hw' with rfl | hw'
      · exact List.infix_cons hw.isInfix
      · exact List.infix_cons (hws w' hw')
    · rw [if_neg hsep]
      obtain ⟨w, ws, hsplit, hw, hws⟩ := ih (if a = quote then !quoted else quoted)
      refine ⟨a :: w, ws, by rw [hsplit, List.modifyHead_cons], ?_, fun w' hw' => ?_⟩
      · exact List.cons_prefix_cons.mpr ⟨rfl, hw⟩
      · exact List.infix_cons (hws w' hw')

theorem isInfix_of_mem_splitQuoted {quoted : Bool} {l w : List α}
    (h : w ∈ splitQuoted sep quote quoted l) : w <:+: l := by
  obtain ⟨w', ws, hsplit, hw', hws⟩ := @splitQuoted_pieces _ _ sep quote quoted l
  rw [hsplit] at h
  rcases List.mem_cons.mp h with rfl | h
  · exact hw'.isInfix
  · exact hws w h

end Quoted

end Split
