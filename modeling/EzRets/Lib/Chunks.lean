import Mathlib.Data.List.Basic

/-!
# EzRets.Lib.Chunks — reading a list in portions

A reader keeps an offset into a list `v` and delivers the next elements, at most as many as it is
asked for.  `Transcript R off as` says that the answers `as` follow one another from the offset
`off` on, each related to the offsets around it by `R`.  Whatever the answers are, if each one
delivers what lies between its two offsets, nothing is lost and nothing comes twice.
-/

namespace Chunks

universe u v

variable {α : Type u} {β : Type v}

/-- At most `n` elements from the offset on. -/
def chunk (v : List α) (off n : Nat) : List α := (v.drop off).take n

theorem length_chunk (v : List α) (off n : Nat) :
    (chunk v off n).length = min n (v.length - off) := by
  simp [chunk]

theorem take_append_chunk (v : List α) (off n : Nat) :
    v.take off ++ chunk v off n = v.take (off + (chunk v off n).length) := by
  have hchunk : chunk v off n = (v.drop off).take (chunk v off n).length := by
    rw [length_chunk, chunk]
    rcases Nat.le_total n (v.length - off) with h | h
    · rw [Nat.min_eq_left h]
    · have hlength : (v.drop off).length = v.length - off := List.length_drop
      rw [Nat.min_eq_right h, List.take_of_length_le (by omega), List.take_of_length_le (by omega)]
  rw [List.take_add, ← hchunk]

/-- Answers that follow one another: `R off a off'` relates an answer to the offsets before and
after it. -/
inductive Transcript (R : Nat → β → Nat → Prop) : Nat → List β → Prop
  | nil {off : Nat} : Transcript R off []
  | cons {off off' : Nat} {a : β} {as : List β} :
      R off a off' → Transcript R off' as → Transcript R off (a :: as)

variable {R : Nat → β → Nat → Prop} {v : List α} {deliver : β → List α}

/-- **The answers before any answer have delivered the list up to its offset.** -/
theorem Transcript.delivered
    (hR : ∀ off a off', R off a off' → v.take off ++ deliver a = v.take off')
    {off : Nat} {before after : List β} {a : β} (h : Transcript R off (before ++ a :: after)) :
    ∃ off₁ off₂, v.take off ++ before.flatMap deliver = v.take off₁ ∧ R off₁ a off₂ := by
  induction before generalizing off with
  | nil =>
    cases h with
    | cons hstep _ => exact ⟨off, _, by simp, hstep⟩
  | cons b before ih =>
    cases h with
    | cons hstep hrest =>
      obtain ⟨off₁, off₂, hbefore, hanswer⟩ := ih hrest
      refine ⟨off₁, off₂, ?_, hanswer⟩
      rw [List.flatMap_cons, ← List.append_assoc, hR _ _ _ hstep]
      exact hbefore

end Chunks
