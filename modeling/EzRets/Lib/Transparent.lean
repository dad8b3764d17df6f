import Mathlib.Tactic.TypeStar

/-!
# EzRets.Lib.Transparent — components whose state does not show

A component answers calls and may change its state with every call.  Its state does not show when
each answer is that of a fixed function of the call alone; an invariant of the state is enough
for that.
-/

namespace Transparent

variable {σ κ ρ : Type*}

/-- The answers to a sequence of calls, in order, and the state that the calls leave. -/
def answers (call : κ → σ → ρ × σ) : List κ → σ → List ρ × σ
  | [], s => ([], s)
  | c :: cs, s => ((call c s).1 :: (answers call cs (call c s).2).1,
      (answers call cs (call c s).2).2)

/-- In a state with the invariant every call is answered by `answer` and keeps the invariant. -/
structure Hides (call : κ → σ → ρ × σ) (answer : κ → ρ) (Inv : σ → Prop) : Prop where
  result : ∀ c s, Inv s → (call c s).1 = answer c
  keeps : ∀ c s, Inv s → Inv (call c s).2

variable {call : κ → σ → ρ × σ} {answer : κ → ρ} {Inv : σ → Prop}

/-- **The answers to a sequence of calls are those of the function.** -/
theorem Hides.answers_eq_map (h : Hides call answer Inv) (calls : List κ) {s : σ} (hs : Inv s) :
    (answers call calls s).1 = calls.map answer := by
  induction calls generalizing s with
  | nil => rfl
  | cons c cs ih =>
    have hlater := ih (h.keeps c s hs)
    show (call c s).1 :: _ = answer c :: _
    rw [h.result c s hs, hlater]

end Transparent
