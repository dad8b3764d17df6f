import Mathlib.Data.List.Basic

/-!
# EzRets.Lib.FirstFailure — output up to the first failure

Every element of a list gives some output and may fail.  The elements are worked through in order,
and the first that fails ends the work; what it has put out before it failed stays.
-/

universe u

namespace FirstFailure

variable {α β ε γ : Type u}

/-- The elements up to the first that fails, this one included. -/
def through (fails : α → Bool) : List α → List α
  | [] => []
  | a :: l => if fails a then [a] else a :: through fails l

variable (out : α → List β × Option ε)

/-- The output of a list and the failure that ended it. -/
def emit : List α → List β × Option ε
  | [] => ([], none)
  | a :: l =>
    match (out a).2 with
    | some e => ((out a).1, some e)
    | none => ((out a).1 ++ (emit l).1, (emit l).2)

variable {out}

/-- The output is that of the elements up to the first failure. -/
theorem emit_fst (l : List α) :
    (emit out l).1 = (through (fun a => (out a).2.isSome) l).flatMap fun a => (out a).1 := by
  induction l with
  | nil => rfl
  | cons a l ih =>
    rw [emit, through]
    rcases hfail : (out a).2 with _ | e
    · simp [ih]
    · simp

/-- The failure is the first one. -/
theorem emit_snd (l : List α) : (emit out l).2 = l.findSome? fun a => (out a).2 := by
  induction l with
  | nil => rfl
  | cons a l ih =>
    rw [emit, List.findSome?_cons]
    rcases (out a).2 with _ | e
    · exact ih
    · rfl

/-- Elements that neither put anything out nor fail may be left out. -/
theorem emit_filterMap {f : α → Option γ} {out' : γ → List β × Option ε}
    (hsilent : ∀ a, f a = none → out a = ([], none))
    (hsame : ∀ a c, f a = some c → out a = out' c) (l : List α) :
    emit out l = emit out' (l.filterMap f) := by
  induction l with
  | nil => rfl
  | cons a l ih =>
    rcases hf : f a with _ | c
    · rw [List.filterMap_cons_none hf, ← ih, emit, hsilent a hf]
      rfl
    · rw [List.filterMap_cons_some hf, emit, emit, ih, hsame a c hf]

end FirstFailure
