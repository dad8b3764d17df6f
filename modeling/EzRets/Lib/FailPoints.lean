import Mathlib.Data.List.Basic

/-!
# EzRets.Lib.FailPoints — operations on a store, any of which may fail

A program tries operations on a store one after the other.  A numbered outcome decides whether an
operation succeeds; one that fails leaves the store alone and ends the program with an exception.
`Makes` says which operations a program tries, and its store is then what a prefix of them leaves.
-/

namespace FailPoints

variable {σ ι ε η : Type}

/-- The store, and how many operations have been tried. -/
structure Progress (σ : Type) where
  tried : Nat
  store : σ

/-- A program on a store. -/
abbrev Program (σ ε α : Type) := EStateM ε (Progress σ) α

section Programs

variable (perform : σ → ι → σ) (outcome : Nat → Option η)

/-- Tries one operation. -/
def attempt (raise : η → ε) (op : ι) : Program σ ε Unit := fun p =>
  match outcome p.tried with
  | none => .ok () ⟨p.tried + 1, perform p.store op⟩
  | some e => .error (raise e) ⟨p.tried + 1, p.store⟩

/-- Tries operations until one fails: whether none did, and what is left. -/
def tryAll : List ι → Progress σ → Bool × Progress σ
  | [], p => (true, p)
  | op :: ops, p =>
    match outcome p.tried with
    | none => tryAll ops ⟨p.tried + 1, perform p.store op⟩
    | some _ => (false, ⟨p.tried + 1, p.store⟩)

/-- The end of a program without the text of its exception. -/
def ended : EStateM.Result ε (Progress σ) Unit → Bool × Progress σ
  | .ok _ p => (true, p)
  | .error _ p => (false, p)

/-- The operations that a program tries if none of them fails. -/
def Makes (m : Program σ ε Unit) (ops : List ι) : Prop :=
  ∀ p, ended (m p) = tryAll perform outcome ops p

variable {perform outcome}

theorem tryAll_append (ops ops' : List ι) (p : Progress σ) :
    tryAll perform outcome (ops ++ ops') p =
      if (tryAll perform outcome ops p).1 then
        tryAll perform outcome ops' (tryAll perform outcome ops p).2
      else tryAll perform outcome ops p := by
  induction ops generalizing p with
  | nil => rfl
  | cons op ops ih =>
    rw [List.cons_append, tryAll, tryAll]
    rcases outcome p.tried with _ | e
    · exact ih _
    · rfl

theorem makes_pure : Makes perform outcome (pure () : Program σ ε Unit) [] := fun _ => rfl

theorem makes_attempt (raise : η → ε) (op : ι) :
    Makes perform outcome (attempt perform outcome raise op) [op] := by
  intro p
  unfold attempt
  rw [tryAll]
  rcases outcome p.tried with _ | e <;> rfl

theorem Makes.bind {m m' : Program σ ε Unit} {ops ops' : List ι} (h : Makes perform outcome m ops)
    (h' : Makes perform outcome m' ops') :
    Makes perform outcome (m >>= fun _ => m') (ops ++ ops') := by
  intro p
  have hm := h p
  rw [tryAll_append, ← hm]
  show ended (EStateM.bind m (fun _ => m') p) = _
  unfold EStateM.bind
  rcases m p with ⟨_, q⟩ | ⟨e, q⟩
  · exact h' q
  · rfl

theorem Makes.forM {α : Type} {f : α → Program σ ε Unit} {ops : α → List ι}
    (h : ∀ a, Makes perform outcome (f a) (ops a)) (l : List α) :
    Makes perform outcome (l.forM f) (l.flatMap ops) := by
  induction l with
  | nil => exact makes_pure
  | cons a l ih => exact (h a).bind ih

end Programs

/-! ## The operations that were performed -/

section Successes

variable (outcome : Nat → Option η)

/-- How many of `length` operations from number `n` on succeed before the first that fails. -/
def successes : Nat → Nat → Nat
  | _, 0 => 0
  | n, length + 1 =>
    match outcome n with
    | none => successes (n + 1) length + 1
    | some _ => 0

variable {outcome}

variable {perform : σ → ι → σ}

/-- **What is left in the store** are the operations before the first that failed. -/
theorem tryAll_store (ops : List ι) (p : Progress σ) :
    (tryAll perform outcome ops p).2.store =
      (ops.take (successes outcome p.tried ops.length)).foldl perform p.store := by
  induction ops generalizing p with
  | nil => rfl
  | cons op ops ih =>
    rw [tryAll, List.length_cons, successes]
    rcases outcome p.tried with _ | e
    · exact ih _
    · rfl

theorem Makes.store {m : Program σ ε Unit} {ops : List ι} (h : Makes perform outcome m ops)
    (p : Progress σ) : (ended (m p)).2.store =
      (ops.take (successes outcome p.tried ops.length)).foldl perform p.store := by
  rw [h p, tryAll_store]

end Successes

/-! ## Invariants, whatever fails -/

section Invariants

/-- Wherever the program ends, the invariant holds if it did before. -/
def Preserves (I : σ → Prop) (m : Program σ ε Unit) : Prop :=
  ∀ p, I p.store → I (ended (m p)).2.store

variable {I : σ → Prop}

theorem preserves_pure : Preserves I (pure () : Program σ ε Unit) := fun _ hI => hI

theorem preserves_throw (e : ε) : Preserves I (throw e : Program σ ε Unit) := fun _ hI => hI

theorem Preserves.bind {m m' : Program σ ε Unit} (h : Preserves I m) (h' : Preserves I m') :
    Preserves I (m >>= fun _ => m') := by
  intro p hI
  have hm := h p hI
  show I (ended (EStateM.bind m (fun _ => m') p)).2.store
  unfold EStateM.bind
  rcases hrun : m p with ⟨_, q⟩ | ⟨e, q⟩
  · rw [hrun] at hm
    exact h' q hm
  · rw [hrun] at hm
    exact hm

theorem Preserves.adaptExcept {ε' : Type} {f : ε → ε'} {m : Program σ ε Unit}
    (h : Preserves I m) : Preserves I (EStateM.adaptExcept f m) := by
  intro p hI
  have hm := h p hI
  unfold EStateM.adaptExcept
  rcases hrun : m p with ⟨_, q⟩ | ⟨e, q⟩
  · rw [hrun] at hm
    exact hm
  · rw [hrun] at hm
    exact hm

/-- A program preserves what each of its operations preserves. -/
theorem Makes.preserves {perform : σ → ι → σ} {outcome : Nat → Option η} {m : Program σ ε Unit}
    {ops : List ι} (h : Makes perform outcome m ops)
    (hops : ∀ op ∈ ops, ∀ s, I s → I (perform s op)) : Preserves I m := by
  intro p hI
  rw [h.store]
  exact List.foldlRecOn _ _ hI fun s hs op hop => hops op (List.mem_of_mem_take hop) s hs

end Invariants

end FailPoints
