import EzRets.Lib.Component

/-!
# EzRets.Lib.TwoRuns — two computations side by side

`Agree R x y` says that `x` and `y` end in the same fault, or both return and what they return is
related by `R`.  It has a rule for every way of composing computations.  A system whose calls agree
in related states answers two sequences of calls alike, also when the calls that keep the relation
are left out of one of them.
-/

namespace TwoRuns

open FaultRun Component

universe u v

variable {φ : Type v} {α β α' β' : Type u}

/-- The two computations fault alike, or return related values. -/
inductive Agree (R : α → β → Prop) : Except φ α → Except φ β → Prop
  | ok {a : α} {b : β} : R a b → Agree R (.ok a) (.ok b)
  | error (f : φ) : Agree R (.error f) (.error f)

variable {R : α → β → Prop} {S : α' → β' → Prop} {x : Except φ α} {y : Except φ β}

theorem Agree.map {f : α → α'} {g : β → β'} (h : Agree R x y)
    (hfg : ∀ a b, R a b → S (f a) (g b)) : Agree S (x.map f) (y.map g) := by
  cases h with
  | ok hab => exact .ok (hfg _ _ hab)
  | error f => exact .error f

theorem Agree.bind {f : α → Except φ α'} {g : β → Except φ β'} (h : Agree R x y)
    (hfg : ∀ a b, R a b → Agree S (f a) (g b)) : Agree S (x >>= f) (y >>= g) := by
  cases h with
  | ok hab => exact hfg _ _ hab
  | error f => exact .error f

/-- One computation with two continuations. -/
theorem agree_bind (x : Except φ α) {f : α → Except φ α'} {g : α → Except φ β'}
    (h : ∀ a, x = .ok a → Agree S (f a) (g a)) : Agree S (x >>= f) (x >>= g) := by
  cases x with
  | ok a => exact h a rfl
  | error f => exact .error f

theorem agree_map (x : Except φ α) {f : α → α'} {g : α → β'} (h : ∀ a, S (f a) (g a)) :
    Agree S (x.map f) (x.map g) := by
  cases x with
  | ok a => exact .ok (h a)
  | error f => exact .error f

theorem Agree.exists_ok {a : α} (h : Agree R x y) (hx : x = .ok a) : ∃ b, y = .ok b ∧ R a b := by
  cases h with
  | ok hab =>
    obtain rfl := Except.ok.inj hx
    exact ⟨_, rfl, hab⟩
  | error f => cases hx

/-! ## Systems -/

variable {κ γ ρ : Type u} {call : κ → γ → Except φ (γ × ρ)} {visible : κ → Bool}
  {Like : γ → γ → Prop}

/-- The states are alike, and so are the answers. -/
def LikeAnswers (Like : γ → γ → Prop) (a b : γ × ρ) : Prop := Like a.1 b.1 ∧ a.2 = b.2

/-- **Calls that keep the likeness of states may be left out**, where the other calls are answered
alike in states that are alike. -/
theorem embeds_visible
    (hvisible : ∀ c, visible c = true → ∀ g g', Like g g' →
      Agree (LikeAnswers Like) (call c g) (call c g'))
    (hinvisible : ∀ c, visible c = false → ∀ g g₁ r s, call c g = .ok (g₁, r) → Like g s →
      Like g₁ s) :
    Embeds call call (Option.guard visible) (fun _ _ => True) Like where
  owned := by
    intro c g e s g' r hown _ hlike hcall
    obtain ⟨rfl, hc⟩ := Option.guard_eq_some_iff.mp hown
    obtain ⟨⟨s', r'⟩, hlocal, hlike', hr⟩ := (hvisible c hc g s hlike).exists_ok hcall
    obtain rfl : r = r' := hr
    exact ⟨s', hlocal, hlike'⟩
  other := by
    intro c g s g' r hown _ hlike hcall
    exact hinvisible c (Option.guard_eq_none_iff.mp hown) g g' r s hcall hlike

/-- **Two sequences of calls that are answered alike step by step** have the same trace. -/
theorem trace_map_congr {ι : Type*} {f f' : ι → κ} {P : ι → γ → Prop}
    (hcall : ∀ i g, P i g → call (f i) g = call (f' i) g) {is : List ι} {g : γ}
    (h : Meets (fun i => next call (f i)) P is g) :
    trace call (is.map f) g = trace call (is.map f') g := by
  induction is generalizing g with
  | nil => rfl
  | cons i is ih =>
    have hfirst := hcall i g h.1
    rw [List.map_cons, List.map_cons, trace, trace, ← hfirst]
    rcases hout : call (f i) g with fault | out
    · rfl
    · have hstep : next call (f i) g = .ok out.1 := by
        rw [next, hout]
        rfl
      have hlater := ih (h.2 out.1 hstep)
      simp only [bind, Except.bind, hlater]

end TwoRuns
