import EzRets.Lib.FaultRun

/-!
# EzRets.Lib.Component — one component of a system of many

A system answers calls, and some of its calls are calls of one component, whose state is a part of
that of the system.  Where each call of its own does to the part what the component does alone,
and the other calls leave the part as it is, a run of the system shows the run of the component.
The same holds of a part that answers the calls of the system itself, and that the state of the
system tells apart.
-/

namespace Component

open FaultRun

universe u v w

variable {κ ε γ σ ρ : Type u} {φ : Type v} {ψ : Type w}

/-- The answers to a sequence of calls, in order, and the state that they leave. -/
def trace (call : κ → γ → Except φ (γ × ρ)) : List κ → γ → Except φ (γ × List ρ)
  | [], g => .ok (g, [])
  | c :: cs, g => do
    let out ← call c g
    let rest ← trace call cs out.1
    return (rest.1, out.2 :: rest.2)

/-- The state after a call. -/
def next (call : κ → γ → Except φ (γ × ρ)) (c : κ) (g : γ) : Except φ γ := (call c g).map Prod.fst

/-- The answers to the calls that are calls of the component. -/
def ownAnswers (own : κ → Option ε) (cs : List κ) (rs : List ρ) : List ρ :=
  (cs.zip rs).filterMap fun p => (own p.1).map fun _ => p.2

theorem ownAnswers_cons_own {own : κ → Option ε} {c : κ} {e : ε} (h : own c = some e) (cs : List κ)
    (r : ρ) (rs : List ρ) : ownAnswers own (c :: cs) (r :: rs) = r :: ownAnswers own cs rs := by
  simp [ownAnswers, h]

theorem ownAnswers_cons_other {own : κ → Option ε} {c : κ} (h : own c = none) (cs : List κ)
    (r : ρ) (rs : List ρ) : ownAnswers own (c :: cs) (r :: rs) = ownAnswers own cs rs := by
  simp [ownAnswers, h]

variable {call : κ → γ → Except φ (γ × ρ)} {localCall : ε → σ → Except ψ (σ × ρ)}
  {own : κ → Option ε} {P : κ → γ → Prop} {Part : γ → σ → Prop}

theorem trace_cons {c : κ} {cs : List κ} {g g' : γ} {rs : List ρ} :
    trace call (c :: cs) g = .ok (g', rs) ↔ ∃ g₁ r rs', call c g = .ok (g₁, r) ∧
      trace call cs g₁ = .ok (g', rs') ∧ rs = r :: rs' := by
  constructor
  · intro h
    obtain ⟨⟨g₁, r⟩, hcall, h⟩ := bind_eq_ok.mp h
    obtain ⟨⟨g₂, rs'⟩, hrest, h⟩ := bind_eq_ok.mp h
    obtain ⟨rfl, rfl⟩ := Prod.ext_iff.mp (Except.ok.inj h)
    exact ⟨g₁, r, rs', hcall, hrest, rfl⟩
  · rintro ⟨g₁, r, rs', hcall, hrest, rfl⟩
    simp only [trace, hcall, hrest, bind, Except.bind, pure, Except.pure]

theorem trace_append {cs cs' : List κ} {g g₁ g' : γ} {rs rs' : List ρ}
    (h : trace call cs g = .ok (g₁, rs)) (h' : trace call cs' g₁ = .ok (g', rs')) :
    trace call (cs ++ cs') g = .ok (g', rs ++ rs') := by
  induction cs generalizing g rs with
  | nil =>
    obtain ⟨rfl, rfl⟩ := Prod.ext_iff.mp (Except.ok.inj h)
    exact h'
  | cons c cs ih =>
    obtain ⟨g₂, r, rs₂, hcall, hrest, rfl⟩ := trace_cons.mp h
    exact trace_cons.mpr ⟨g₂, r, _, hcall, ih hrest, rfl⟩

variable (call localCall own P Part) in
/-- `Part g s`: in the system state `g` the component is in the state `s`.  A call is one of the
component or leaves it alone, as long as the calls meet `P`. -/
structure Embeds : Prop where
  owned : ∀ {c g e s g' r}, own c = some e → P c g → Part g s → call c g = .ok (g', r) →
    ∃ s', localCall e s = .ok (s', r) ∧ Part g' s'
  other : ∀ {c g s g' r}, own c = none → P c g → Part g s → call c g = .ok (g', r) → Part g' s

/-- **The calls of a component are answered as if it were alone.** -/
theorem Embeds.trace (h : Embeds call localCall own P Part) {cs : List κ} {g g' : γ} {s : σ}
    {rs : List ρ} (hP : Meets (next call) P cs g) (hpart : Part g s)
    (hrun : trace call cs g = .ok (g', rs)) :
    ∃ s', Component.trace localCall (cs.filterMap own) s = .ok (s', ownAnswers own cs rs) ∧
      Part g' s' := by
  induction cs generalizing g s rs with
  | nil =>
    obtain ⟨rfl, rfl⟩ := Prod.ext_iff.mp (Except.ok.inj hrun)
    exact ⟨s, rfl, hpart⟩
  | cons c cs ih =>
    obtain ⟨g₁, r, rs', hcall, hrest, rfl⟩ := trace_cons.mp hrun
    have hP₁ : Meets (next call) P cs g₁ := hP.2 g₁ (by rw [next, hcall]; rfl)
    rcases hown : own c with _ | e
    · have hpart₁ : Part g₁ s := h.other hown hP.1 hpart hcall
      rw [List.filterMap_cons_none hown, ownAnswers_cons_other hown]
      exact ih hP₁ hpart₁ hrest
    · obtain ⟨s₁, hlocal, hpart₁⟩ := h.owned hown hP.1 hpart hcall
      obtain ⟨s', hlater, hpart'⟩ := ih hP₁ hpart₁ hrest
      rw [List.filterMap_cons_some hown, ownAnswers_cons_own hown]
      exact ⟨s', trace_cons.mpr ⟨s₁, r, _, hlocal, hlater, rfl⟩, hpart'⟩

/-! ## A part that is a system of its own -/

variable (call) in
/-- The calls of a run that reach a part of the system, which depends on the state, each with its
answer. -/
def reaching (reaches : κ → γ → Bool) : List κ → γ → List (κ × ρ)
  | [], _ => []
  | c :: cs, g =>
    match call c g with
    | .error _ => []
    | .ok (g₁, r) =>
      if reaches c g then (c, r) :: reaching reaches cs g₁ else reaching reaches cs g₁

theorem reaching_cons {reaches : κ → γ → Bool} {c : κ} {g g₁ : γ} {r : ρ}
    (h : call c g = .ok (g₁, r)) (cs : List κ) :
    reaching call reaches (c :: cs) g =
      if reaches c g then (c, r) :: reaching call reaches cs g₁
      else reaching call reaches cs g₁ := by
  rw [reaching, h]

variable {reaches : κ → γ → Bool} {part : γ → γ} {I : γ → Prop}

variable (call P reaches part I) in
/-- `part g` is the system with one part only.  A call that reaches the part does there what it
does to the whole, and the others leave the part alone, in the states of an invariant. -/
structure Projects : Prop where
  keeps : ∀ {c g g' r}, I g → P c g → call c g = .ok (g', r) → I g'
  reached : ∀ {c g g' r}, reaches c g = true → I g → P c g → call c g = .ok (g', r) →
    call c (part g) = .ok (part g', r)
  missed : ∀ {c g g' r}, reaches c g = false → I g → P c g → call c g = .ok (g', r) →
    part g' = part g

/-- **The calls that reach a part are answered as if the system had no other.** -/
theorem Projects.trace (h : Projects call P reaches part I) {cs : List κ} {g g' : γ} {rs : List ρ}
    (hP : Meets (next call) P cs g) (hI : I g) (hrun : Component.trace call cs g = .ok (g', rs)) :
    Component.trace call ((reaching call reaches cs g).map Prod.fst) (part g) =
      .ok (part g', (reaching call reaches cs g).map Prod.snd) := by
  induction cs generalizing g rs with
  | nil =>
    obtain ⟨rfl, rfl⟩ := Prod.ext_iff.mp (Except.ok.inj hrun)
    rfl
  | cons c cs ih =>
    obtain ⟨g₁, r, rs', hcall, hrest, rfl⟩ := trace_cons.mp hrun
    have hP₁ : Meets (next call) P cs g₁ := hP.2 g₁ (by rw [next, hcall]; rfl)
    have hlater := ih hP₁ (h.keeps hI hP.1 hcall) hrest
    rw [reaching_cons hcall]
    rcases hreaches : reaches c g with _ | _
    · rw [if_neg Bool.false_ne_true, ← h.missed hreaches hI hP.1 hcall]
      exact hlater
    · rw [if_pos rfl]
      exact trace_cons.mpr ⟨part g₁, r, _, h.reached hreaches hI hP.1 hcall, hlater, rfl⟩

end Component
