import Mathlib.Data.List.Forall2

/-!
# EzRets.Lib.FaultRun — runs of a step function that may fault

A step takes a state and an input to a new state or ends in a fault, and a fault ends the run.
`Avoids f x` says that the computation `x` does not end in the fault `f`; it has a rule for every
way of composing computations, and so has `Yields P x`, that what `x` returns meets `P`, and
`Returns P x`, that it also returns.  For runs there are the invariant rule, the rule for a run that
goes through, and the splitting of a faulting run at the step that faults.
-/

namespace FaultRun

universe u v

variable {σ : Type u} {ι : Type*} {φ : Type v} {α β : Type u}

/-! ## Computations that avoid a fault -/

/-- `x` does not end in the fault `f`. -/
def Avoids (f : φ) (x : Except φ α) : Prop := x ≠ .error f

theorem avoids_ok (f : φ) (a : α) : Avoids f (.ok a : Except φ α) := by
  intro h
  cases h

theorem avoids_pure (f : φ) (a : α) : Avoids f (pure a : Except φ α) := avoids_ok f a

theorem avoids_error {f g : φ} (h : g ≠ f) : Avoids f (.error g : Except φ α) := by
  intro he
  exact h (Except.error.inj he)

theorem Avoids.bind {f : φ} {x : Except φ α} {g : α → Except φ β} (hx : Avoids f x)
    (hg : ∀ a, x = .ok a → Avoids f (g a)) : Avoids f (x >>= g) := by
  cases x with
  | error e => exact fun h => hx (congrArg Except.error (Except.error.inj h))
  | ok a => exact hg a rfl

theorem Avoids.map {f : φ} {x : Except φ α} (g : α → β) (hx : Avoids f x) :
    Avoids f (x.map g) := by
  cases x with
  | error e => exact fun h => hx (congrArg Except.error (Except.error.inj h))
  | ok a => exact avoids_ok f (g a)

theorem Avoids.mapM {f : φ} {g : α → Except φ β} {l : List α} (hg : ∀ a ∈ l, Avoids f (g a)) :
    Avoids f (l.mapM g) := by
  induction l with
  | nil => exact avoids_ok f []
  | cons a l ih =>
    rw [List.mapM_cons]
    have ha : Avoids f (g a) := hg a (by simp)
    have hl : Avoids f (l.mapM g) := ih fun a' ha' => hg a' (by simp [ha'])
    exact ha.bind fun b _ => hl.bind fun bs _ => avoids_pure f _

theorem Avoids.forM {f : φ} {g : α → Except φ PUnit} {l : List α}
    (hg : ∀ a ∈ l, Avoids f (g a)) : Avoids f (l.forM g) := by
  induction l with
  | nil => exact avoids_ok f _
  | cons a l ih =>
    have ha : Avoids f (g a) := hg a (by simp)
    have hl : Avoids f (l.forM g) := ih fun a' ha' => hg a' (by simp [ha'])
    exact ha.bind fun _ _ => hl

theorem bind_eq_ok {x : Except φ α} {g : α → Except φ β} {b : β} :
    x >>= g = .ok b ↔ ∃ a, x = .ok a ∧ g a = .ok b := by
  cases x with
  | error e => exact ⟨fun h => (by cases h), fun ⟨_, h, _⟩ => (by cases h)⟩
  | ok a => exact ⟨fun h => ⟨a, rfl, h⟩, fun ⟨_, ha, h⟩ => (Except.ok.inj ha) ▸ h⟩

theorem map_eq_ok {x : Except φ α} {g : α → β} {b : β} :
    x.map g = .ok b ↔ ∃ a, x = .ok a ∧ g a = b := by
  cases x with
  | error e => exact ⟨fun h => (by cases h), fun ⟨_, h, _⟩ => (by cases h)⟩
  | ok a =>
    exact ⟨fun h => ⟨a, rfl, Except.ok.inj h⟩,
      fun ⟨_, ha, h⟩ => congrArg Except.ok ((Except.ok.inj ha) ▸ h)⟩

theorem mapError_eq_ok {φ' : Type v} {x : Except φ α} {g : φ → φ'} {a : α} :
    x.mapError g = .ok a ↔ x = .ok a := by
  cases x with
  | error e => constructor <;> intro h <;> cases h
  | ok b => exact ⟨fun h => congrArg Except.ok (Except.ok.inj h),
      fun h => congrArg Except.ok (Except.ok.inj h)⟩

theorem map_map {γ : Type u} (x : Except φ α) (g : α → β) (k : β → γ) :
    (x.map g).map k = x.map fun a => k (g a) := by
  cases x with
  | error e => rfl
  | ok a => rfl

theorem map_bind_eq {γ : Type u} (x : Except φ α) (g : α → Except φ β) (k : β → γ) :
    (x >>= g).map k = x >>= fun a => (g a).map k := by
  cases x with
  | error e => rfl
  | ok a => rfl

/-- A traversal produces the results of its elements. -/
theorem mem_mapM_iff {f : α → Except φ β} {l : List α} {bs : List β} (h : l.mapM f = .ok bs)
    {b : β} : b ∈ bs ↔ ∃ a ∈ l, f a = .ok b := by
  induction l generalizing bs with
  | nil =>
    cases h
    simp
  | cons a l ih =>
    rw [List.mapM_cons] at h
    obtain ⟨b', hb', h⟩ := bind_eq_ok.mp h
    obtain ⟨bs', hbs', h⟩ := bind_eq_ok.mp h
    cases h
    have hhead : b = b' ↔ f a = .ok b := by
      rw [hb', Except.ok.injEq]
      exact eq_comm
    rw [List.mem_cons, List.exists_mem_cons_iff, ih hbs', hhead]

/-- A traversal that succeeds does so for every element. -/
theorem exists_of_mapM {f : α → Except φ β} {l : List α} {bs : List β} (h : l.mapM f = .ok bs)
    {a : α} (ha : a ∈ l) : ∃ b, f a = .ok b := by
  induction l generalizing bs with
  | nil => cases ha
  | cons a' l ih =>
    rw [List.mapM_cons] at h
    obtain ⟨b', hb', h⟩ := bind_eq_ok.mp h
    obtain ⟨bs', hbs', -⟩ := bind_eq_ok.mp h
    rcases List.mem_cons.mp ha with rfl | hmem
    · exact ⟨b', hb'⟩
    · exact ih hbs' hmem

/-- A traversal that succeeds pairs every element with its result. -/
theorem mapM_eq_ok_iff {f : α → Except φ β} {l : List α} {bs : List β} :
    l.mapM f = .ok bs ↔ List.Forall₂ (fun a b => f a = .ok b) l bs := by
  induction l generalizing bs with
  | nil =>
    rw [List.forall₂_nil_left_iff]
    exact ⟨fun h => (Except.ok.inj h).symm, fun h => congrArg Except.ok h.symm⟩
  | cons a l ih =>
    rw [List.mapM_cons, List.forall₂_cons_left_iff, bind_eq_ok]
    refine exists_congr fun b => ?_
    rw [bind_eq_ok, ← exists_and_left]
    refine exists_congr fun bs' => and_congr_right fun _ => and_congr ih ?_
    exact ⟨fun h => (Except.ok.inj h).symm, fun h => congrArg Except.ok h.symm⟩

/-- A traversal succeeds exactly when every element does. -/
theorem exists_mapM_iff {f : α → Except φ β} {l : List α} :
    (∃ bs, l.mapM f = .ok bs) ↔ ∀ a ∈ l, ∃ b, f a = .ok b := by
  constructor
  · rintro ⟨bs, hbs⟩ a ha
    exact exists_of_mapM hbs ha
  · intro h
    induction l with
    | nil => exact ⟨[], rfl⟩
    | cons a l ih =>
      obtain ⟨b, hb⟩ := h a (by simp)
      obtain ⟨bs, hbs⟩ := ih fun a' ha' => h a' (by simp [ha'])
      exact ⟨b :: bs, mapM_eq_ok_iff.mpr (.cons hb (mapM_eq_ok_iff.mp hbs))⟩

/-- A traversal that gives each element at most as many values as `g` collects what `g` does exactly
when it gives every element what `g` does. -/
theorem mapM_flatten_eq_iff {f : α → Except φ (List β)} {g : α → List β} {l : List α}
    (hle : ∀ a ∈ l, ∀ bs, f a = .ok bs → bs.length ≤ (g a).length) :
    (∃ bss, l.mapM f = .ok bss ∧ bss.flatten = l.flatMap g) ↔ ∀ a ∈ l, f a = .ok (g a) := by
  have htotal : ∀ l : List α, (∀ a ∈ l, ∀ bs, f a = .ok bs → bs.length ≤ (g a).length) →
      ∀ bss, l.mapM f = .ok bss → bss.flatten.length ≤ (l.flatMap g).length := by
    intro l
    induction l with
    | nil =>
      intro _ bss hbss
      cases hbss
      exact Nat.le_refl _
    | cons a l ih =>
      intro hle bss hbss
      rw [List.mapM_cons] at hbss
      obtain ⟨bs, hbs, hbss⟩ := bind_eq_ok.mp hbss
      obtain ⟨rest, hrest, hbss⟩ := bind_eq_ok.mp hbss
      cases hbss
      have hfirst := hle a (by simp) bs hbs
      have hothers := ih (fun a' ha' => hle a' (by simp [ha'])) rest hrest
      rw [List.flatten_cons, List.flatMap_cons, List.length_append, List.length_append]
      omega
  induction l with
  | nil => exact ⟨fun _ a ha => (nomatch ha), fun _ => ⟨[], rfl, rfl⟩⟩
  | cons a l ih =>
    have hle' : ∀ a' ∈ l, ∀ bs, f a' = .ok bs → bs.length ≤ (g a').length :=
      fun a' ha' => hle a' (by simp [ha'])
    rw [List.forall_mem_cons, List.mapM_cons]
    refine Iff.trans ?_ (and_congr_right fun _ => ih hle')
    constructor
    · rintro ⟨bss, hbss, heq⟩
      obtain ⟨bs, hbs, hbss⟩ := bind_eq_ok.mp hbss
      obtain ⟨rest, hrest, hbss⟩ := bind_eq_ok.mp hbss
      cases hbss
      have hfirst := hle a (by simp) bs hbs
      have hothers := htotal l hle' rest hrest
      rw [List.flatten_cons, List.flatMap_cons] at heq
      have hlength := congrArg List.length heq
      rw [List.length_append, List.length_append] at hlength
      obtain ⟨rfl, hflatten⟩ := List.append_inj heq (by omega)
      exact ⟨hbs, rest, hrest, hflatten⟩
    · rintro ⟨hbs, rest, hrest, hflatten⟩
      refine ⟨g a :: rest, ?_, ?_⟩
      · rw [hbs, hrest]
        rfl
      · rw [List.flatten_cons, List.flatMap_cons, hflatten]

/-! ## What computations return -/

/-- What `x` returns meets `P`. -/
def Yields (P : α → Prop) (x : Except φ α) : Prop := ∀ a, x = .ok a → P a

theorem yields_ok {P : α → Prop} {a : α} (h : P a) : Yields P (.ok a : Except φ α) := by
  intro a' ha
  obtain rfl := Except.ok.inj ha
  exact h

theorem yields_error (P : α → Prop) (f : φ) : Yields P (.error f : Except φ α) := by
  intro a ha
  cases ha

theorem yields_bind {P : β → Prop} {x : Except φ α} {g : α → Except φ β}
    (h : ∀ a, x = .ok a → Yields P (g a)) : Yields P (x >>= g) := by
  intro b hb
  obtain ⟨a, ha, hg⟩ := bind_eq_ok.mp hb
  exact h a ha b hg

theorem yields_map {P : β → Prop} {x : Except φ α} {g : α → β} (h : ∀ a, x = .ok a → P (g a)) :
    Yields P (x.map g) := by
  intro b hb
  obtain ⟨a, ha, rfl⟩ := map_eq_ok.mp hb
  exact h a ha

/-! ## Computations that return -/

/-- `x` returns, and what it returns meets `P`. -/
def Returns (P : α → Prop) (x : Except φ α) : Prop := ∃ a, x = .ok a ∧ P a

theorem returns_ok {P : α → Prop} {a : α} (h : P a) : Returns P (.ok a : Except φ α) :=
  ⟨a, rfl, h⟩

theorem Returns.mono {P Q : α → Prop} {x : Except φ α} (h : Returns P x) (hPQ : ∀ a, P a → Q a) :
    Returns Q x := by
  obtain ⟨a, hx, ha⟩ := h
  exact ⟨a, hx, hPQ a ha⟩

theorem Returns.bind {P : α → Prop} {Q : β → Prop} {x : Except φ α} {g : α → Except φ β}
    (h : Returns P x) (hg : ∀ a, x = .ok a → P a → Returns Q (g a)) : Returns Q (x >>= g) := by
  obtain ⟨a, hx, ha⟩ := h
  obtain ⟨b, hb, hQ⟩ := hg a hx ha
  exact ⟨b, bind_eq_ok.mpr ⟨a, hx, hb⟩, hQ⟩

theorem Returns.map {P : α → Prop} {Q : β → Prop} {x : Except φ α} {g : α → β}
    (h : Returns P x) (hg : ∀ a, x = .ok a → P a → Q (g a)) : Returns Q (x.map g) := by
  obtain ⟨a, hx, ha⟩ := h
  exact ⟨g a, map_eq_ok.mpr ⟨a, hx, rfl⟩, hg a hx ha⟩

theorem returns_mapM {f : α → Except φ β} {l : List α}
    (h : ∀ a ∈ l, Returns (fun _ => True) (f a)) : Returns (fun _ => True) (l.mapM f) := by
  have helems : ∀ a ∈ l, ∃ b, f a = .ok b := by
    intro a ha
    obtain ⟨b, hb, -⟩ := h a ha
    exact ⟨b, hb⟩
  obtain ⟨bs, hbs⟩ := exists_mapM_iff.mpr helems
  exact ⟨bs, hbs, trivial⟩

theorem returns_forM {f : α → Except φ PUnit} {l : List α}
    (h : ∀ a ∈ l, Returns (fun _ => True) (f a)) : Returns (fun _ => True) (l.forM f) := by
  induction l with
  | nil => exact returns_ok trivial
  | cons a l ih =>
    rw [List.forall_mem_cons] at h
    exact h.1.bind fun _ _ _ => ih h.2

/-! ## Runs -/

section Runs

variable (step : ι → σ → Except φ σ)

/-- The state after the inputs, or the first fault. -/
def run : List ι → σ → Except φ σ
  | [], s => .ok s
  | i :: is, s => step i s >>= run is

variable {step}

theorem run_append (is js : List ι) (s : σ) :
    run step (is ++ js) s = run step is s >>= run step js := by
  induction is generalizing s with
  | nil => rfl
  | cons i is ih =>
    rw [List.cons_append, run, run]
    cases step i s with
    | error e => rfl
    | ok s' => exact ih s'

theorem run_append_ok {is js : List ι} {s s' : σ} (h : run step is s = .ok s') :
    run step (is ++ js) s = run step js s' := by
  rw [run_append, h]
  rfl

/-- What every step keeps, the run keeps. -/
theorem run_invariant {P : σ → Prop} (hstep : ∀ i s s', P s → step i s = .ok s' → P s')
    {is : List ι} {s s' : σ} (hs : P s) (h : run step is s = .ok s') : P s' := by
  induction is generalizing s with
  | nil =>
    cases h
    exact hs
  | cons i is ih =>
    obtain ⟨t, ht, hrest⟩ := bind_eq_ok.mp h
    exact ih (hstep i s t hs ht) hrest

variable (step) in
/-- Every step of the run meets `P` in the state that the run has reached. -/
def Meets (P : ι → σ → Prop) : List ι → σ → Prop
  | [], _ => True
  | i :: is, s => P i s ∧ ∀ s', step i s = .ok s' → Meets P is s'

theorem Meets.append {P : ι → σ → Prop} {is js : List ι} {s s' : σ}
    (h : Meets step P (is ++ js) s) (hrun : run step is s = .ok s') : Meets step P js s' := by
  induction is generalizing s with
  | nil =>
    cases hrun
    exact h
  | cons i is ih =>
    obtain ⟨t, ht, hrest⟩ := bind_eq_ok.mp hrun
    exact ih (h.2 t ht) hrest

theorem Meets.of_append {P : ι → σ → Prop} {is js : List ι} {s : σ}
    (h : Meets step P (is ++ js) s) : Meets step P is s := by
  induction is generalizing s with
  | nil => trivial
  | cons i is ih => exact ⟨h.1, fun s' hs' => ih (h.2 s' hs')⟩

theorem Meets.of_forall {P : ι → σ → Prop} {is : List ι} (h : ∀ i ∈ is, ∀ s, P i s) (s : σ) :
    Meets step P is s := by
  induction is generalizing s with
  | nil => trivial
  | cons i is ih => exact ⟨h i (by simp) s, fun s' _ => ih (fun j hj => h j (by simp [hj])) s'⟩

theorem Meets.congr {P Q : ι → σ → Prop} (hPQ : ∀ i s, P i s ↔ Q i s) (is : List ι) (s : σ) :
    Meets step P is s ↔ Meets step Q is s := by
  induction is generalizing s with
  | nil => exact Iff.rfl
  | cons i is ih => exact and_congr (hPQ i s) (forall₂_congr fun s' _ => ih s')

/-- In a run that goes through only the steps that succeed count. -/
theorem Meets.congr_of_run {P Q : ι → σ → Prop}
    (hPQ : ∀ i s s', step i s = .ok s' → (P i s ↔ Q i s)) {is : List ι} {s s' : σ}
    (hrun : run step is s = .ok s') : Meets step P is s ↔ Meets step Q is s := by
  induction is generalizing s with
  | nil => exact Iff.rfl
  | cons i is ih =>
    obtain ⟨t, ht, hrest⟩ := bind_eq_ok.mp hrun
    refine and_congr (hPQ i s t ht) (forall₂_congr fun s₁ hs₁ => ?_)
    rw [ht] at hs₁
    obtain rfl := Except.ok.inj hs₁
    exact ih hrest

/-- What every step that meets `P` keeps, a run whose steps meet `P` keeps. -/
theorem Meets.invariant {P : ι → σ → Prop} {I : σ → Prop} {is : List ι} {s s' : σ}
    (h : Meets step P is s) (hstep : ∀ i ∈ is, ∀ s s', P i s → I s → step i s = .ok s' → I s')
    (hs : I s) (hrun : run step is s = .ok s') : I s' := by
  induction is generalizing s with
  | nil =>
    cases hrun
    exact hs
  | cons i is ih =>
    obtain ⟨t, ht, hrest⟩ := bind_eq_ok.mp hrun
    have hI : I t := hstep i (by simp) s t h.1 hs ht
    exact ih (h.2 t ht) (fun j hj => hstep j (by simp [hj])) hI hrest

/-- A run goes through when every step that meets `P` does and keeps an invariant. -/
theorem Meets.returns {P : ι → σ → Prop} {I : σ → Prop} {is : List ι} {s : σ}
    (h : Meets step P is s) (hstep : ∀ i s, P i s → I s → Returns I (step i s)) (hs : I s) :
    Returns I (run step is s) := by
  induction is generalizing s with
  | nil => exact returns_ok hs
  | cons i is ih => exact (hstep i s h.1 hs).bind fun s' hs' hI => ih (h.2 s' hs') hI

theorem Meets.mono {P Q : ι → σ → Prop} {is : List ι} {s : σ} (h : Meets step P is s)
    (hPQ : ∀ i s, P i s → Q i s) : Meets step Q is s := by
  induction is generalizing s with
  | nil => trivial
  | cons i is ih => exact ⟨hPQ i s h.1, fun s' hs' => ih (h.2 s' hs')⟩

/-- What follows from `P` and an invariant of the steps that meet `P` holds throughout. -/
theorem Meets.strengthen {P Q : ι → σ → Prop} {I : σ → Prop} {is : List ι} {s : σ}
    (h : Meets step P is s) (hstep : ∀ i s s', P i s → I s → step i s = .ok s' → I s') (hs : I s)
    (hQ : ∀ i s, P i s → I s → Q i s) : Meets step Q is s := by
  induction is generalizing s with
  | nil => trivial
  | cons i is ih =>
    exact ⟨hQ i s h.1 hs, fun s' hs' => ih (h.2 s' hs') (hstep i s s' h.1 hs hs')⟩

/-- A run ends in a fault exactly when one of its steps does, from the state reached before it. -/
theorem run_eq_error_iff {is : List ι} {s : σ} {f : φ} :
    run step is s = .error f ↔
      ∃ pre i post s', is = pre ++ i :: post ∧ run step pre s = .ok s' ∧ step i s' = .error f := by
  constructor
  · intro h
    induction is generalizing s with
    | nil => cases h
    | cons i is ih =>
      cases hi : step i s with
      | error e =>
        have he : e = f := by
          rw [run, hi] at h
          exact Except.error.inj h
        exact ⟨[], i, is, s, rfl, rfl, he ▸ hi⟩
      | ok t =>
        rw [run, hi] at h
        obtain ⟨pre, j, post, s', rfl, hpre, hj⟩ := ih h
        refine ⟨i :: pre, j, post, s', rfl, ?_, hj⟩
        rw [run, hi]
        exact hpre
  · rintro ⟨pre, i, post, s', rfl, hpre, hi⟩
    rw [run_append_ok hpre, run, hi]
    rfl

end Runs

end FaultRun
