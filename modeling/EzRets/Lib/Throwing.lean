import EzRets.Lib.FailPoints

/-!
# EzRets.Lib.Throwing — programs that other code may interrupt

A program works on a store.  It returns or throws, and what it has done to the store before it
throws stays done; a fault ends everything.  Its calls into other code are counted, and a numbered
outcome says which of them throw.  `Keeps view m` says that `m` leaves `view` of the store alone
however it ends, `Returns m P` that what `m` returns meets `P`, and `Computes m x` that `m` does
nothing but compute `x`.
-/

namespace Throwing

open FailPoints (Progress)

variable {σ τ ε φ α β : Type}

/-- A program on a store; `tried` counts its calls into other code. -/
abbrev Program (σ ε φ α : Type) := ExceptT ε (StateT (Progress σ) (Except φ)) α

/-- A call into other code. -/
def mayThrow (outcome : Nat → Option ε) : Program σ ε φ Unit := fun p =>
  match outcome p.tried with
  | none => .ok (.ok (), ⟨p.tried + 1, p.store⟩)
  | some e => .ok (.error e, ⟨p.tried + 1, p.store⟩)

/-- A value, or a fault. -/
def orFault (x : Except φ α) : Program σ ε φ α := fun p => x.map fun a => (.ok a, p)

/-- An assignment to the store. -/
def update (f : σ → σ) : Program σ ε φ Unit := fun p => .ok (.ok (), ⟨p.tried, f p.store⟩)

theorem bind_run (m : Program σ ε φ α) (f : α → Program σ ε φ β) (p : Progress σ) :
    (m >>= f) p = match m p with
      | .error fault => .error fault
      | .ok (.error e, q) => .ok (.error e, q)
      | .ok (.ok a, q) => f a q := by
  show (StateT.bind m (ExceptT.bindCont f)) p = _
  unfold StateT.bind
  rcases m p with fault | ⟨e | a, q⟩ <;> rfl

theorem tryCatch_run (m : Program σ ε φ α) (handler : ε → Program σ ε φ α) (p : Progress σ) :
    ExceptT.tryCatch m handler p = match m p with
      | .error fault => .error fault
      | .ok (.error e, q) => handler e q
      | .ok (.ok a, q) => .ok (.ok a, q) := by
  simp only [ExceptT.tryCatch, ExceptT.mk, bind, StateT.bind]
  rcases m p with fault | ⟨e | a, q⟩ <;> rfl

/-- A call into other code throws and ends the program, or it does not count. -/
theorem after_mayThrow_cases {outcome : Nat → Option ε} {m : Program σ ε φ α} {p p' : Progress σ}
    {r : Except ε α} (h : (mayThrow outcome >>= fun _ => m) p = .ok (r, p')) :
    (∃ e, r = .error e ∧ p'.store = p.store) ∨ m ⟨p.tried + 1, p.store⟩ = .ok (r, p') := by
  rw [bind_run] at h
  unfold mayThrow at h
  rcases hout : outcome p.tried with _ | e <;> rw [hout] at h
  · exact .inr h
  · cases h
    exact .inl ⟨e, rfl, rfl⟩

/-! ## Programs that leave the store alone -/

/-- What `view` shows of the store is the same after the program, whether it returns or throws. -/
def Keeps (view : σ → τ) (m : Program σ ε φ α) : Prop :=
  ∀ p r p', m p = .ok (r, p') → view p'.store = view p.store

section Keeps

variable {view : σ → τ}

theorem keeps_pure (a : α) : Keeps view (pure a : Program σ ε φ α) := by
  intro p r p' h
  cases h
  rfl

theorem keeps_throw (e : ε) : Keeps view (throw e : Program σ ε φ α) := by
  intro p r p' h
  cases h
  rfl

theorem keeps_orFault (x : Except φ α) : Keeps view (orFault x : Program σ ε φ α) := by
  intro p r p' h
  unfold orFault at h
  rcases x with fault | a <;> cases h
  rfl

theorem keeps_update {f : σ → σ} (hf : ∀ s, view (f s) = view s) :
    Keeps view (update f : Program σ ε φ Unit) := by
  intro p r p' h
  cases h
  exact hf p.store

theorem Keeps.bind {m : Program σ ε φ α} {f : α → Program σ ε φ β} (hm : Keeps view m)
    (hf : ∀ a, Keeps view (f a)) : Keeps view (m >>= f) := by
  intro p r p' h
  rw [bind_run] at h
  rcases hr : m p with fault | ⟨e | a, q⟩ <;> rw [hr] at h
  · cases h
  · cases h
    exact hm p _ _ hr
  · rw [hf a q r p' h, hm p _ q hr]

theorem Keeps.after_mayThrow {outcome : Nat → Option ε} {m : Program σ ε φ α}
    (hm : Keeps view m) : Keeps view (mayThrow outcome >>= fun _ => m) := by
  intro p r p' h
  rcases after_mayThrow_cases h with ⟨e, -, hstore⟩ | h
  · rw [hstore]
  · exact hm ⟨p.tried + 1, p.store⟩ r p' h

end Keeps

/-! ## What a program returns -/

/-- The program throws or returns a value with `P`. -/
def Returns (m : Program σ ε φ α) (P : α → Prop) : Prop :=
  ∀ p a p', m p = .ok (.ok a, p') → P a

theorem returns_pure {P : α → Prop} {a : α} (h : P a) :
    Returns (pure a : Program σ ε φ α) P := by
  intro p a' p' hp
  cases hp
  exact h

theorem returns_throw {P : α → Prop} (e : ε) : Returns (throw e : Program σ ε φ α) P := by
  intro p a p' hp
  cases hp

theorem returns_bind {m : Program σ ε φ α} {f : α → Program σ ε φ β} {P : β → Prop}
    (hf : ∀ a, Returns (f a) P) : Returns (m >>= f) P := by
  intro p b p' h
  rw [bind_run] at h
  rcases hr : m p with fault | ⟨e | a, q⟩ <;> rw [hr] at h
  · cases h
  · cases h
  · exact hf a q b p' h

/-! ## Programs that only compute -/

/-- The program ends as `x` does, with the store as it was. -/
def Computes (m : Program σ ε φ α) (x : Except φ (Except ε α)) : Prop :=
  ∀ p, ∃ n, m p = x.map fun r => (r, ⟨n, p.store⟩)

theorem computes_pure (a : α) : Computes (pure a : Program σ ε φ α) (.ok (.ok a)) :=
  fun p => ⟨p.tried, rfl⟩

theorem computes_throw (e : ε) : Computes (throw e : Program σ ε φ α) (.ok (.error e)) :=
  fun p => ⟨p.tried, rfl⟩

/-- A call that does not throw. -/
theorem Computes.after_mayThrow {m : Program σ ε φ α} {x : Except φ (Except ε α)}
    (hm : Computes m x) : Computes (mayThrow (fun _ => none) >>= fun _ => m) x :=
  fun p => hm ⟨p.tried + 1, p.store⟩

theorem computes_orFault_bind {c : Except φ α} {f : α → Program σ ε φ β}
    {y : α → Except φ (Except ε β)} (hf : ∀ a, c = .ok a → Computes (f a) (y a)) :
    Computes (orFault c >>= f) (c >>= y) := by
  intro p
  rcases c with fault | a
  · exact ⟨p.tried, rfl⟩
  · exact hf a rfl p

/-- A first part that returns. -/
theorem Computes.bind_ok {m : Program σ ε φ α} {f : α → Program σ ε φ β} {a : α}
    {y : Except φ (Except ε β)} (hm : Computes m (.ok (.ok a))) (hf : Computes (f a) y) :
    Computes (m >>= f) y := by
  intro p
  obtain ⟨n, hn⟩ := hm p
  rw [bind_run, hn]
  exact hf ⟨n, p.store⟩

/-- A first part that may throw. -/
theorem Computes.bind_except {m : Program σ ε φ α} {f : α → Program σ ε φ β} {x : Except ε α}
    {y : α → Except φ (Except ε β)} (hm : Computes m (.ok x)) (hf : ∀ a, Computes (f a) (y a)) :
    Computes (m >>= f) (match x with
      | .ok a => y a
      | .error e => .ok (.error e)) := by
  intro p
  obtain ⟨n, hn⟩ := hm p
  rw [bind_run, hn]
  rcases x with e | a
  · exact ⟨n, rfl⟩
  · exact hf a ⟨n, p.store⟩

theorem Computes.map {m : Program σ ε φ α} {x : Except φ (Except ε α)} (hm : Computes m x)
    (g : α → β) : Computes (m >>= fun a => pure (g a)) (x.map fun r => r.map g) := by
  intro p
  obtain ⟨n, hn⟩ := hm p
  rw [bind_run, hn]
  rcases x with fault | e | a <;> exact ⟨n, rfl⟩

end Throwing
