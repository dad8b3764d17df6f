import EzRets.Lib.FaultRun

/-!
# EzRets.Lib.RecordLog — steps that write records on their state

A state carries a log of records.  A step that clears the log first leaves records of its own only;
one that appends to the log as it finds it does so only where the log was empty.
-/

namespace RecordLog

open FaultRun

universe u v

/-- The log of a state, and the state without it. -/
structure Log (σ : Type u) (ρ : Type u) where
  records : σ → List ρ
  clear : σ → σ
  records_clear : ∀ s, records (clear s) = []

variable {σ ρ : Type u} {ι : Type*} {φ : Type v} (L : Log σ ρ) (step : ι → σ → Except φ σ)

/-- The records after the step are the ones that it raises: those that it leaves in a state whose
log was cleared before. -/
def Own (i : ι) (s : σ) : Prop := (step i s).map L.records = (step i (L.clear s)).map L.records

/-- The step does not see the log. -/
def Clears (i : ι) : Prop := ∀ s, step i s = step i (L.clear s)

/-- The step appends its records to the log. -/
def Appends (i : ι) : Prop := ∀ s s', step i s = .ok s' →
  ∃ raised, step i (L.clear s) = .ok raised ∧ L.records s' = L.records s ++ L.records raised

variable {L step}

theorem Clears.own {i : ι} (h : Clears L step i) (s : σ) : Own L step i s :=
  congrArg (Except.map L.records) (h s)

/-- A step that does not touch the log appends nothing. -/
theorem Appends.of_silent {i : ι} (h : ∀ s s', step i s = .ok s' →
    step i (L.clear s) = .ok (L.clear s') ∧ L.records s' = L.records s) : Appends L step i := by
  intro s s' hs
  obtain ⟨hclear, hrecords⟩ := h s s' hs
  refine ⟨L.clear s', hclear, ?_⟩
  rw [hrecords, L.records_clear, List.append_nil]

/-- **An appending step leaves its own records exactly in a state without records.** -/
theorem Appends.own_iff {i : ι} (h : Appends L step i) {s s' : σ} (hs : step i s = .ok s') :
    Own L step i s ↔ L.records s = [] := by
  obtain ⟨raised, hraised, hrecords⟩ := h s s' hs
  unfold Own
  rw [hs, hraised]
  show (Except.ok (L.records s') : Except φ (List ρ)) = .ok (L.records raised) ↔ _
  rw [hrecords, Except.ok.injEq, List.append_left_eq_self]

/-- **Runs**: where every step that counts either clears or appends, the records are always those of
the last such step exactly when each of them clears or meets an empty log. -/
theorem own_run_iff {counts : ι → σ → Prop} {clears : ι → Prop}
    (hclears : ∀ i, clears i → Clears L step i)
    (happends : ∀ i s, counts i s → ¬ clears i → Appends L step i) {is : List ι} {s s' : σ}
    (hrun : run step is s = .ok s') :
    Meets step (fun i s => counts i s → Own L step i s) is s ↔
      Meets step (fun i s => counts i s → clears i ∨ L.records s = []) is s := by
  refine Meets.congr_of_run (fun i s s' hs => forall_congr' fun hcounts => ?_) hrun
  by_cases hi : clears i
  · exact iff_of_true ((hclears i hi).own s) (.inl hi)
  · rw [(happends i s hcounts hi).own_iff hs, or_iff_right hi]

end RecordLog
