import Mathlib.Data.List.Count
import Mathlib.Logic.Function.Basic

/-!
# EzRets.Lib.Ownership — owners that list what they own

Every live object keeps a pointer to its owner, and every live owner keeps a list of its objects.
`Linked` says that the two agree; allocating and releasing on either side keeps it.
-/

namespace Ownership

variable {κ π : Type*} [DecidableEq κ]

/-- Every object is listed once by its owner, and the lists hold nothing else. -/
structure Linked (owner : κ → Option π) (children : π → Option (List κ)) : Prop where
  listed : ∀ {k p}, owner k = some p → ∃ l, children p = some l ∧ l.count k = 1
  owned : ∀ {p l k}, children p = some l → k ∈ l → owner k = some p

theorem linked_empty : Linked (fun _ : κ => (none : Option π)) (fun _ => none) := by
  constructor
  · intro k p h
    cases h
  · intro p l k h
    cases h

variable [DecidableEq π] {owner : κ → Option π} {children : π → Option (List κ)} {k : κ} {p : π}
  {l : List κ}

/-- A new owner lists nothing. -/
theorem Linked.addOwner (h : Linked owner children) (hp : children p = none) :
    Linked owner (Function.update children p (some [])) := by
  constructor
  · intro k' p' hk'
    obtain ⟨l, hl, hcount⟩ := h.listed hk'
    have hne : p' ≠ p := by
      rintro rfl
      rw [hp] at hl
      cases hl
    exact ⟨l, by rw [Function.update_of_ne hne, hl], hcount⟩
  · intro p' l k' hl hmem
    by_cases hne : p' = p
    · subst hne
      rw [Function.update_self] at hl
      obtain rfl := Option.some.inj hl
      cases hmem
    · rw [Function.update_of_ne hne] at hl
      exact h.owned hl hmem

/-- An owner that lists nothing can go. -/
theorem Linked.removeOwner (h : Linked owner children) (hp : children p = some []) :
    Linked owner (Function.update children p none) := by
  constructor
  · intro k' p' hk'
    obtain ⟨l, hl, hcount⟩ := h.listed hk'
    have hne : p' ≠ p := by
      rintro rfl
      rw [hp] at hl
      obtain rfl := Option.some.inj hl
      cases hcount
    exact ⟨l, by rw [Function.update_of_ne hne, hl], hcount⟩
  · intro p' l k' hl hmem
    have hne : p' ≠ p := by
      rintro rfl
      rw [Function.update_self] at hl
      cases hl
    rw [Function.update_of_ne hne] at hl
    exact h.owned hl hmem

/-- An object comes to the owner `p` or leaves it: only its entry in the list of `p` changes. -/
theorem Linked.relist (h : Linked owner children) (hp : children p = some l) {o : Option π}
    {l' : List κ} (hk : ∀ p', owner k = some p' → p' = p)
    (ho : ∀ p', o = some p' → p' = p ∧ l'.count k = 1) (hmine : k ∈ l' → o = some p)
    (hothers : ∀ k' ≠ k, l'.count k' = l.count k') :
    Linked (Function.update owner k o) (Function.update children p (some l')) := by
  constructor
  · intro k' p' hk'
    by_cases hkk : k' = k
    · subst hkk
      rw [Function.update_self] at hk'
      obtain ⟨rfl, hcount⟩ := ho p' hk'
      exact ⟨l', Function.update_self _ _ _, hcount⟩
    · rw [Function.update_of_ne hkk] at hk'
      obtain ⟨l₁, hl₁, hcount⟩ := h.listed hk'
      by_cases hpp : p' = p
      · subst hpp
        obtain rfl := Option.some.inj (hp.symm.trans hl₁)
        exact ⟨l', Function.update_self _ _ _, (hothers k' hkk).trans hcount⟩
      · exact ⟨l₁, by rw [Function.update_of_ne hpp, hl₁], hcount⟩
  · intro p' l₁ k' hl₁ hmem
    by_cases hpp : p' = p
    · subst hpp
      rw [Function.update_self] at hl₁
      obtain rfl := Option.some.inj hl₁
      by_cases hkk : k' = k
      · subst hkk
        rw [Function.update_self]
        exact hmine hmem
      · have hold : k' ∈ l := by
          rw [← List.count_pos_iff, ← hothers k' hkk]
          exact List.count_pos_iff.mpr hmem
        rw [Function.update_of_ne hkk]
        exact h.owned hp hold
    · rw [Function.update_of_ne hpp] at hl₁
      have howner : owner k' = some p' := h.owned hl₁ hmem
      have hkk : k' ≠ k := by
        rintro rfl
        exact hpp (hk p' howner)
      rw [Function.update_of_ne hkk, howner]

/-- A new object is appended to the list of its owner. -/
theorem Linked.addChild (h : Linked owner children) (hk : owner k = none)
    (hp : children p = some l) :
    Linked (Function.update owner k (some p)) (Function.update children p (some (l ++ [k]))) := by
  have hnew : k ∉ l := by
    intro hmem
    have howner : owner k = some p := h.owned hp hmem
    rw [hk] at howner
    cases howner
  refine h.relist hp ?_ ?_ (fun _ => rfl) ?_
  · intro p' howner
    rw [hk] at howner
    cases howner
  · intro p' howner
    refine ⟨(Option.some.inj howner).symm, ?_⟩
    rw [List.count_append, List.count_eq_zero_of_not_mem hnew, List.count_singleton_self]
  · intro k' hkk
    rw [List.count_append, List.count_singleton, if_neg (by simpa using Ne.symm hkk), Nat.add_zero]

/-- A released object leaves the list of its owner. -/
theorem Linked.removeChild (h : Linked owner children) (hk : owner k = some p)
    (hp : children p = some l) :
    Linked (Function.update owner k none)
      (Function.update children p (some (l.filter (· ≠ k)))) := by
  refine h.relist hp ?_ ?_ ?_ ?_
  · intro p' howner
    exact Option.some.inj (howner.symm.trans hk)
  · intro p' hnone
    cases hnone
  · intro hmem
    have hne := (List.mem_filter.mp hmem).2
    exact absurd rfl (of_decide_eq_true hne)
  · intro k' hkk
    exact List.count_filter (by simpa using hkk)

omit [DecidableEq π] in
/-- An object is not listed twice. -/
theorem Linked.not_mem_tail (h : Linked owner children) (hp : children p = some (k :: l)) :
    k ∉ l := by
  obtain ⟨l', hl', hcount⟩ := h.listed (h.owned hp List.mem_cons_self)
  obtain rfl := Option.some.inj (hp.symm.trans hl')
  rw [List.count_cons_self] at hcount
  exact List.count_eq_zero.mp (by omega)

omit [DecidableEq π] in
/-- The list of an owner whose first object is released. -/
theorem Linked.filter_head (h : Linked owner children) (hp : children p = some (k :: l)) :
    (k :: l).filter (· ≠ k) = l := by
  rw [List.filter_cons_of_neg (by simp)]
  refine List.filter_eq_self.mpr fun a ha => ?_
  rw [decide_eq_true_eq]
  rintro rfl
  exact h.not_mem_tail hp ha

end Ownership
