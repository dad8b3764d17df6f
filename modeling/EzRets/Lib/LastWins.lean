import Mathlib.Data.List.Induction
import Mathlib.Data.List.Nodup
import Mathlib.Logic.Function.Basic
import Mathlib.Tactic.SplitIfs

/-!
# EzRets.Lib.LastWins — maps filled one assignment after the other

A finite map that starts empty and receives a list of assignments, where a later assignment to
a key replaces an earlier one.  The lemmas say which assignment a lookup sees: the last one
with its key.
-/

namespace LastWins

variable {κ ν : Type*} [DecidableEq κ]

/-- The map after the assignments `l`, in order. -/
def assign (l : List (κ × ν)) : κ → Option ν :=
  l.foldl (fun m p => Function.update m p.1 (some p.2)) (fun _ => none)

/-- `v` is what the last assignment to `k` in `l` gives it. -/
def IsLast (l : List (κ × ν)) (k : κ) (v : ν) : Prop :=
  ∃ before after, l = before ++ (k, v) :: after ∧ ∀ p ∈ after, p.1 ≠ k

@[simp] theorem assign_nil (k : κ) : assign ([] : List (κ × ν)) k = none := rfl

theorem assign_concat (l : List (κ × ν)) (p : κ × ν) :
    assign (l ++ [p]) = Function.update (assign l) p.1 (some p.2) := by
  simp [assign]

@[simp] theorem assign_concat_self (l : List (κ × ν)) (k : κ) (v : ν) :
    assign (l ++ [(k, v)]) k = some v := by
  simp [assign_concat]

theorem assign_concat_of_ne (l : List (κ × ν)) {p : κ × ν} {k : κ} (h : p.1 ≠ k) :
    assign (l ++ [p]) k = assign l k := by
  simp [assign_concat, Function.update_of_ne h.symm]

/-- A later list of assignments hides the earlier one where it has the key. -/
theorem assign_append (l l' : List (κ × ν)) (k : κ) :
    assign (l ++ l') k = (assign l' k).or (assign l k) := by
  induction l' using List.reverseRecOn with
  | nil => simp
  | append_singleton l' p ih =>
    rw [← List.append_assoc]
    by_cases hk : p.1 = k
    · obtain ⟨k', v⟩ := p
      subst hk
      rw [assign_concat_self, assign_concat_self, Option.some_or]
    · rw [assign_concat_of_ne _ hk, assign_concat_of_ne _ hk, ih]

theorem assign_singleton (k k' : κ) (v : ν) :
    assign [(k, v)] k' = if k = k' then some v else none := by
  by_cases h : k = k'
  · subst h
    simpa using assign_concat_self [] k v
  · simpa [h] using assign_concat_of_ne [] h

theorem assign_cons (p : κ × ν) (l : List (κ × ν)) (k : κ) :
    assign (p :: l) k = (assign l k).or (if p.1 = k then some p.2 else none) := by
  rw [← List.singleton_append, assign_append, ← assign_singleton]

theorem assign_eq_none_iff {l : List (κ × ν)} {k : κ} :
    assign l k = none ↔ ∀ p ∈ l, p.1 ≠ k := by
  induction l with
  | nil => simp
  | cons p l ih => simp [assign_cons, ih, and_comm]

/-- **A lookup sees the last assignment to its key.** -/
theorem assign_eq_some_iff {l : List (κ × ν)} {k : κ} {v : ν} :
    assign l k = some v ↔ IsLast l k v := by
  constructor
  · intro h
    induction l with
    | nil => simp at h
    | cons p l ih =>
      rw [assign_cons] at h
      cases hl : assign l k with
      | some w =>
        rw [hl, Option.some_or, Option.some.injEq] at h
        subst h
        obtain ⟨before, after, rfl, hafter⟩ := ih hl
        exact ⟨p :: before, after, rfl, hafter⟩
      | none =>
        rw [hl, Option.none_or] at h
        obtain ⟨k', v'⟩ := p
        split_ifs at h with hk
        subst hk
        obtain rfl : v' = v := by simpa using h
        exact ⟨[], l, rfl, assign_eq_none_iff.mp hl⟩
  · rintro ⟨before, after, rfl, hafter⟩
    rw [assign_append, assign_cons, assign_eq_none_iff.mpr hafter]
    simp

/-- A field that each assignment to its key overwrites holds the last assigned value. -/
theorem foldl_eq_assign {σ β : Type*} (get : σ → β) (conv : ν → β) (step : σ → κ × ν → σ) (k : κ)
    (l : List (κ × ν))
    (hstep : ∀ s, ∀ p ∈ l, get (step s p) = if p.1 = k then conv p.2 else get s)
    (s : σ) : get (l.foldl step s) = ((assign l k).map conv).getD (get s) := by
  induction l using List.reverseRecOn with
  | nil => rfl
  | append_singleton l p ih =>
    have hlast := fun s => hstep s p (List.mem_append_right l List.mem_cons_self)
    rw [List.foldl_append, List.foldl_cons, List.foldl_nil, hlast,
      ih fun s q hq => hstep s q (List.mem_append_left _ hq), assign_append]
    obtain ⟨k', v⟩ := p
    rw [assign_singleton]
    by_cases h : k' = k
    · simp [h]
    · simp [h]

/-- The same for steps that find their key and their value themselves. -/
theorem foldl_eq_assign_map {σ α : Type*} (get : σ → ν) (step : σ → α → σ) (key : α → κ)
    (val : α → ν) (k : κ) (hstep : ∀ s a, get (step s a) = if key a = k then val a else get s)
    (l : List α) (s : σ) :
    get (l.foldl step s) = (assign (l.map fun a => (key a, val a)) k).getD (get s) := by
  induction l using List.reverseRecOn with
  | nil => rfl
  | append_singleton l a ih =>
    rw [List.foldl_append, List.foldl_cons, List.foldl_nil, hstep, ih, List.map_append,
      assign_append, List.map_singleton, assign_singleton]
    by_cases h : key a = k
    · simp [h]
    · simp [h]

/-- With an injective naming each object has at most its own assignment. -/
theorem assign_map_of_injective {α : Type*} [DecidableEq α] {key : α → κ}
    (hkey : Function.Injective key) (val : α → ν) (l : List α) (a : α) :
    assign (l.map fun a => (key a, val a)) (key a) = if a ∈ l then some (val a) else none := by
  induction l with
  | nil => simp
  | cons b l ih =>
    rw [List.map_cons, assign_cons, ih]
    by_cases hab : a = b
    · subst hab
      by_cases hl : a ∈ l <;> simp [hl]
    · have hne : key b ≠ key a := fun e => hab (hkey e).symm
      simp [hab, hne]

/-! ## Keys made of an owner and a name -/

section Owner

variable {ρ : Type*} [DecidableEq ρ]

theorem assign_map_owner (r r' : ρ) (l : List (κ × ν)) (k : κ) :
    assign (l.map fun p => ((r, p.1), p.2)) (r', k) = if r = r' then assign l k else none := by
  induction l with
  | nil => simp
  | cons p l ih =>
    rw [List.map_cons, assign_cons, ih, assign_cons]
    by_cases hr : r = r'
    · simp [hr]
    · simp [hr]

/-- With distinct owners a lookup sees only the assignments of its own owner. -/
theorem assign_flatMap_owner {rs : List ρ} (hrs : rs.Nodup) (l : ρ → List (κ × ν)) (r : ρ)
    (k : κ) :
    assign (rs.flatMap fun r => (l r).map fun p => ((r, p.1), p.2)) (r, k) =
      if r ∈ rs then assign (l r) k else none := by
  induction rs with
  | nil => simp
  | cons r' rs ih =>
    obtain ⟨hr', hrs⟩ := List.nodup_cons.mp hrs
    rw [List.flatMap_cons, assign_append, ih hrs, assign_map_owner]
    by_cases h : r' = r
    · subst h
      simp [hr']
    · have h' : r ≠ r' := fun e => h e.symm
      simp [h, h']

end Owner

/-! ## A list of objects indexed by a name -/

section Index

variable {α : Type*}

/-- No object after `a` in `l` has `a`'s name. -/
def IsLastNamed (name : α → κ) (l : List α) (a : α) : Prop :=
  ∃ before after, l = before ++ a :: after ∧ ∀ b ∈ after, name b ≠ name a

omit [DecidableEq κ] in
theorem IsLastNamed.mem {name : α → κ} {l : List α} {a : α} (h : IsLastNamed name l a) :
    a ∈ l := by
  obtain ⟨before, after, rfl, -⟩ := h
  simp

omit [DecidableEq κ] in
theorem isLastNamed_concat {name : α → κ} {l : List α} {a b : α} :
    IsLastNamed name (l ++ [b]) a ↔ a = b ∨ (name b ≠ name a ∧ IsLastNamed name l a) := by
  constructor
  · rintro ⟨before, after, hl, hafter⟩
    rcases List.eq_nil_or_concat after with rfl | ⟨after, c, rfl⟩
    · exact .inl (by simpa using (List.append_inj' hl (by simp)).2.symm)
    · have hl' : l ++ [b] = (before ++ a :: after) ++ [c] := by simpa using hl
      obtain ⟨rfl, hbc⟩ := List.append_inj' hl' rfl
      obtain rfl : b = c := by simpa using hbc
      exact .inr ⟨hafter b (by simp), before, after, rfl, fun x hx => hafter x (by simp [hx])⟩
  · rintro (rfl | ⟨hb, before, after, rfl, hafter⟩)
    · exact ⟨l, [], rfl, by simp⟩
    · refine ⟨before, after ++ [b], by simp, fun x hx => ?_⟩
      rcases List.mem_append.mp hx with hx | hx
      · exact hafter x hx
      · obtain rfl : x = b := by simpa using hx
        exact hb

omit [DecidableEq κ] in
/-- A name that occurs has a last object. -/
theorem exists_isLastNamed {name : α → κ} {l : List α} {a : α} (ha : a ∈ l) :
    ∃ b, IsLastNamed name l b ∧ name b = name a := by
  induction l using List.reverseRecOn with
  | nil => cases ha
  | append_singleton l c ih =>
    by_cases hc : name c = name a
    · exact ⟨c, isLastNamed_concat.mpr (.inl rfl), hc⟩
    · have hmem : a ∈ l := by
        rcases List.mem_append.mp ha with h | h
        · exact h
        · rw [List.mem_singleton.mp h] at hc
          exact absurd rfl hc
      obtain ⟨b, hlast, hname⟩ := ih hmem
      exact ⟨b, isLastNamed_concat.mpr (.inr ⟨fun h => hc (h.trans hname), hlast⟩), hname⟩

/-- The map from names to objects that a loop over `l` fills, skipping the names that `p`
rejects. -/
def index (name : α → κ) (p : κ → Bool) (l : List α) : κ → Option α :=
  assign ((l.filter fun a => p (name a)).map fun a => (name a, a))

theorem index_concat (name : α → κ) (p : κ → Bool) (l : List α) (b : α) :
    index name p (l ++ [b]) =
      if p (name b) then Function.update (index name p l) (name b) (some b)
      else index name p l := by
  unfold index
  cases h : p (name b) <;> simp [List.filter_append, h, assign_concat]

/-- **The index finds the last object of a name.** -/
theorem index_eq_some_iff {name : α → κ} {p : κ → Bool} {l : List α} {k : κ} {a : α} :
    index name p l k = some a ↔ name a = k ∧ p k ∧ IsLastNamed name l a := by
  induction l using List.reverseRecOn with
  | nil => simp [index, IsLastNamed]
  | append_singleton l b ih =>
    rw [index_concat, isLastNamed_concat]
    by_cases hk : name b = k
    · subst hk
      by_cases hp : p (name b) = true
      · rw [if_pos hp, Function.update_self, Option.some.injEq]
        grind
      · rw [if_neg hp, ih]
        grind
    · have hne : (if p (name b) then Function.update (index name p l) (name b) (some b)
          else index name p l) k = index name p l k := by
        split_ifs
        · exact Function.update_of_ne (Ne.symm hk) ..
        · rfl
      rw [hne, ih]
      grind

end Index

end LastWins
