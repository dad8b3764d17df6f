import EzRets.DataSource

/-!
# EzRets.ConnectionString — what a connection string and a DSN make of the settings

A member read from a connection string holds what the last piece that names it gives; merging
then fills empty strings from the DSN's section and sets every flag from it.  The connection
string wins and the DSN fills in exactly when no piece is misread and no flag is contradicted.
-/

namespace EzRets

open LastWins

namespace DataSource

/-- The pieces of a connection string: key and, after an `'='`, value. -/
def entries (s : Str) : List (Str × Option Str) := KeyValue.parse ';' '=' s

/-- The last piece that names `key`. -/
def named (s key : Str) : Option (Option Str) := assign (entries s) key

/-- What the parser takes from the piece: a bare piece is its own value. -/
def pieceText (key : Str) (piece : Option (Option Str)) : Option Str :=
  piece.map fun value => value.getD key

/-! ## Reading a connection string -/

theorem setFromOdbcConnectionString_eq (d : DataSource) (s : Str) :
    d.setFromOdbcConnectionString s =
      ((entries s).map fun e => (e.1, e.2.getD e.1)).foldl
        (fun d e => d.setEntry e.1 e.2) d := by
  unfold setFromOdbcConnectionString entries KeyValue.parse
  rw [List.map_map, List.foldl_map]
  refine congrArg (fun step => (s.splitOn ';').foldl step d) ?_
  funext d tok
  cases h : KeyValue.cut '=' tok with
  | mk key value =>
    cases value with
    | some v => simp [h]
    | none =>
      obtain rfl : key = tok := KeyValue.cut_eq_none h
      simp [h]

theorem assign_getD (l : List (Str × Option Str)) (key : Str) :
    assign (l.map fun e => (e.1, e.2.getD e.1)) key = pieceText key (assign l key) := by
  induction l with
  | nil => rfl
  | cons e l ih =>
    obtain ⟨k, v⟩ := e
    rw [List.map_cons, assign_cons, assign_cons, ih]
    unfold pieceText
    cases assign l key with
    | some w => rfl
    | none =>
      by_cases hk : k = key
      · subst hk
        simp
      · simp [hk]

theorem setFromOdbcConnectionString_str (d : DataSource) (s : Str) (k : StrSetting) :
    (d.setFromOdbcConnectionString s).str k =
      (pieceText k.iniKey (named s k.iniKey)).getD (d.str k) := by
  have hstep : ∀ (d : DataSource) (e : Str × Str),
      (d.setEntry e.1 e.2).str k = if e.1 = k.iniKey then id e.2 else d.str k := by
    intro d e
    simp [setEntry, eq_comm]
  rw [setFromOdbcConnectionString_eq,
    foldl_eq_assign (fun d : DataSource => d.str k) id _ k.iniKey _ fun d e _ => hstep d e, assign_getD,
    Option.map_id_apply, named]

theorem setFromOdbcConnectionString_bool (d : DataSource) (s : Str) (b : BoolSetting) :
    (d.setFromOdbcConnectionString s).bool b =
      ((pieceText b.iniKey (named s b.iniKey)).map stringToBool).getD (d.bool b) := by
  have hstep : ∀ (d : DataSource) (e : Str × Str),
      (d.setEntry e.1 e.2).bool b = if e.1 = b.iniKey then stringToBool e.2 else d.bool b := by
    intro d e
    simp [setEntry, eq_comm]
  rw [setFromOdbcConnectionString_eq,
    foldl_eq_assign (fun d : DataSource => d.bool b) stringToBool _ b.iniKey _ fun d e _ => hstep d e, assign_getD,
    named]

/-! ## Filling in from the DSN -/

/-- The ini value of a string member, empty without a DSN. -/
def iniString (ini : Ini) (dsn : Str) (k : StrSetting) : Str :=
  if dsn = [] then [] else getProfileString ini dsn k.iniKey []

/-- The ini value of a flag, its built-in default without a DSN. -/
def iniBool (build : Build) (ini : Ini) (dsn : Str) (b : BoolSetting) : Bool :=
  if dsn = [] then initBool b else getProfileBool build ini dsn b.iniKey (profileDefault b)

theorem mergeFromIni_str (build : Build) (ini : Ini) (d : DataSource) (k : StrSetting) :
    (d.mergeFromIni build ini).str k =
      if isMerged k ∧ d.str k = [] then iniString ini (d.str .name) k else d.str k := by
  unfold mergeFromIni iniString
  by_cases hname : d.str .name = []
  · rw [if_neg (by simpa using hname), if_pos hname]
    split_ifs with h
    · exact h.2
    · rfl
  · rw [if_pos hname, if_neg hname]

theorem mergeFromIni_bool (build : Build) (ini : Ini) (d : DataSource) (b : BoolSetting) :
    (d.mergeFromIni build ini).bool b =
      if d.str .name = [] then d.bool b else iniBool build ini (d.str .name) b := by
  unfold mergeFromIni iniBool
  by_cases hname : d.str .name = []
  · rw [if_neg (by simpa using hname), if_pos hname]
  · rw [if_pos hname, if_neg hname, if_neg hname]

/-- A fresh `DataSource` after `SetFromOdbcConnectionString(s)` and `MergeFromIni()`. -/
def load (build : Build) (ini : Ini) (s : Str) : DataSource :=
  (init.setFromOdbcConnectionString s).mergeFromIni build ini

/-- The section that `MergeFromIni` reads. -/
def sectionRead (s : Str) : Str :=
  (pieceText StrSetting.name.iniKey (named s StrSetting.name.iniKey)).getD []

variable {build : Build} {ini : Ini} {s : Str}

theorem load_str (build : Build) (ini : Ini) (s : Str) (k : StrSetting) :
    (load build ini s).str k =
      if isMerged k ∧ (pieceText k.iniKey (named s k.iniKey)).getD [] = [] then
        iniString ini (sectionRead s) k
      else (pieceText k.iniKey (named s k.iniKey)).getD [] := by
  rw [load, mergeFromIni_str, setFromOdbcConnectionString_str, setFromOdbcConnectionString_str]
  rfl

theorem load_bool (build : Build) (ini : Ini) (s : Str) (b : BoolSetting) :
    (load build ini s).bool b =
      if sectionRead s = [] then
        ((pieceText b.iniKey (named s b.iniKey)).map stringToBool).getD (initBool b)
      else iniBool build ini (sectionRead s) b := by
  rw [load, mergeFromIni_bool, setFromOdbcConnectionString_str, setFromOdbcConnectionString_bool]
  rfl

/-! ## What the string gives explicitly -/

/-- The last `key=value` piece for `key`. -/
def givenLast (s key : Str) : Option Str :=
  assign ((entries s).filterMap fun e => e.2.map fun value => (e.1, value)) key

/-- The explicit non-empty value that the string gives for `key`. -/
def explicit (s key : Str) : Option Str :=
  (givenLast s key).filter fun value => !value.isEmpty

/-- The DSN that the string names. -/
def dsn (s : Str) : Str := (explicit s StrSetting.name.iniKey).getD []

theorem givenLast_of_named {key : Str} (h : named s key ≠ some none) :
    givenLast s key = (named s key).bind id := by
  unfold givenLast named at *
  generalize entries s = l at h ⊢
  induction l with
  | nil => rfl
  | cons e l ih =>
    obtain ⟨k, v⟩ := e
    rw [assign_cons] at h ⊢
    cases hl : assign l key with
    | some w =>
      rw [hl, Option.some_or] at h
      have ih := ih (by rw [hl]; exact h)
      rw [hl] at ih
      obtain ⟨w, rfl⟩ : ∃ w', w = some w' := Option.ne_none_iff_exists'.mp fun e => h (by rw [e])
      have hsome : assign (l.filterMap fun e => e.2.map fun value => (e.1, value)) key = some w :=
        ih
      cases v with
      | none => simpa using hsome
      | some v => simp [assign_cons, hsome]
    | none =>
      have hnone : assign (l.filterMap fun e => e.2.map fun value => (e.1, value)) key = none := by
        rw [assign_eq_none_iff] at hl ⊢
        intro p hp
        obtain ⟨e, he, hep⟩ := List.mem_filterMap.mp hp
        obtain ⟨w, -, rfl⟩ := Option.map_eq_some_iff.mp hep
        exact hl e he
      cases v with
      | some v => by_cases hk : k = key <;> simp [assign_cons, hnone, hk]
      | none =>
        by_cases hk : k = key
        · simp [hl, hk] at h
        · simpa [hk] using hnone

theorem explicit_of_named_none {key : Str} (h : named s key = none) : explicit s key = none := by
  rw [explicit, givenLast_of_named (by simp [h]), h]
  rfl

theorem explicit_of_named_some {key v : Str} (h : named s key = some (some v)) :
    explicit s key = if v = [] then none else some v := by
  rw [explicit, givenLast_of_named (by simp [h]), h]
  cases v <;> rfl

/-! ## Precedence -/

/-- Every member has the explicit value of the string, else the ini value of the DSN. -/
def StringWins (build : Build) (ini : Ini) (s : Str) : Prop :=
  (∀ k v, explicit s k.iniKey = some v → (load build ini s).str k = v) ∧
  (∀ k, isMerged k → explicit s k.iniKey = none →
    (load build ini s).str k = iniString ini (dsn s) k) ∧
  (∀ b v, explicit s b.iniKey = some v → (load build ini s).bool b = stringToBool v) ∧
  (∀ b, explicit s b.iniKey = none → (load build ini s).bool b = iniBool build ini (dsn s) b)

/-- No piece is misread and no flag is contradicted by the ini store. -/
structure NoConflict (build : Build) (ini : Ini) (s : Str) : Prop where
  /-- A string member last named by a bare piece has the piece's text for its value. -/
  bare_str : ∀ k : StrSetting, named s k.iniKey = some none →
    (∀ v, explicit s k.iniKey = some v → v = k.iniKey) ∧
      (isMerged k → explicit s k.iniKey = none → iniString ini (dsn s) k = k.iniKey)
  /-- The section read holds what the DSN named in the string holds for the missing strings. -/
  section_str : ∀ k : StrSetting, isMerged k → named s k.iniKey ≠ some none →
    explicit s k.iniKey = none → iniString ini (sectionRead s) k = iniString ini (dsn s) k
  /-- The section read repeats the flags that the string gives. -/
  section_bool : sectionRead s ≠ [] → ∀ b : BoolSetting,
    (∀ v, explicit s b.iniKey = some v → iniBool build ini (sectionRead s) b = stringToBool v) ∧
      (explicit s b.iniKey = none → iniBool build ini (sectionRead s) b = iniBool build ini (dsn s) b)
  /-- Without a section, a flag last named by a bare piece or an empty value is to be false. -/
  unset_bool : sectionRead s = [] → ∀ b : BoolSetting,
    (named s b.iniKey = some none →
      (∀ v, explicit s b.iniKey = some v → stringToBool v = false) ∧
        (explicit s b.iniKey = none → initBool b = false)) ∧
      (named s b.iniKey = some (some []) → initBool b = false)

/-- Without a section the string names no DSN. -/
theorem dsn_eq_nil_of_section (h : sectionRead s = []) : dsn s = [] := by
  unfold sectionRead pieceText at h
  unfold dsn
  cases hn : named s StrSetting.name.iniKey with
  | none => rw [explicit_of_named_none hn]; rfl
  | some value =>
    rw [hn] at h
    cases value with
    | none => exact absurd h (StrSetting.iniKey_ne_nil .name)
    | some v =>
      obtain rfl : v = [] := h
      rw [explicit_of_named_some hn]
      rfl

/-- The member `k` alone: the two clauses of `StringWins` about it. -/
theorem str_follows_iff (k : StrSetting) :
    ((∀ v, explicit s k.iniKey = some v → (load build ini s).str k = v) ∧
      (isMerged k → explicit s k.iniKey = none →
        (load build ini s).str k = iniString ini (dsn s) k)) ↔
    (named s k.iniKey = some none →
      (∀ v, explicit s k.iniKey = some v → v = k.iniKey) ∧
        (isMerged k → explicit s k.iniKey = none → iniString ini (dsn s) k = k.iniKey)) ∧
    (isMerged k → named s k.iniKey ≠ some none → explicit s k.iniKey = none →
      iniString ini (sectionRead s) k = iniString ini (dsn s) k) := by
  rw [load_str]
  rcases hn : named s k.iniKey with _ | _ | v
  · have he := explicit_of_named_none hn
    simp +contextual [he, pieceText]
  · -- a bare piece: the member holds its own key
    have hk := StrSetting.iniKey_ne_nil k
    simp only [pieceText, Option.map_some, Option.getD_none, Option.getD_some, hk, and_false,
      if_false, ne_eq, not_true_eq_false, false_implies, implies_true, and_true, true_implies]
    refine and_congr (forall_congr' fun v => imp_congr_right fun _ => eq_comm) ?_
    exact imp_congr_right fun _ => imp_congr_right fun _ => eq_comm
  · have he := explicit_of_named_some hn
    by_cases hv : v = []
    · subst hv
      simp +contextual [he, pieceText]
    · simp [he, pieceText, hv]

/-- The flag `b` alone. -/
theorem bool_follows_iff (b : BoolSetting) :
    ((∀ v, explicit s b.iniKey = some v → (load build ini s).bool b = stringToBool v) ∧
      (explicit s b.iniKey = none → (load build ini s).bool b = iniBool build ini (dsn s) b)) ↔
    (sectionRead s ≠ [] →
      (∀ v, explicit s b.iniKey = some v → iniBool build ini (sectionRead s) b = stringToBool v) ∧
        (explicit s b.iniKey = none →
          iniBool build ini (sectionRead s) b = iniBool build ini (dsn s) b)) ∧
    (sectionRead s = [] →
      (named s b.iniKey = some none →
        (∀ v, explicit s b.iniKey = some v → stringToBool v = false) ∧
          (explicit s b.iniKey = none → initBool b = false)) ∧
        (named s b.iniKey = some (some []) → initBool b = false)) := by
  rw [load_bool]
  by_cases hsec : sectionRead s = []
  · have hdef : iniBool build ini (dsn s) b = initBool b := by
      rw [dsn_eq_nil_of_section hsec, iniBool, if_pos rfl]
    rw [hdef, if_pos hsec]
    rcases hn : named s b.iniKey with _ | _ | v
    · have he := explicit_of_named_none hn
      simp [he, hsec, pieceText]
    · simp [hsec, pieceText, BoolSetting.stringToBool_iniKey]
    · have he := explicit_of_named_some hn
      by_cases hv : v = []
      · subst hv
        have hfalse : stringToBool [] = false := by decide
        simp [he, hsec, pieceText, hfalse]
      · simp [he, hsec, pieceText, hv]
  · simp [hsec]

/-- **The string wins and the DSN fills in exactly when nothing conflicts.** -/
theorem stringWins_iff : StringWins build ini s ↔ NoConflict build ini s := by
  constructor
  · rintro ⟨hse, hsi, hbe, hbi⟩
    have hstr := fun k => (str_follows_iff k).mp ⟨hse k, hsi k⟩
    have hbool := fun b => (bool_follows_iff b).mp ⟨hbe b, hbi b⟩
    exact
      { bare_str := fun k => (hstr k).1
        section_str := fun k => (hstr k).2
        section_bool := fun h b => (hbool b).1 h
        unset_bool := fun h b => (hbool b).2 h }
  · intro h
    have hbool := fun b =>
      (bool_follows_iff b).mpr ⟨fun hs => h.section_bool hs b, fun hs => h.unset_bool hs b⟩
    exact ⟨fun k => ((str_follows_iff k).mpr ⟨h.bare_str k, h.section_str k⟩).1,
      fun k => ((str_follows_iff k).mpr ⟨h.bare_str k, h.section_str k⟩).2,
      fun b => (hbool b).1, fun b => (hbool b).2⟩

/-- `UseHttpGet=true` is overwritten by the default of a DSN that does not mention it. -/
theorem not_stringWins_useHttpGet :
    ¬ StringWins ⟨false, "ezRETS".toList⟩ (fun _ _ => none)
      "DSN=mls;UseHttpGet=true".toList := by
  rintro ⟨-, -, hbool, -⟩
  have h := hbool .useHttpGet "true".toList (by decide)
  exact absurd h (by decide)

end DataSource

end EzRets
