import EzRets.ConnectionString

/-!
# EzRets.Reconnect — reading the printed connection string back

`GetConnectionString` escapes nothing: a value with a `';'` in it, which only the ini store can
hold, is read back in pieces.  The settings survive exactly when the last piece that names a
setting still carries its whole value, or carries nothing and the DSN supplies the value again.
-/

namespace EzRets

open LastWins

namespace DataSource

variable {build : Build} {ini : Ini} {s : Str} {d : DataSource}

/-- The string settings that have an effect: the session's, the log files and, under their
flags, those of user-agent authentication and of the proxy. -/
def counts (d : DataSource) : StrSetting → Bool
  | .name => false
  | .driver => false
  | .userAgentPassword => d.bool .enableUserAgentAuth
  | .userAgentAuthTypeString => d.bool .enableUserAgentAuth
  | .proxyUrl => d.bool .useProxy
  | .proxyPassword => d.bool .useProxy
  | _ => true

/-- The two data sources have the same effective configuration. -/
def SameEffect (d d' : DataSource) : Prop :=
  (∀ k, d.counts k → d'.str k = d.str k) ∧ ∀ b, d'.bool b = d.bool b

/-- Reading back what is printed for the loaded string `s` changes nothing. -/
def Reconnects (build : Build) (ini : Ini) (s : Str) : Prop :=
  SameEffect (load build ini s) (load build ini (load build ini s).getConnectionString)

/-- The value of the last piece of the printed values that names `key`. -/
def lastPiece (d : DataSource) (key : Str) : Option Str :=
  pieceText key (assign (d.connectionEntries.flatMap (KeyValue.reread ';' '=')) key)

/-- The section that the pieces of the printed values name. -/
def printedSection (d : DataSource) : Str := (d.lastPiece StrSetting.name.iniKey).getD []

/-- The pieces carry the settings of `d`. -/
structure Survives (build : Build) (ini : Ini) (d : DataSource) : Prop where
  /-- The last piece carries the whole value, or nothing and the section supplies it. -/
  str : ∀ k, d.counts k →
    (d.str k ≠ [] ∧ d.lastPiece k.iniKey = some (d.str k)) ∨
      ((d.lastPiece k.iniKey).getD [] = [] ∧ iniString ini d.printedSection k = d.str k)
  /-- The section repeats the flags. -/
  section_bool : d.printedSection ≠ [] → ∀ b, iniBool build ini d.printedSection b = d.bool b
  /-- Without a section the pieces or the defaults give the flags. -/
  piece_bool : d.printedSection = [] → ∀ b : BoolSetting,
    ((d.lastPiece b.iniKey).map stringToBool).getD (initBool b) = d.bool b

theorem isMerged_of_counts {k : StrSetting} (h : d.counts k) : isMerged k := by
  cases k <;> simp_all [counts, isMerged]

theorem isAppended_of_counts {k : StrSetting} (h : d.counts k) : d.isAppended (.str k) := by
  cases k <;> simp_all [counts, isAppended]

/-! ## The pieces of the printed string -/

theorem entries_getConnectionString (d : DataSource) :
    entries d.getConnectionString =
      d.connectionEntries.flatMap (KeyValue.reread ';' '=') ++ [([], none)] := by
  unfold entries getConnectionString
  refine KeyValue.parse_print (by decide) fun e he => ?_
  obtain ⟨s, -, rfl⟩ := List.mem_map.mp he
  exact separators_not_mem_iniKey s

/-- The final empty piece names no setting. -/
theorem pieceText_named_getConnectionString (d : DataSource) {key : Str} (hkey : key ≠ []) :
    pieceText key (named d.getConnectionString key) = d.lastPiece key := by
  unfold named lastPiece
  rw [entries_getConnectionString, assign_concat_of_ne _ hkey.symm]

theorem sectionRead_getConnectionString (d : DataSource) :
    sectionRead d.getConnectionString = d.printedSection := by
  unfold sectionRead printedSection
  rw [pieceText_named_getConnectionString d (StrSetting.iniKey_ne_nil _)]

/-- **The settings survive printing and reading exactly when the pieces carry them.** -/
theorem reconnects_iff :
    Reconnects build ini s ↔ Survives build ini (load build ini s) := by
  unfold Reconnects SameEffect
  generalize load build ini s = d
  have hstr : ∀ k, d.counts k →
      ((load build ini d.getConnectionString).str k = d.str k ↔
        (d.str k ≠ [] ∧ d.lastPiece k.iniKey = some (d.str k)) ∨
          ((d.lastPiece k.iniKey).getD [] = [] ∧ iniString ini d.printedSection k = d.str k)) := by
    intro k hk
    rw [load_str, pieceText_named_getConnectionString d (StrSetting.iniKey_ne_nil k),
      sectionRead_getConnectionString]
    simp only [isMerged_of_counts hk, true_and]
    rcases d.lastPiece k.iniKey with _ | v
    · simp
    · rw [Option.getD_some, Option.some.injEq]
      by_cases hv : v = []
      · rw [if_pos hv]
        constructor
        · exact fun h => .inr ⟨hv, h⟩
        · rintro (⟨hne, h⟩ | ⟨-, h⟩)
          · exact absurd (h.symm.trans hv) hne
          · exact h
      · rw [if_neg hv]
        constructor
        · exact fun h => .inl ⟨h ▸ hv, h⟩
        · rintro (⟨-, h⟩ | ⟨h, -⟩)
          · exact h
          · exact absurd h hv
  have hbool : ∀ b : BoolSetting,
      ((load build ini d.getConnectionString).bool b = d.bool b ↔
        (d.printedSection ≠ [] → iniBool build ini d.printedSection b = d.bool b) ∧
        (d.printedSection = [] →
          ((d.lastPiece b.iniKey).map stringToBool).getD (initBool b) = d.bool b)) := by
    intro b
    rw [load_bool, pieceText_named_getConnectionString d (BoolSetting.iniKey_ne_nil b),
      sectionRead_getConnectionString]
    by_cases hsec : d.printedSection = [] <;> simp [hsec]
  constructor
  · rintro ⟨hs, hb⟩
    exact
      { str := fun k hk => (hstr k hk).mp (hs k hk)
        section_bool := fun hsec b => ((hbool b).mp (hb b)).1 hsec
        piece_bool := fun hsec b => ((hbool b).mp (hb b)).2 hsec }
  · intro h
    exact ⟨fun k hk => (hstr k hk).mpr (h.str k hk), fun b => (hbool b).mpr
      ⟨fun hsec => h.section_bool hsec b, fun hsec => h.piece_bool hsec b⟩⟩

/-! ## Values without a separator -/

/-- Without a `';'` in the printed values each appended member is read back whole. -/
theorem lastPiece_of_no_separator (h : ∀ e ∈ d.connectionEntries, ';' ∉ e.2) (s : Setting) :
    d.lastPiece s.iniKey =
      if d.isAppended s ∧ d.text s ≠ [] then some (d.text s) else none := by
  have hflat : d.connectionEntries.flatMap (KeyValue.reread ';' '=') =
      d.connectionEntries.map fun e => (e.1, some e.2) := by
    rw [← List.flatMap_singleton' (d.connectionEntries.map _), List.flatMap_map]
    exact List.flatMap_congr fun e he => KeyValue.reread_of_not_mem (h e he)
  unfold lastPiece
  rw [hflat, connectionEntries, List.map_map]
  have hassign := assign_map_of_injective iniKey_injective (fun s => some (d.text s))
    (connectionOrder.filter fun s => d.isAppended s && !(d.text s).isEmpty) s
  rw [Function.comp_def, hassign]
  by_cases happ : d.isAppended s = true <;> by_cases ht : d.text s = [] <;>
    simp [happ, ht, mem_connectionOrder, pieceText]

/-- Settings whose printed values contain no `';'` survive. -/
theorem survives_of_no_separator
    (h : ∀ e ∈ (load build ini s).connectionEntries, ';' ∉ e.2) :
    Survives build ini (load build ini s) := by
  have hname : (load build ini s).str .name = sectionRead s := by
    rw [load_str, if_neg (by simp [isMerged])]
    rfl
  have hsec : (load build ini s).printedSection = sectionRead s := by
    unfold printedSection
    have hp := lastPiece_of_no_separator h (.str .name)
    rw [show StrSetting.name.iniKey = (Setting.str .name).iniKey from rfl, hp, ← hname]
    by_cases hn : (load build ini s).str .name = [] <;> simp [isAppended, text, hn]
  refine ⟨fun k hk => ?_, fun hne b => ?_, fun heq b => ?_⟩
  · have hp := lastPiece_of_no_separator h (.str k)
    rw [show (Setting.str k).iniKey = k.iniKey from rfl] at hp
    by_cases hv : (load build ini s).str k = []
    · refine .inr ⟨by simp [hp, text, hv], ?_⟩
      rw [hsec, hv]
      rw [load_str] at hv
      split_ifs at hv with hm
      · exact hv
      · exact absurd ⟨isMerged_of_counts hk, hv⟩ hm
    · exact .inl ⟨hv, by simp [hp, text, hv, isAppended_of_counts hk]⟩
  · rw [hsec] at hne ⊢
    rw [load_bool, if_neg hne]
  · have hp := lastPiece_of_no_separator h (.bool b)
    rw [show (Setting.bool b).iniKey = b.iniKey from rfl] at hp
    rw [hp]
    generalize load build ini s = d
    -- a flag that is not appended has its default
    cases b <;> cases hd : d.bool _ <;> simp [isAppended, text, hd, initBool]

/-- A `';'` in a password of the ini store cuts the password in the printed string. -/
theorem not_reconnects_password :
    ¬ Reconnects ⟨false, "ezRETS".toList⟩
      (fun _ entry => if entry = "PWD".toList then some "a;b".toList else none)
      "DSN=mls".toList := by
  rintro ⟨hstr, -⟩
  have h := hstr .password (by decide)
  exact absurd h (by decide)

end DataSource

end EzRets
