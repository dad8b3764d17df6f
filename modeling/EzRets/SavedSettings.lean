import EzRets.DataSource
import Mathlib.Data.List.TakeWhile

/-!
# EzRets.SavedSettings — a data source in the ini store

`CreateInIni` writes the settings of a data source under its name, `MergeFromIni` reads them into a
new one.  The store belongs to the ODBC installer; what the driver relies on are the laws of
`Installer`.
-/

namespace EzRets

/-- The members in the order in which `WriteToIni` writes them. -/
def DataSource.writeOrder : List Setting :=
  [.str .loginUrl, .str .username, .str .password, .bool .standardNames, .str .customUserAgent,
    .bool .useHttpGet, .bool .useHttpLogging, .str .httpLogFile, .bool .useDebugLogging,
    .str .debugLogFile, .str .retsVersionString, .bool .useBulkMetadata, .bool .ignoreMetadataType,
    .bool .useCompactFormat, .bool .disableGetObjectMetadata, .bool .enableUserAgentAuth,
    .str .userAgentPassword, .str .userAgentAuthTypeString, .bool .treatDecimalAsString,
    .str .encodingTypeString, .bool .useProxy, .str .proxyUrl, .str .proxyPassword,
    .bool .supportsQueryStar, .bool .httpLogEverything]

/-- The ini store of the ODBC installer, with values as C strings: after `SQLWriteDSNToIni` the
section of the name has none of the entries that `WriteToIni` writes (it may have others: the
installer puts the driver there), a value that is written for a member is found again under its key,
and the entries of other members stay.  The installer takes every write. -/
structure Installer (σ : Type) where
  contents : σ → Ini
  writeDSNToIni : σ → (name driver : Str) → σ
  writePrivateProfileString : σ → (name entry value : Str) → σ
  new_section : ∀ s name driver, ∀ setting ∈ DataSource.writeOrder,
    contents (writeDSNToIni s name driver) name setting.iniKey = none
  written : ∀ s name value, ∀ setting ∈ DataSource.writeOrder,
    contents (writePrivateProfileString s name setting.iniKey value) name setting.iniKey =
      some value
  kept : ∀ s name value, ∀ setting ∈ DataSource.writeOrder, ∀ other ∈ DataSource.writeOrder,
    other ≠ setting →
      contents (writePrivateProfileString s name setting.iniKey value) name other.iniKey =
        contents s name other.iniKey

namespace Installer

/-- A store that is a map of sections. -/
def sections : Installer Ini where
  contents s := s
  writeDSNToIni s name driver :=
    Function.update s name (Function.update (fun _ => none) "Driver".toList (some driver))
  writePrivateProfileString s name entry value :=
    Function.update s name (Function.update (s name) entry (some value))
  new_section s name driver setting hsetting := by
    have hkey : setting.iniKey ≠ "Driver".toList := by
      revert setting
      decide
    rw [Function.update_self, Function.update_of_ne hkey]
  written s name value setting _ := by rw [Function.update_self, Function.update_self]
  kept s name value setting _ other _ h := by
    have hkey : other.iniKey ≠ setting.iniKey := fun hkey => h (DataSource.iniKey_injective hkey)
    rw [Function.update_self, Function.update_of_ne hkey]

end Installer

/-! ## C strings -/

theorem cString_length_le (s : Str) : (cString s).length ≤ s.length :=
  (List.takeWhile_sublist _).length_le

theorem cString_of_not_mem {s : Str} (h : '\x00' ∉ s) : cString s = s := by
  refine List.takeWhile_eq_self_iff.mpr fun c hc => ?_
  have hne : c ≠ '\x00' := ne_of_mem_of_not_mem hc h
  exact decide_eq_true hne

theorem cString_cString (s : Str) : cString (cString s) = cString s := by
  refine List.takeWhile_eq_self_iff.mpr fun c hc => ?_
  have hsatisfies := List.mem_takeWhile_imp hc
  exact hsatisfies

theorem cString_boolToString (b : Bool) : cString (boolToString b) = boolToString b := by
  cases b <;> decide

namespace DataSource

/-- `DataSource(name)`. -/
def ofName (name : Str) : DataSource := init.setStr .name name

variable {σ : Type} (installer : Installer σ) (d : DataSource) (s : σ)

/-- `WriteProfileString` of a text; an empty one is not written. -/
def writeProfileString (entry value : Str) : σ :=
  if value.isEmpty then s
  else installer.writePrivateProfileString s (cString (d.str .name)) entry (cString value)

/-- `AssertNameNotEmpty`. -/
def assertNameNotEmpty (message : String) : Except Exn Unit :=
  if (d.str .name).isEmpty then .error (.ezRets (message ++ ": name is empty").toList) else .ok ()

/-- `WriteToIni`; the flags are written as texts. -/
def writeToIni : Except Exn σ := do
  d.assertNameNotEmpty "Cannot write to INI"
  return writeOrder.foldl
    (fun s setting => d.writeProfileString installer s setting.iniKey (d.text setting)) s

/-- `CreateInIni`. -/
def createInIni (driver : Str) : Except Exn σ := do
  d.assertNameNotEmpty "Cannot create INI"
  d.writeToIni installer
    (installer.writeDSNToIni s (cString (d.str .name)) (cString driver))

/-! ## What is stored under a key -/

variable {d s}

theorem mem_writeOrder_bool (b : BoolSetting) : .bool b ∈ writeOrder := by cases b <;> decide

/-- The string members that are written are the ones that `MergeFromIni` reads. -/
theorem mem_writeOrder_str (k : StrSetting) : .str k ∈ writeOrder ↔ isMerged k = true := by
  cases k <;> decide

/-- The members that are written: those whose text is not empty. -/
def written (d : DataSource) : List Setting :=
  writeOrder.filter fun setting => !(d.text setting).isEmpty

theorem mem_written {setting : Setting} :
    setting ∈ d.written ↔ setting ∈ writeOrder ∧ d.text setting ≠ [] := by
  unfold written
  rw [List.mem_filter, Bool.not_eq_true', List.isEmpty_eq_false_iff]

/-- **Every entry holds the text of its member.** -/
theorem contents_createInIni {driver : Str} (hname : d.str .name ≠ []) :
    ∃ s', d.createInIni installer s driver = .ok s' ∧ ∀ setting ∈ writeOrder,
      installer.contents s' (cString (d.str .name)) setting.iniKey =
        if setting ∈ d.written then some (cString (d.text setting)) else none := by
  have hassert : ∀ message, d.assertNameNotEmpty message = .ok () := by
    intro message
    exact if_neg (by simpa using hname)
  set name := cString (d.str .name) with hsection
  set s₀ := installer.writeDSNToIni s name (cString driver)
  set step := fun (s : σ) (p : Str × Str) =>
    installer.writePrivateProfileString s name p.1 (cString p.2)
  have hfold : writeOrder.foldl (fun s setting =>
      d.writeProfileString installer s setting.iniKey (d.text setting)) s₀ =
      (d.written.map fun setting => (setting.iniKey, d.text setting)).foldl step s₀ := by
    rw [List.foldl_map, written, List.foldl_filter]
    refine List.foldl_ext _ _ _ fun s setting _ => ?_
    unfold writeProfileString
    by_cases hempty : (d.text setting).isEmpty = true
    · rw [if_pos hempty, hempty]
      rfl
    · rw [if_neg hempty, Bool.eq_false_iff.mpr hempty]
      rfl
  refine ⟨(d.written.map fun setting => (setting.iniKey, d.text setting)).foldl step s₀, ?_, ?_⟩
  · unfold createInIni writeToIni
    rw [hassert, hassert]
    exact congrArg Except.ok hfold
  · intro setting hsetting
    have hstep : ∀ (s : σ), ∀ p ∈ d.written.map fun setting => (setting.iniKey, d.text setting),
        installer.contents (step s p) name setting.iniKey =
          if p.1 = setting.iniKey then some (cString p.2) else
            installer.contents s name setting.iniKey := by
      intro s p hp
      obtain ⟨other, hother, rfl⟩ := List.mem_map.mp hp
      have horder := (mem_written.mp hother).1
      by_cases hsame : other = setting
      · rw [if_pos (congrArg Setting.iniKey hsame), ← hsame]
        exact installer.written _ _ _ _ horder
      · rw [if_neg fun hkey => hsame (iniKey_injective hkey)]
        exact installer.kept _ _ _ _ horder _ hsetting (Ne.symm hsame)
    rw [LastWins.foldl_eq_assign (fun s => installer.contents s name setting.iniKey)
      (fun v => some (cString v)) step setting.iniKey _ hstep,
      LastWins.assign_map_of_injective iniKey_injective]
    by_cases hmem : setting ∈ d.written
    · rw [if_pos hmem, if_pos hmem]
      rfl
    · rw [if_neg hmem, if_neg hmem]
      exact installer.new_section _ _ _ _ hsetting

/-! ## Loading what was saved -/

variable {installer}

theorem ofName_name (name : Str) : (ofName name).str .name = name := by
  rw [ofName, setStr_str, if_pos rfl]

theorem ofName_str {k : StrSetting} (name : Str) (hk : k ≠ .name) : (ofName name).str k = [] := by
  rw [ofName, setStr_str, if_neg hk]
  rfl

/-- `GetProfileString` of an entry that fits the buffer. -/
theorem getProfileString_stored {ini : Ini} {name entry value defaultValue : Str}
    (h : ini (cString name) entry = some (cString value))
    (hlength : value.length ≤ iniMaxPropertyValue) :
    getProfileString ini name entry defaultValue = cString value := by
  have hfits : (cString value).length ≤ iniMaxPropertyValue :=
    (cString_length_le value).trans hlength
  unfold getProfileString
  rw [h, Option.getD_some, List.take_of_length_le hfits, cString_cString]

theorem getProfileString_absent {ini : Ini} {name entry : Str}
    (h : ini (cString name) entry = none) : getProfileString ini name entry [] = [] := by
  unfold getProfileString
  rw [h]
  rfl

/-- `GetProfileBool` of a flag that was written, with either ODBC manager. -/
theorem getProfileBool_stored {ini : Ini} {name entry : Str} {b : Bool}
    (h : ini (cString name) entry = some (cString (boolToString b))) (build : Build)
    (defaultValue : Bool) : getProfileBool build ini name entry defaultValue = b := by
  have hlength : (boolToString b).length ≤ iniMaxPropertyValue := by cases b <;> decide
  have hread : ∀ defaultText, getProfileString ini name entry defaultText = boolToString b := by
    intro defaultText
    rw [getProfileString_stored h hlength, cString_boolToString]
  have hempty : (boolToString b).isEmpty = false := by cases b <;> rfl
  unfold getProfileBool
  split
  · dsimp only
    rw [hread, hempty]
    exact stringToBool_boolToString b
  · rw [hread]
    exact stringToBool_boolToString b

/-- The settings `loaded` are those of `d` without the driver: the same name and flags, and every
text up to its first NUL. -/
structure SavedAs (d loaded : DataSource) : Prop where
  name : loaded.str .name = d.str .name
  texts : ∀ k, k ≠ .name → k ≠ .driver → loaded.str k = cString (d.str k)
  flags : loaded.bool = d.bool

/-- **A data source that is saved and loaded again keeps its flags and the C strings of its
texts.** -/
theorem savedAs_mergeFromIni (installer : Installer σ) (s : σ) (driver : Str)
    (hname : d.str .name ≠ []) (hlength : ∀ k, (d.str k).length ≤ iniMaxPropertyValue) :
    ∃ s', d.createInIni installer s driver = .ok s' ∧ ∀ build,
      SavedAs d ((ofName (d.str .name)).mergeFromIni build (installer.contents s')) := by
  obtain ⟨s', hs', hcontents⟩ := contents_createInIni installer hname
  refine ⟨s', hs', fun build => ?_⟩
  have hloaded : (ofName (d.str .name)).str .name ≠ [] := by
    rw [ofName_name]
    exact hname
  unfold mergeFromIni
  rw [if_pos hloaded, ofName_name]
  constructor
  · exact ofName_name _
  · intro k hk hdriver
    have hmerged : isMerged k = true := isMerged_of_ne hk hdriver
    dsimp only
    rw [if_pos ⟨hmerged, ofName_str _ hk⟩]
    have horder := (mem_writeOrder_str k).mpr hmerged
    have hentry := hcontents (.str k) horder
    by_cases hempty : d.str k = []
    · have hskipped : Setting.str k ∉ d.written := fun hmem => (mem_written.mp hmem).2 hempty
      rw [if_neg hskipped] at hentry
      rw [hempty]
      exact getProfileString_absent hentry
    · rw [if_pos (mem_written.mpr ⟨horder, hempty⟩)] at hentry
      exact getProfileString_stored hentry (hlength k)
  · funext b
    have horder := mem_writeOrder_bool b
    have hentry := hcontents (.bool b) horder
    rw [if_pos (mem_written.mpr ⟨horder, boolToString_ne_nil _⟩)] at hentry
    exact getProfileBool_stored hentry build _

/-- Without a NUL nothing is lost. -/
theorem SavedAs.str_eq {loaded : DataSource} (h : SavedAs d loaded) {k : StrSetting}
    (hk : k ≠ .driver) (hnul : '\x00' ∉ d.str k) : loaded.str k = d.str k := by
  by_cases hname : k = .name
  · rw [hname]
    exact h.name
  · rw [h.texts k hname hk, cString_of_not_mem hnul]

/-- A data source named `site` whose password is `password`. -/
def withPassword (password : Str) : DataSource :=
  (ofName "site".toList).setStr .password password

theorem savedAs_withPassword : ∃ s',
    (withPassword "secret".toList).createInIni Installer.sections (fun _ _ => none) [] = .ok s' ∧
      ∀ build, SavedAs (withPassword "secret".toList)
        ((ofName "site".toList).mergeFromIni build s') :=
  savedAs_mergeFromIni Installer.sections (fun _ _ => none) [] (by decide)
    (fun k => by cases k <;> decide)

/-- A password that contains a NUL is cut there. -/
theorem withNul_cut : (∀ k, ((withPassword "a\x00b".toList).str k).length ≤ iniMaxPropertyValue) ∧
    ∃ s', (withPassword "a\x00b".toList).createInIni Installer.sections (fun _ _ => none) [] =
      .ok s' ∧ ∀ build, ((ofName "site".toList).mergeFromIni build s').str .password ≠
        (withPassword "a\x00b".toList).str .password := by
  refine ⟨fun k => by cases k <;> decide, _, rfl, fun build => ?_⟩
  show "a".toList ≠ "a\x00b".toList
  decide

end DataSource

end EzRets
