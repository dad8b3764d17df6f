import EzRets.Lib.FailPoints
import EzRets.SavedSettings

/-!
# EzRets.Reconfiguring — `ConfigDsn` on an installer that may fail

`Setup::ConfigDsn` removes the old data source and creates the new one.  Every call into the ODBC
installer is checked, and the first that fails ends the edit with an exception; nothing that was
done before is taken back.
-/

namespace EzRets

open FailPoints

/-- The calls of the setup program that change the installer's store, with C strings. -/
inductive StoreCall
  | setConfigMode (configMode : Nat)
  | removeDSNFromIni (name : Str)
  | writeDSNToIni (name driver : Str)
  | writePrivateProfileString (name entry value : Str)
  deriving DecidableEq, Repr

/-- What the calls do to a store that also keeps the list of data sources.  `sectionOf` is the section
that a name stands for, for installers that fold names. -/
structure DsnInstaller (σ : Type) where
  sectionOf : Str → Str
  contents : σ → Ini
  listed : σ → Str → Bool
  setConfigMode : σ → Nat → σ
  removeDSNFromIni : σ → Str → σ
  writeDSNToIni : σ → (name driver : Str) → σ
  writePrivateProfileString : σ → (name entry value : Str) → σ

namespace DsnInstaller

variable {σ : Type} (installer : DsnInstaller σ) (mode : Nat)

/-- The calls leave the sections of other names alone.  The configuration mode selects the store that
the calls work on: `σ` has the states of one session, in which the mode is set to `mode` only, the one
that the session has anyway. -/
structure LeavesOthers : Prop where
  config : ∀ s, installer.contents (installer.setConfigMode s mode) = installer.contents s
  removed_other : ∀ s name name', installer.sectionOf name ≠ installer.sectionOf name' →
    installer.contents (installer.removeDSNFromIni s name) name' = installer.contents s name'
  created_other : ∀ s name driver name', installer.sectionOf name ≠ installer.sectionOf name' →
    installer.contents (installer.writeDSNToIni s name driver) name' = installer.contents s name'
  written_other : ∀ s name entry value name',
    installer.sectionOf name ≠ installer.sectionOf name' →
      installer.contents (installer.writePrivateProfileString s name entry value) name' =
        installer.contents s name'

/-- What the documentation of the installer says about the entries that `WriteToIni` writes, and about
the list. -/
structure Lawful : Prop extends LeavesOthers installer mode where
  config_listed : ∀ s, installer.listed (installer.setConfigMode s mode) = installer.listed s
  folded : ∀ s name name', installer.sectionOf name = installer.sectionOf name' →
    installer.contents s name = installer.contents s name' ∧
      installer.listed s name = installer.listed s name'
  removed : ∀ s name, ∀ setting ∈ DataSource.writeOrder,
    installer.contents (installer.removeDSNFromIni s name) name setting.iniKey = none
  removed_listed : ∀ s name name', installer.sectionOf name ≠ installer.sectionOf name' →
    installer.listed (installer.removeDSNFromIni s name) name' = installer.listed s name'
  created : ∀ s name driver, installer.listed (installer.writeDSNToIni s name driver) name = true
  new_section : ∀ s name driver, ∀ setting ∈ DataSource.writeOrder,
    installer.contents (installer.writeDSNToIni s name driver) name setting.iniKey = none
  written : ∀ s name value, ∀ setting ∈ DataSource.writeOrder,
    installer.contents (installer.writePrivateProfileString s name setting.iniKey value) name
      setting.iniKey = some value
  kept : ∀ s name value, ∀ setting ∈ DataSource.writeOrder, ∀ other ∈ DataSource.writeOrder,
    other ≠ setting →
      installer.contents (installer.writePrivateProfileString s name setting.iniKey value) name
        other.iniKey = installer.contents s name other.iniKey
  written_listed : ∀ s name entry value,
    installer.listed (installer.writePrivateProfileString s name entry value) = installer.listed s

variable {installer mode}

/-- The part of a lawful installer that `CreateInIni` relies on. -/
def Lawful.toInstaller (laws : installer.Lawful mode) : Installer σ where
  contents := installer.contents
  writeDSNToIni := installer.writeDSNToIni
  writePrivateProfileString := installer.writePrivateProfileString
  new_section := laws.new_section
  written := laws.written
  kept := laws.kept

variable (installer) in
/-- A call that succeeds. -/
def perform (s : σ) : StoreCall → σ
  | .setConfigMode configMode => installer.setConfigMode s configMode
  | .removeDSNFromIni name => installer.removeDSNFromIni s name
  | .writeDSNToIni name driver => installer.writeDSNToIni s name driver
  | .writePrivateProfileString name entry value =>
    installer.writePrivateProfileString s name entry value

/-- Names and keys are compared without regard to case. -/
def fold (s : Str) : Str := s.map Char.toLower

/-- A store that is a map of sections and a list of names, both without regard to case. -/
def sections : DsnInstaller (Ini × (Str → Bool)) where
  sectionOf := fold
  contents s name entry := s.1 (fold name) (fold entry)
  listed s name := s.2 (fold name)
  setConfigMode s _ := s
  removeDSNFromIni s name :=
    (Function.update s.1 (fold name) fun _ => none, Function.update s.2 (fold name) false)
  writeDSNToIni s name driver :=
    (Function.update s.1 (fold name)
      (Function.update (fun _ => none) (fold "Driver".toList) (some driver)),
      Function.update s.2 (fold name) true)
  writePrivateProfileString s name entry value :=
    (Function.update s.1 (fold name)
      (Function.update (s.1 (fold name)) (fold entry) (some value)), s.2)

/-- The keys that `WriteToIni` writes, and the driver's, differ without regard to case. -/
theorem nodup_fold :
    (fold "Driver".toList :: DataSource.writeOrder.map fun s => fold s.iniKey).Nodup := by
  decide

theorem fold_ne {setting other : Setting} (hsetting : setting ∈ DataSource.writeOrder)
    (hother : other ∈ DataSource.writeOrder) (h : other ≠ setting) :
    fold other.iniKey ≠ fold setting.iniKey := fun hfold =>
  h (List.inj_on_of_nodup_map (List.nodup_cons.mp nodup_fold).2 hother hsetting hfold)

theorem lawful_sections (mode : Nat) : sections.Lawful mode where
  config _ := rfl
  config_listed _ := rfl
  removed_other s name name' h := by
    have hne : fold name' ≠ fold name := Ne.symm h
    unfold sections
    dsimp only
    rw [Function.update_of_ne hne]
  created_other s name driver name' h := by
    have hne : fold name' ≠ fold name := Ne.symm h
    unfold sections
    dsimp only
    rw [Function.update_of_ne hne]
  written_other s name entry value name' h := by
    have hne : fold name' ≠ fold name := Ne.symm h
    unfold sections
    dsimp only
    rw [Function.update_of_ne hne]
  folded s name name' h := by
    have hfold : fold name = fold name' := h
    unfold sections
    dsimp only
    rw [hfold]
    exact ⟨rfl, rfl⟩
  removed s name setting _ := by
    unfold sections
    dsimp only
    rw [Function.update_self]
  removed_listed s name name' h := Function.update_of_ne (Ne.symm h) _ _
  created s name driver := Function.update_self _ _ _
  new_section s name driver setting hsetting := by
    have hkey : fold setting.iniKey ≠ fold "Driver".toList := by
      intro hfold
      have hmem := List.mem_map_of_mem (f := fun s : Setting => fold s.iniKey) hsetting
      exact (List.nodup_cons.mp nodup_fold).1 (hfold ▸ hmem)
    unfold sections
    dsimp only
    rw [Function.update_self, Function.update_of_ne hkey]
  written s name value setting _ := by
    unfold sections
    dsimp only
    rw [Function.update_self, Function.update_self]
  kept s name value setting hsetting other hother h := by
    unfold sections
    dsimp only
    rw [Function.update_self, Function.update_of_ne (fold_ne hsetting hother h)]
  written_listed _ _ _ _ := rfl

end DsnInstaller

/-! ## The checked calls -/

namespace Setup

section Checked

variable {σ : Type} (build : Build) (installer : DsnInstaller σ) (outcome : Nat → Option Str)
  (configMode : Nat) (d : DataSource)

/-- The message of `AssertSqlSuccess`, which takes the first part twice. -/
def sqlErrorMessage (message installerError : Str) : Str :=
  let message := message ++ "dsn: ".toList ++ d.str .name ++ ", ".toList
  let message := if message.isEmpty then message else message ++ (message ++ ", ".toList)
  message ++ "SQL error: ".toList ++ installerError

/-- A call into the installer inside `AssertSqlSuccess`.  The outcome of a call that fails is the
text of `GetSqlInstallerError`. -/
def assertSqlSuccess (call : StoreCall) (message : Str) : Program σ Exn Unit :=
  attempt installer.perform outcome
    (fun installerError => .ezRets (sqlErrorMessage d message installerError)) call

/-- `AssertNameNotEmpty`. -/
def assertNameNotEmpty (message : String) : Program σ Exn Unit := fun p =>
  match d.assertNameNotEmpty message with
  | .ok () => .ok () p
  | .error e => .error e p

/-- `SQLSetConfigMode`, which an iODBC build calls before it writes. -/
def assertConfigMode : Program σ Exn Unit :=
  if build.haveIodbc then
    assertSqlSuccess installer outcome d (.setConfigMode configMode)
      "Couldn't set config mode".toList
  else pure ()

/-- `WriteProfileString`. -/
def writeProfileString (entry value : Str) : Program σ Exn Unit := do
  assertConfigMode build installer outcome configMode d
  if value.isEmpty then pure ()
  else
    assertSqlSuccess installer outcome d
      (.writePrivateProfileString (cString (d.str .name)) entry (cString value))
      ("entry: ".toList ++ entry ++ ", value: <".toList ++ value ++ ">".toList)

/-- `WriteToIni`. -/
def writeToIni : Program σ Exn Unit := do
  assertNameNotEmpty d "Cannot write to INI"
  DataSource.writeOrder.forM fun setting =>
    writeProfileString build installer outcome configMode d setting.iniKey (d.text setting)

/-- `WriteDSNToIni`. -/
def writeDSNToIni (driver : Str) : Program σ Exn Unit := do
  assertConfigMode build installer outcome configMode d
  assertSqlSuccess installer outcome d
    (.writeDSNToIni (cString (d.str .name)) (cString driver)) ("driver: ".toList ++ driver)

/-- `CreateInIni`. -/
def createInIni (driver : Str) : Program σ Exn Unit := do
  assertNameNotEmpty d "Cannot create INI"
  writeDSNToIni build installer outcome configMode d driver
  writeToIni build installer outcome configMode d

/-- `RemoveFromIni`, with the message of its sibling. -/
def removeFromIni : Program σ Exn Unit := do
  assertNameNotEmpty d "Cannot create INI"
  assertSqlSuccess installer outcome d (.removeDSNFromIni (cString (d.str .name))) []

/-- `ConfigDsn` for the attribute `DSN`; the dialog hands back the data source that the user made of
the one in the store, or nothing when it was cancelled. -/
def configDsn (driver dsn : Str) (showDialog : DataSource → Option DataSource) :
    Program σ Exn Unit := fun p =>
  let dataSource := (DataSource.ofName dsn).mergeFromIni build (installer.contents p.store)
  match showDialog dataSource with
  | none => .ok () p
  | some newDataSource =>
    (do
      removeFromIni installer outcome dataSource
      createInIni build installer outcome configMode newDataSource driver) p

/-! ## The calls of an edit -/

/-- The call of `assertConfigMode`. -/
def configCalls : List StoreCall := if build.haveIodbc then [.setConfigMode configMode] else []

/-- The calls that write a member. -/
def entryCalls (setting : Setting) : List StoreCall :=
  configCalls build configMode ++
    if (d.text setting).isEmpty then []
    else [.writePrivateProfileString (cString (d.str .name)) setting.iniKey
      (cString (d.text setting))]

/-- The calls of `CreateInIni`. -/
def createCalls (driver : Str) : List StoreCall :=
  configCalls build configMode ++ [.writeDSNToIni (cString (d.str .name)) (cString driver)] ++
    DataSource.writeOrder.flatMap (entryCalls build configMode d)

variable {build installer outcome configMode d}

theorem makes_assertName (message : String) (h : d.str .name ≠ []) :
    Makes installer.perform outcome (assertNameNotEmpty d message) [] := by
  have hok : d.assertNameNotEmpty message = .ok () := if_neg (by simpa using h)
  intro p
  unfold assertNameNotEmpty
  rw [hok]
  rfl

/-- Without a name the program ends before it has tried anything. -/
theorem ended_assertName (message : String) (h : d.str .name = []) (m : Program σ Exn Unit)
    (p : Progress σ) : ended ((assertNameNotEmpty d message >>= fun _ => m) p) = (false, p) := by
  have herror : d.assertNameNotEmpty message =
      .error (.ezRets (message ++ ": name is empty").toList) :=
    if_pos (by simp [h])
  show ended (EStateM.bind (assertNameNotEmpty d message) (fun _ => m) p) = _
  unfold EStateM.bind assertNameNotEmpty
  rw [herror]
  rfl

theorem makes_assertConfigMode :
    Makes installer.perform outcome (assertConfigMode build installer outcome configMode d)
      (configCalls build configMode) := by
  unfold assertConfigMode configCalls
  split_ifs
  · exact makes_attempt _ _
  · exact makes_pure

theorem makes_writeProfileString (setting : Setting) :
    Makes installer.perform outcome
      (writeProfileString build installer outcome configMode d setting.iniKey (d.text setting))
      (entryCalls build configMode d setting) := by
  refine makes_assertConfigMode.bind ?_
  split_ifs
  · exact makes_pure
  · exact makes_attempt _ _

/-- **`CreateInIni` tries its calls in order.** -/
theorem makes_createInIni (driver : Str) (h : d.str .name ≠ []) :
    Makes installer.perform outcome (createInIni build installer outcome configMode d driver)
      (createCalls build configMode d driver) := by
  have hdsn : Makes installer.perform outcome
      (writeDSNToIni build installer outcome configMode d driver)
      (configCalls build configMode ++
        [.writeDSNToIni (cString (d.str .name)) (cString driver)]) :=
    makes_assertConfigMode.bind (makes_attempt _ _)
  have hentries : Makes installer.perform outcome
      (writeToIni build installer outcome configMode d)
      (DataSource.writeOrder.flatMap (entryCalls build configMode d)) := by
    rw [← List.nil_append (DataSource.writeOrder.flatMap _)]
    exact (makes_assertName _ h).bind (Makes.forM makes_writeProfileString _)
  rw [← List.nil_append (createCalls build configMode d driver)]
  exact (makes_assertName _ h).bind (hdsn.bind hentries)

theorem makes_removeFromIni (h : d.str .name ≠ []) :
    Makes installer.perform outcome (removeFromIni installer outcome d)
      [.removeDSNFromIni (cString (d.str .name))] :=
  (makes_assertName _ h).bind (makes_attempt _ _)

end Checked

/-! ## What is in the store -/

section Store

variable {σ : Type} (installer : DsnInstaller σ)

/-- The store lists the data source and has its members, each under its key, and no others of those
that `WriteToIni` writes. -/
structure Holds (s : σ) (d : DataSource) : Prop where
  listed : installer.listed s (cString (d.str .name)) = true
  entries : ∀ setting ∈ DataSource.writeOrder,
    installer.contents s (cString (d.str .name)) setting.iniKey =
      if setting ∈ d.written then some (cString (d.text setting)) else none

/-- The call cannot bring back the entry of the member in a session of the mode: it stays in the mode,
and it writes in another section or for another member. -/
def Spares (mode : Nat) (name : Str) (setting : Setting) : StoreCall → Prop
  | .setConfigMode configMode => configMode = mode
  | .writePrivateProfileString name' entry _ =>
    installer.sectionOf name' ≠ installer.sectionOf name ∨
      ∃ other ∈ DataSource.writeOrder, other ≠ setting ∧ other.iniKey = entry
  | _ => True

variable {installer} {s : σ} {d : DataSource} {name : Str} {setting : Setting}
variable {build : Build} {configMode : Nat} (laws : installer.Lawful configMode)

/-- Without iODBC these calls, if none fails, leave what `CreateInIni` leaves with an installer that
takes every write. -/
theorem foldl_createCalls_eq (hbuild : build.haveIodbc = false) (hname : d.str .name ≠ [])
    (s : σ) (driver : Str) : d.createInIni laws.toInstaller s driver =
      .ok ((createCalls build configMode d driver).foldl installer.perform s) := by
  have hassert : ∀ message, d.assertNameNotEmpty message = .ok () := fun message =>
    if_neg (by simpa using hname)
  have hconfig : configCalls build configMode = [] := by
    unfold configCalls
    rw [hbuild]
    rfl
  have hentry : ∀ (s : σ) (setting : Setting),
      (entryCalls build configMode d setting).foldl installer.perform s =
        d.writeProfileString laws.toInstaller s setting.iniKey (d.text setting) := by
    intro s setting
    unfold entryCalls DataSource.writeProfileString
    rw [hconfig, List.nil_append]
    split_ifs <;> rfl
  unfold DataSource.createInIni DataSource.writeToIni createCalls
  rw [hassert, hassert, hconfig, List.nil_append, List.foldl_append, List.foldl_flatMap]
  simp only [hentry]
  rfl

/-! ### What a prefix of the calls leaves -/

section Prefixes

variable {dsn driver : Str} {new old : DataSource} {k : Nat}

end Prefixes

end Store

/-! ## All or nothing -/

section Edit

variable {σ : Type} {build : Build} {installer : DsnInstaller σ} {outcome : Nat → Option Str}
  {configMode : Nat} {s : σ} {old new : DataSource} {driver : Str}
  {showDialog : DataSource → Option DataSource}

/-- The data source that `ConfigDsn` shows in its dialog. -/
def loaded (build : Build) (installer : DsnInstaller σ) (s : σ) (dsn : Str) : DataSource :=
  (DataSource.ofName dsn).mergeFromIni build (installer.contents s)

theorem loaded_name (dsn : Str) : (loaded build installer s dsn).str .name = dsn := by
  unfold loaded DataSource.mergeFromIni
  split_ifs
  · dsimp only
    rw [if_neg fun h => absurd h.1 (by decide), DataSource.ofName_name]
  · exact DataSource.ofName_name dsn

/-- A build without iODBC. -/
def setupBuild : Build := ⟨false, "ezRETS".toList⟩

/-- The store with the data source `site` whose password is `old`. -/
def siteStore : Ini × (Str → Bool) :=
  (createCalls setupBuild 0 (DataSource.withPassword "old".toList) []).foldl
    DsnInstaller.sections.perform (fun _ _ => none, fun _ => false)

end Edit

end Setup

end EzRets
