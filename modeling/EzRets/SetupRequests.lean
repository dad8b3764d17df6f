import EzRets.Lexical
import EzRets.Reconfiguring
import EzRets.Lib.KeyValue

/-!
# EzRets.SetupRequests — what the setup program leaves in the store

The ODBC administrator calls `ConfigDSN` to add, to edit and to remove data sources.  For the user
the store is a directory: under every name there is the data source that was saved there last.  As
long as no call into the installer fails, every run of requests keeps to this directory.
-/

namespace EzRets

open FailPoints

/-- The exceptions that leave `Setup::ConfigDSN`. -/
inductive SetupExn
  | sqlInstaller (errorCode : Nat) (what : Str)
  | other (e : Exn)

/-- The error that the entry point posts: code and message; `ODBC_ERROR_GENERAL_ERR` is 1. -/
def SetupExn.posted : SetupExn → Nat × Str
  | .sqlInstaller errorCode what => (errorCode, what)
  | .other .unknown => (1, "Unknown error".toList)
  | .other e => (1, e.what)

namespace Setup

/-! ## Attributes -/

/-- The entry of `foo=bar`; without `=` the position is -1, and the key and the value are the whole
text. -/
def attributeEntry (pair : Str) : Str × Str :=
  let entry := KeyValue.cut '=' pair
  (entry.1, entry.2.getD pair)

/-- `att2map`: the C strings up to the first empty one. -/
def att2map (attributes : Str) : Str → Option Str :=
  LastWins.assign
    (((attributes.splitOn '\x00').takeWhile fun pair => !pair.isEmpty).map attributeEntry)

/-- `mAttributes["DSN"]`. -/
def dsnOf (attributes : Str) : Str := (att2map attributes "DSN".toList).getD []

/-! ## Requests -/

/-- A call of `ConfigDSN`, with the configuration mode that the installer reports, what the user
makes of the data source in the dialog, if it is not cancelled, and the errors of the installer's
calls. -/
structure Request where
  request : Nat
  driver : Option Str
  attributes : Str
  configMode : Nat
  showDialog : DataSource → Option DataSource
  outcome : Nat → Option Str

section Programs

variable {σ : Type} (build : Build) (installer : DsnInstaller σ)

/-- `AddDsn`. -/
def addDsn (outcome : Nat → Option Str) (configMode : Nat) (driver : Str)
    (showDialog : DataSource → Option DataSource) : Program σ Exn Unit :=
  match showDialog .init with
  | none => pure ()
  | some newDataSource => createInIni build installer outcome configMode newDataSource driver

/-- `RemoveDsn`. -/
def removeDsn (outcome : Nat → Option Str) (dsn : Str) : Program σ Exn Unit :=
  removeFromIni installer outcome (DataSource.ofName dsn)

/-- `Setup::ConfigDSN`; `ODBC_ADD_DSN`, `ODBC_CONFIG_DSN` and `ODBC_REMOVE_DSN` are 1 to 3,
`ODBC_ERROR_INVALID_REQUEST_TYPE` is 5 and `ODBC_ERROR_INVALID_NAME` is 7. -/
def configDSN (r : Request) : Program σ SetupExn Unit :=
  let driver := cString (r.driver.getD [])
  if driver.isEmpty then throw (.sqlInstaller 7 "No driver name specified".toList)
  else
    match r.request with
    | 2 => EStateM.adaptExcept .other
        (configDsn build installer r.outcome r.configMode driver (dsnOf r.attributes) r.showDialog)
    | 1 => EStateM.adaptExcept .other
        (addDsn build installer r.outcome r.configMode driver r.showDialog)
    | 3 => EStateM.adaptExcept .other (removeDsn installer r.outcome (dsnOf r.attributes))
    | request =>
      throw (.sqlInstaller 5 ("Unknown config request: ".toList ++ intText request))

/-- The entry point `ConfigDSN`: its result, the error that it posts and the store. -/
def entry (r : Request) (s : σ) : Bool × Option (Nat × Str) × σ :=
  match configDSN build installer r ⟨0, s⟩ with
  | .ok _ p => (true, none, p.store)
  | .error e p => (false, some e.posted, p.store)

/-- The answers to a sequence of requests, and the store that they leave. -/
def entries : List Request → σ → List (Bool × Option (Nat × Str)) × σ
  | [], s => ([], s)
  | r :: rs, s =>
    let (rc, posted, s) := entry build installer r s
    let rest := entries rs s
    ((rc, posted) :: rest.1, rest.2)

end Programs

/-! ## The directory -/

/-- The data sources by their section. -/
abbrev Directory := Str → Option DataSource

/-- What is loaded of a data source that was saved: the texts as far as they are C strings and fit
the buffer, and the flags. -/
def asLoaded (name : Str) (d : DataSource) : DataSource where
  str k :=
    if k = .name then name
    else if k = .driver then [] else cString ((cString (d.str k)).take iniMaxPropertyValue)
  bool := d.bool

namespace Directory

variable {σ : Type} (installer : DsnInstaller σ) (dir : Directory)

/-- The data source that is loaded under a name. -/
def load (name : Str) : DataSource :=
  if name = [] then .ofName name
  else ((dir (installer.sectionOf (cString name))).map (asLoaded name)).getD (.ofName name)

/-- The error about a data source without a name. -/
def nameless : Nat × Str := (1, "Cannot create INI: name is empty".toList)

/-- Without a name nothing is saved. -/
def save (d : DataSource) : Option (Nat × Str) × Directory :=
  if d.str .name = [] then (some nameless, dir)
  else (none, Function.update dir (installer.sectionOf (cString (d.str .name))) (some d))

def remove (name : Str) : Option (Nat × Str) × Directory :=
  if name = [] then (some nameless, dir)
  else (none, Function.update dir (installer.sectionOf (cString name)) none)

/-- The old data source gives way to the new one. -/
def replace (name : Str) (d : DataSource) : Option (Nat × Str) × Directory :=
  let removed := dir.remove installer name
  if removed.1 = none then removed.2.save installer d else removed

/-- What a request does to the directory, and the error that it ends with. -/
def apply (r : Request) : Option (Nat × Str) × Directory :=
  if (cString (r.driver.getD [])).isEmpty then (some (7, "No driver name specified".toList), dir)
  else
    match r.request with
    | 2 =>
      match r.showDialog (dir.load installer (dsnOf r.attributes)) with
      | none => (none, dir)
      | some newDataSource => dir.replace installer (dsnOf r.attributes) newDataSource
    | 1 =>
      match r.showDialog .init with
      | none => (none, dir)
      | some newDataSource => dir.save installer newDataSource
    | 3 => dir.remove installer (dsnOf r.attributes)
    | request => (some (5, "Unknown config request: ".toList ++ intText request), dir)

/-- The errors of a sequence of requests, and the directory that they leave. -/
def run (dir : Directory) : List Request → List (Option (Nat × Str)) × Directory
  | [] => ([], dir)
  | r :: rs =>
    let first := dir.apply installer r
    let rest := run first.2 rs
    (first.1 :: rest.1, rest.2)

end Directory

/-! ## Attributes as they are written -/

/-- An attribute as text; one without a value is its key. -/
def printAttribute : Str × Option Str → Str
  | (key, none) => key
  | (key, some value) => key ++ '=' :: value

/-- The attribute can be told from the end of the text, and its key from its value. -/
structure Readable (p : Str × Option Str) : Prop where
  key : '=' ∉ p.1
  noNul : '\x00' ∉ printAttribute p
  nonempty : printAttribute p ≠ []

theorem attributeEntry_print {p : Str × Option Str} (h : '=' ∉ p.1) :
    attributeEntry (printAttribute p) = (p.1, p.2.getD p.1) := by
  obtain ⟨key, _ | value⟩ := p
  · unfold attributeEntry printAttribute
    rw [KeyValue.cut_of_not_mem h]
  · unfold attributeEntry printAttribute
    rw [KeyValue.cut_append_cons h]
    rfl

/-- The C strings up to the first empty one. -/
theorem takeWhile_splitOn_print {l : List (Str × Option Str)} (h : ∀ p ∈ l, Readable p)
    (rest : Str) :
    ((l.flatMap (fun p => printAttribute p ++ ['\x00']) ++ '\x00' :: rest).splitOn
      '\x00').takeWhile (fun pair => !pair.isEmpty) = l.map printAttribute := by
  induction l with
  | nil =>
    rw [List.flatMap_nil, List.splitOn_append_cons_self]
    rfl
  | cons p l ih =>
    have hp := h p List.mem_cons_self
    have hshown : (!(printAttribute p).isEmpty) = true := by
      simpa using hp.nonempty
    have hprint : (p :: l).flatMap (fun p => printAttribute p ++ ['\x00']) ++ '\x00' :: rest =
        printAttribute p ++ '\x00' ::
          (l.flatMap (fun p => printAttribute p ++ ['\x00']) ++ '\x00' :: rest) := by
      simp
    rw [hprint, List.splitOn_append_cons_self, List.splitOn_eq_singleton hp.noNul,
      List.singleton_append, List.takeWhile_cons, if_pos hshown, List.map_cons,
      ih fun q hq => h q (List.mem_cons_of_mem p hq)]

/-- **Attributes are read as they were written**, the last value of a key being the one that
counts; an attribute without a value has its key as its value. -/
theorem att2map_print {l : List (Str × Option Str)} (h : ∀ p ∈ l, Readable p) (rest : Str) :
    att2map (l.flatMap (fun p => printAttribute p ++ ['\x00']) ++ '\x00' :: rest) =
      LastWins.assign (l.map fun p => (p.1, p.2.getD p.1)) := by
  have hread : ∀ p ∈ l, attributeEntry (printAttribute p) = (p.1, p.2.getD p.1) :=
    fun p hp => attributeEntry_print (h p hp).key
  unfold att2map
  rw [takeWhile_splitOn_print h, List.map_map]
  exact congrArg LastWins.assign (List.map_congr_left hread)

/-- A data source named twice and an attribute without a value. -/
theorem att2map_print_dsn :
    att2map ([("DSN".toList, some "a".toList), ("x".toList, none), ("DSN".toList,
        some "b=c".toList)].flatMap (fun p => printAttribute p ++ ['\x00']) ++ "\x00".toList) =
      LastWins.assign [("DSN".toList, "a".toList), ("x".toList, "x".toList),
        ("DSN".toList, "b=c".toList)] := by
  refine att2map_print (fun p hp => ?_) []
  simp only [List.mem_cons, List.not_mem_nil, or_false] at hp
  rcases hp with rfl | rfl | rfl <;> exact ⟨by decide, by decide, by decide⟩

/-! ## Runs without a failure -/

section Runs

variable {σ : Type} {build : Build} {installer : DsnInstaller σ} {outcome : Nat → Option Str}
  {s : σ} {dir : Directory}

variable (installer) in
/-- Under every name the store has the members of the data source in the directory, and no others of
those that `WriteToIni` writes. -/
def Represents (s : σ) (dir : Directory) : Prop :=
  ∀ name, ∀ setting ∈ DataSource.writeOrder, installer.contents s name setting.iniKey =
    (dir (installer.sectionOf name)).bind fun d =>
      if setting ∈ d.written then some (cString (d.text setting)) else none

/-- A flag that is not in the store. -/
theorem getProfileBool_absent {ini : Ini} {name entry : Str} (h : ini (cString name) entry = none)
    (build : Build) (defaultValue : Bool) :
    DataSource.getProfileBool build ini name entry defaultValue = defaultValue := by
  have hdefault : cString ((boolToString defaultValue).take iniMaxPropertyValue) =
      boolToString defaultValue := by
    cases defaultValue <;> decide
  unfold DataSource.getProfileBool
  split_ifs
  · dsimp only
    rw [DataSource.getProfileString_absent h]
    rfl
  · unfold DataSource.getProfileString
    rw [h, Option.getD_none, hdefault]
    exact stringToBool_boolToString defaultValue

/-- A text that was saved is read as far as it fits the buffer. -/
theorem getProfileString_written {ini : Ini} {d : DataSource} {k : StrSetting} {name : Str}
    (hmerged : DataSource.isMerged k = true)
    (h : ini (cString name) k.iniKey =
      if .str k ∈ d.written then some (cString (d.str k)) else none) :
    DataSource.getProfileString ini name k.iniKey [] =
      cString ((cString (d.str k)).take iniMaxPropertyValue) := by
  unfold DataSource.getProfileString
  rw [h]
  split_ifs with hwritten
  · rfl
  · have hempty : d.str k = [] := by
      by_contra hne
      exact hwritten (DataSource.mem_written.mpr
        ⟨(DataSource.mem_writeOrder_str k).mpr hmerged, hne⟩)
    rw [hempty]
    rfl

/-- A text of a data source that is in the store. -/
theorem mergedText_saved {ini : Ini} {d : DataSource} {k : StrSetting} {name : Str}
    (h : DataSource.isMerged k = true → ini (cString name) k.iniKey =
      if .str k ∈ d.written then some (cString (d.str k)) else none) :
    (if DataSource.isMerged k = true ∧ (DataSource.ofName name).str k = [] then
        DataSource.getProfileString ini name k.iniKey []
      else (DataSource.ofName name).str k) = (asLoaded name d).str k := by
  unfold asLoaded
  dsimp only
  by_cases hname : k = .name
  · subst hname
    rw [if_neg (fun hmerged => absurd hmerged.1 (by decide)), if_pos rfl, DataSource.ofName_name]
  · rw [if_neg hname, DataSource.ofName_str name hname]
    by_cases hdriver : k = .driver
    · subst hdriver
      rw [if_neg (fun hmerged => absurd hmerged.1 (by decide)), if_pos rfl]
    · have hmerged := DataSource.isMerged_of_ne hname hdriver
      rw [if_pos ⟨hmerged, rfl⟩, if_neg hdriver]
      exact getProfileString_written hmerged (h hmerged)

/-- **What is loaded from the store** is what the directory has under the name, with either ODBC
manager. -/
theorem Represents.load (h : Represents installer s dir) (name : Str) :
    loaded build installer s name = dir.load installer name := by
  unfold loaded Directory.load DataSource.mergeFromIni
  rw [DataSource.ofName_name]
  by_cases hname : name = []
  · rw [if_neg (not_not.mpr hname), if_pos hname]
  · have hentry := h (cString name)
    rw [if_pos hname, if_neg hname]
    rcases hdir : dir (installer.sectionOf (cString name)) with _ | d
    · rw [hdir] at hentry
      refine DataSource.ext (funext fun k => ?_) (funext fun b => ?_)
      · show (if DataSource.isMerged k = true ∧ (DataSource.ofName name).str k = [] then _
          else (DataSource.ofName name).str k) = (DataSource.ofName name).str k
        split_ifs with hmerged
        · rw [hmerged.2]
          exact DataSource.getProfileString_absent
            (hentry (.str k) ((DataSource.mem_writeOrder_str k).mpr hmerged.1))
        · rfl
      · exact getProfileBool_absent (hentry (.bool b) (DataSource.mem_writeOrder_bool b)) build _
    · rw [hdir] at hentry
      refine DataSource.ext (funext fun k => ?_) (funext fun b => ?_)
      · exact mergedText_saved fun hmerged =>
          hentry (.str k) ((DataSource.mem_writeOrder_str k).mpr hmerged)
      · have hflag := hentry (.bool b) (DataSource.mem_writeOrder_bool b)
        rw [Option.bind_some, if_pos (DataSource.mem_written.mpr
          ⟨DataSource.mem_writeOrder_bool b, boolToString_ne_nil _⟩)] at hflag
        exact DataSource.getProfileBool_stored hflag build _

/-! ### What the calls do to other sections -/

variable {configMode : Nat}

/-- The call is about the data source `name`, in a session of the mode. -/
def IsAbout (configMode : Nat) (name : Str) : StoreCall → Prop
  | .setConfigMode mode => mode = configMode
  | .removeDSNFromIni name' | .writeDSNToIni name' _ | .writePrivateProfileString name' _ _ =>
    name' = name

theorem perform_other (laws : installer.LeavesOthers configMode) {call : StoreCall}
    {name name' : Str} (hcall : IsAbout configMode name' call)
    (h : installer.sectionOf name' ≠ installer.sectionOf name) :
    installer.contents (installer.perform s call) name = installer.contents s name := by
  cases call with
  | setConfigMode mode =>
    have hmode : mode = configMode := hcall
    subst hmode
    exact congrFun (laws.config s) name
  | removeDSNFromIni _ =>
    obtain rfl := hcall
    exact laws.removed_other s _ _ h
  | writeDSNToIni _ driver =>
    obtain rfl := hcall
    exact laws.created_other s _ _ _ h
  | writePrivateProfileString _ entry value =>
    obtain rfl := hcall
    exact laws.written_other s _ _ _ _ h

/-- The calls of `CreateInIni` are about one name. -/
theorem isAbout_of_mem_createCalls {d : DataSource} {driver : Str} {call : StoreCall}
    (h : call ∈ createCalls build configMode d driver) :
    IsAbout configMode (cString (d.str .name)) call := by
  have hconfig : ∀ call ∈ configCalls build configMode,
      IsAbout configMode (cString (d.str .name)) call := by
    unfold configCalls
    split_ifs
    · simp [IsAbout]
    · simp
  unfold createCalls entryCalls at h
  simp only [List.mem_append, List.mem_flatMap, List.mem_singleton] at h
  rcases h with (h | rfl) | ⟨setting, -, h | h⟩
  · exact hconfig call h
  · rfl
  · exact hconfig call h
  · split_ifs at h
    · cases h
    · obtain rfl := List.mem_singleton.mp h
      rfl

/-! ### Each program keeps to the directory -/

section Realize

variable {ε : Type} {posted : ε → Nat × Str} {spec : Option (Nat × Str) × Directory}

variable (installer) in
/-- The outcome is the one of the specification, with a store that represents its directory. -/
def EndsAs (posted : ε → Nat × Str) (spec : Option (Nat × Str) × Directory) :
    EStateM.Result ε (Progress σ) Unit → Prop
  | .ok _ p => spec.1 = none ∧ Represents installer p.store spec.2
  | .error e p => spec.1 = some (posted e) ∧ Represents installer p.store spec.2

variable (installer) in
/-- From the store `s` the program ends as the specification says. -/
def Realizes (posted : ε → Nat × Str) (m : Program σ ε Unit) (s : σ)
    (spec : Option (Nat × Str) × Directory) : Prop :=
  ∀ tried, EndsAs installer posted spec (m ⟨tried, s⟩)

/-- The error of an exception that is none of the installer's. -/
def postedOther (e : Exn) : Nat × Str := (SetupExn.other e).posted

/-- One program after the other. -/
theorem Realizes.bind {m m' : Program σ ε Unit} {spec' : Option (Nat × Str) × Directory}
    (h : Realizes installer posted m s spec)
    (h' : ∀ s', spec.1 = none → Represents installer s' spec.2 →
      Realizes installer posted m' s' spec') :
    Realizes installer posted (m >>= fun _ => m') s (if spec.1 = none then spec' else spec) := by
  intro tried
  have hm := h tried
  show EndsAs installer posted _ (EStateM.bind m (fun _ => m') ⟨tried, s⟩)
  unfold EStateM.bind
  rcases hrun : m ⟨tried, s⟩ with ⟨_, p⟩ | ⟨e, p⟩
  · rw [hrun] at hm
    rw [if_pos hm.1]
    exact h' p.store hm.1 hm.2 p.tried
  · rw [hrun] at hm
    rw [if_neg (by rw [hm.1]; exact Option.some_ne_none _)]
    exact hm

/-- Exceptions of the data source leave `ConfigDSN` as they are. -/
theorem Realizes.other {m : Program σ Exn Unit} (h : Realizes installer postedOther m s spec) :
    Realizes installer SetupExn.posted (EStateM.adaptExcept .other m) s spec := by
  intro tried
  have hm := h tried
  unfold EStateM.adaptExcept
  rcases hrun : m ⟨tried, s⟩ with ⟨_, p⟩ | ⟨e, p⟩
  · rw [hrun] at hm
    exact hm
  · rw [hrun] at hm
    exact hm

variable (laws : installer.Lawful configMode) (hnone : ∀ i, outcome i = none)
include laws hnone

omit laws hnone in
theorem configDsn_eq (configMode : Nat) (driver dsn : Str)
    (showDialog : DataSource → Option DataSource) (p : Progress σ) :
    configDsn build installer outcome configMode driver dsn showDialog p =
      match showDialog (loaded build installer p.store dsn) with
      | none => .ok () p
      | some newDataSource =>
        (do
          removeFromIni installer outcome (loaded build installer p.store dsn)
          createInIni build installer outcome configMode newDataSource driver) p := rfl

omit hnone

end Realize

/-! ## Other sections, whatever fails -/

variable (installer) in
/-- The request is about the section of a name: that of its attribute `DSN`, or that of a name that
the user gives the data source in the dialog. -/
def Request.About (r : Request) (name : Str) : Prop :=
  installer.sectionOf (cString (dsnOf r.attributes)) = installer.sectionOf name ∨
    ∃ d d', (d.str .name = [] ∨ d.str .name = dsnOf r.attributes) ∧ r.showDialog d = some d' ∧
      installer.sectionOf (cString (d'.str .name)) = installer.sectionOf name

section Other

variable {name : Str} {contents : Str → Option Str} (laws : installer.LeavesOthers configMode)

/-- A program that begins with the check of its name may be looked at with a name. -/
theorem preserves_named {d : DataSource} {m : Program σ Exn Unit} {I : σ → Prop}
    (h : d.str .name ≠ [] → Preserves I
      (assertNameNotEmpty d "Cannot create INI" >>= fun _ => m)) :
    Preserves I (assertNameNotEmpty d "Cannot create INI" >>= fun _ => m) := by
  by_cases hname : d.str .name = []
  · intro p hI
    rw [ended_assertName _ hname]
    exact hI
  · exact h hname

include laws

theorem preserves_createInIni {d : DataSource} (driver : Str)
    (h : installer.sectionOf (cString (d.str .name)) ≠ installer.sectionOf name) :
    Preserves (fun s => installer.contents s name = contents)
      (createInIni build installer outcome configMode d driver) := by
  refine preserves_named fun hname => ?_
  refine (makes_createInIni driver hname).preserves fun call hcall s hs => ?_
  exact (perform_other laws (isAbout_of_mem_createCalls hcall) h).trans hs

theorem preserves_removeFromIni {d : DataSource}
    (h : installer.sectionOf (cString (d.str .name)) ≠ installer.sectionOf name) :
    Preserves (fun s => installer.contents s name = contents)
      (removeFromIni installer outcome d) := by
  refine preserves_named fun hname => ?_
  refine (makes_removeFromIni hname).preserves fun call hcall s hs => ?_
  obtain rfl := List.mem_singleton.mp hcall
  exact (laws.removed_other s _ _ h).trans hs

theorem preserves_configDsn {driver dsn : Str} {showDialog : DataSource → Option DataSource}
    (hold : installer.sectionOf (cString dsn) ≠ installer.sectionOf name)
    (hnew : ∀ d d', d.str .name = dsn → showDialog d = some d' →
      installer.sectionOf (cString (d'.str .name)) ≠ installer.sectionOf name) :
    Preserves (fun s => installer.contents s name = contents)
      (configDsn build installer outcome configMode driver dsn showDialog) := by
  intro p hp
  rw [configDsn_eq]
  rcases hdialog : showDialog (loaded build installer p.store dsn) with _ | newDataSource
  · exact hp
  · have hremove := @preserves_removeFromIni _ installer outcome configMode name contents laws
      (loaded build installer p.store dsn) (by rwa [loaded_name])
    exact hremove.bind (preserves_createInIni laws driver (hnew _ _ (loaded_name _) hdialog)) p hp

theorem preserves_configDSN {r : Request} (hmode : r.configMode = configMode)
    (h : ¬ r.About installer name) :
    Preserves (fun s => installer.contents s name = contents) (configDSN build installer r) := by
  obtain ⟨hold, hdialog⟩ := not_or.mp h
  have hnew : ∀ d d', (d.str .name = [] ∨ d.str .name = dsnOf r.attributes) →
      r.showDialog d = some d' →
      installer.sectionOf (cString (d'.str .name)) ≠ installer.sectionOf name :=
    fun d d' hd hshown hsection => hdialog ⟨d, d', hd, hshown, hsection⟩
  unfold configDSN
  dsimp only
  rw [hmode]
  split_ifs
  · exact preserves_throw _
  · split
    · exact (preserves_configDsn laws hold fun d d' hd => hnew d d' (.inr hd)).adaptExcept
    · refine Preserves.adaptExcept ?_
      unfold addDsn
      rcases hadded : r.showDialog .init with _ | newDataSource
      · exact preserves_pure
      · exact preserves_createInIni laws _ (hnew _ _ (.inl rfl) hadded)
    · refine Preserves.adaptExcept (preserves_removeFromIni laws ?_)
      rwa [DataSource.ofName_name]
    · exact preserves_throw _

/-- One request. -/
theorem entry_other {r : Request} (hmode : r.configMode = configMode)
    (h : ¬ r.About installer name) (s : σ) :
    installer.contents (entry build installer r s).2.2 name = installer.contents s name := by
  have hkept :=
    @preserves_configDSN _ build _ _ _ (installer.contents s name) laws _ hmode h ⟨0, s⟩ rfl
  unfold entry
  rcases hrun : configDSN build installer r ⟨0, s⟩ with ⟨_, p⟩ | ⟨e, p⟩
  · rw [hrun] at hkept
    exact hkept
  · rw [hrun] at hkept
    exact hkept

end Other

/-! ## What the store is for the user -/

/-- **Other data sources are safe.**  Whatever calls into the installer fail, and however far each
request comes, a run leaves the sections that none of its requests is about as they were. -/
theorem entries_other (build : Build) (laws : installer.LeavesOthers configMode)
    {rs : List Request} {name : Str} (hmode : ∀ r ∈ rs, r.configMode = configMode)
    (h : ∀ r ∈ rs, ¬ r.About installer name) (s : σ) :
    installer.contents (entries build installer rs s).2 name = installer.contents s name := by
  induction rs generalizing s with
  | nil => rfl
  | cons r rs ih =>
    have hrest := ih (fun r' hr' => hmode r' (List.mem_cons_of_mem r hr'))
      (fun r' hr' => h r' (List.mem_cons_of_mem r hr')) (entry build installer r s).2.2
    exact hrest.trans (entry_other laws (hmode r List.mem_cons_self) (h r List.mem_cons_self) s)

/-! ### The data source `site` -/

/-- A change of `other` that ends in the middle. -/
theorem entries_other_site :
    DsnInstaller.sections.contents (entries setupBuild DsnInstaller.sections
      [⟨2, some "ezRETS".toList, "DSN=other\x00".toList, 0,
        fun d => some (d.setStr .password "new".toList),
        fun i => if i = 1 then some "Request failed".toList else none⟩] siteStore).2
      "site".toList = DsnInstaller.sections.contents siteStore "site".toList := by
  refine entries_other setupBuild (DsnInstaller.lawful_sections 0).toLeavesOthers
    (fun r hr => ?_) (fun r hr => ?_) siteStore
  · obtain rfl := List.mem_singleton.mp hr
    rfl
  obtain rfl := List.mem_singleton.mp hr
  rintro (h | ⟨d, d', hd, hdialog, h⟩)
  · exact absurd h (by decide)
  · obtain rfl := Option.some.inj hdialog
    have hsection : DsnInstaller.fold (cString (d.str .name)) = "site".toList := h
    rcases hd with hd | hd
    · rw [hd] at hsection
      exact absurd hsection (by decide)
    · rw [hd] at hsection
      exact absurd hsection (by decide)

end Runs

end Setup

end EzRets
