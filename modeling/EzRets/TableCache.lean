import EzRets.Lib.Transparent
import EzRets.MetadataView

/-!
# EzRets.TableCache — the column maps that are filled on first use

`getTable`, `getKeyFieldTable` and `getTablesForClass` fill the maps of a class the first time it
is asked for.  `TableCache` holds the four maps, keyed by class; the functions here read and fill
them, and their answers are those of the `MetadataView` that has no cache.
-/

namespace EzRets

open LastWins

/-- The maps of `MetadataView` that change after its construction. -/
structure TableCache where
  mTableSysMap : MetadataClass × Str → Option MetadataTable
  mTableStdMap : MetadataClass × Str → Option MetadataTable
  mTablesInitMap : MetadataClass → Option Bool
  mTableListByClass : MetadataClass → Option (List MetadataTable)

namespace TableCache

/-- The maps after the constructor. -/
def init : TableCache where
  mTableSysMap _ := none
  mTableStdMap _ := none
  mTablesInitMap _ := none
  mTableListByClass _ := none

variable (v : MetadataView) (clazz : MetadataClass)

def areTablesForClassInited (m : TableCache) : Bool :=
  match m.mTablesInitMap clazz with
  | some inited => inited
  | none => false

/-- The two assignments in the loop of `initTablesForClass`. -/
def addTable (m : TableCache) (table : MetadataTable) : TableCache :=
  let m := if !table.standardName.isEmpty then
      { m with mTableStdMap :=
          Function.update m.mTableStdMap (clazz, table.standardName) (some table) }
    else m
  if !table.systemName.isEmpty then
    { m with mTableSysMap :=
        Function.update m.mTableSysMap (clazz, table.systemName) (some table) }
  else m

/-- The loop, with `ourTables`. -/
def addTables (tables : List MetadataTable) (m : TableCache) :
    TableCache × List MetadataTable :=
  tables.foldl (fun (m, ourTables) table => (addTable clazz m table, ourTables ++ [table]))
    (m, [])

def initTablesForClass (m : TableCache) : TableCache :=
  let (m, ourTables) := addTables clazz (v.mMetadata.getAllTables clazz) m
  { m with
    mTableListByClass := Function.update m.mTableListByClass clazz (some ourTables)
    mTablesInitMap := Function.update m.mTablesInitMap clazz (some true) }

/-- The test at the head of every lookup. -/
def inited (m : TableCache) : TableCache :=
  if !m.areTablesForClassInited clazz then m.initTablesForClass v clazz else m

/-- The private `getTable`. -/
def getTableBy (tableName : Str) (stdNames : Bool) (m : TableCache) :
    Option MetadataTable × TableCache :=
  let m := m.inited v clazz
  let key := (clazz, tableName)
  (if stdNames then m.mTableStdMap key else m.mTableSysMap key, m)

def getTable (tableName : Str) (m : TableCache) : Option MetadataTable × TableCache :=
  m.getTableBy v clazz tableName v.mStandardNames

def getKeyFieldTable (keyField : Str) (m : TableCache) : Option MetadataTable × TableCache :=
  m.getTableBy v clazz keyField false

def getTablesForClass (m : TableCache) : List MetadataTable × TableCache :=
  let m := m.inited v clazz
  (match m.mTableListByClass clazz with
    | some tables => tables
    | none => [], m)

/-! ## One class of the maps -/

/-- What the four maps hold for one class. -/
structure ClassMaps where
  sysMap : Str → Option MetadataTable
  stdMap : Str → Option MetadataTable
  inited : Option Bool
  tables : Option (List MetadataTable)

/-- The maps of `clazz`. -/
def ofClass (m : TableCache) : ClassMaps where
  sysMap name := m.mTableSysMap (clazz, name)
  stdMap name := m.mTableStdMap (clazz, name)
  inited := m.mTablesInitMap clazz
  tables := m.mTableListByClass clazz

/-- A class that was not asked for. -/
def ClassMaps.untouched : ClassMaps := ⟨fun _ => none, fun _ => none, none, none⟩

/-- A class whose maps were filled from `tables`. -/
def ClassMaps.filled (tables : List MetadataTable) : ClassMaps where
  sysMap := index (·.systemName) MetadataView.isKey tables
  stdMap := index (·.standardName) MetadataView.isKey tables
  inited := some true
  tables := some tables

/-- Every class is untouched or filled from its list. -/
def Coherent (m : TableCache) : Prop :=
  ∀ clazz, m.ofClass clazz = ClassMaps.untouched ∨
    m.ofClass clazz = ClassMaps.filled (v.mMetadata.getAllTables clazz)

theorem coherent_init : Coherent v init := fun _ => .inl rfl

variable {v clazz}

/-- An assignment to a key of `clazz`, seen in the maps of `clazz`. -/
theorem update_key (f : MetadataClass × Str → Option MetadataTable) (name : Str)
    (table : MetadataTable) :
    (fun name' => Function.update f (clazz, name) (some table) (clazz, name')) =
      Function.update (fun name' => f (clazz, name')) name (some table) := by
  ext1 name'
  by_cases h : name' = name
  · subst h
    rw [Function.update_self, Function.update_self]
  · have hkey : (clazz, name') ≠ (clazz, name) := fun he => h (congrArg Prod.snd he)
    rw [Function.update_of_ne hkey, Function.update_of_ne h]

theorem ofClass_addTable (m : TableCache) (table : MetadataTable) :
    (addTable clazz m table).ofClass clazz =
      { m.ofClass clazz with
        sysMap :=
          if MetadataView.isKey table.systemName then
            Function.update (m.ofClass clazz).sysMap table.systemName (some table)
          else (m.ofClass clazz).sysMap
        stdMap :=
          if MetadataView.isKey table.standardName then
            Function.update (m.ofClass clazz).stdMap table.standardName (some table)
          else (m.ofClass clazz).stdMap } := by
  unfold addTable ofClass MetadataView.isKey
  split_ifs <;> simp only [update_key]

theorem ofClass_addTable_of_ne {other : MetadataClass} (h : other ≠ clazz) (m : TableCache)
    (table : MetadataTable) : (addTable clazz m table).ofClass other = m.ofClass other := by
  have hkey : ∀ name name' : Str, (other, name) ≠ (clazz, name') := by
    intro name name' he
    exact h (congrArg Prod.fst he)
  unfold addTable ofClass
  split_ifs <;> simp [Function.update_of_ne (hkey _ _)]

theorem addTables_concat (tables : List MetadataTable) (table : MetadataTable) (m : TableCache) :
    addTables clazz (tables ++ [table]) m =
      (addTable clazz (addTables clazz tables m).1 table,
        (addTables clazz tables m).2 ++ [table]) := by
  simp [addTables]

/-- `ourTables` is a copy of the list. -/
theorem addTables_snd (tables : List MetadataTable) (m : TableCache) :
    (addTables clazz tables m).2 = tables := by
  induction tables using List.reverseRecOn with
  | nil => rfl
  | append_singleton tables table ih => rw [addTables_concat, ih]

theorem ofClass_addTables_of_ne {other : MetadataClass} (h : other ≠ clazz)
    (tables : List MetadataTable) (m : TableCache) :
    (addTables clazz tables m).1.ofClass other = m.ofClass other := by
  induction tables using List.reverseRecOn with
  | nil => rfl
  | append_singleton tables table ih => rw [addTables_concat, ofClass_addTable_of_ne h, ih]

/-- The loop indexes the list by both names. -/
theorem ofClass_addTables (tables : List MetadataTable) {m : TableCache}
    (hm : m.ofClass clazz = ClassMaps.untouched) :
    (addTables clazz tables m).1.ofClass clazz =
      ⟨index (·.systemName) MetadataView.isKey tables,
        index (·.standardName) MetadataView.isKey tables, none, none⟩ := by
  induction tables using List.reverseRecOn with
  | nil => exact hm
  | append_singleton tables table ih =>
    rw [addTables_concat, ofClass_addTable, ih, index_concat, index_concat]

/-! ## Filling a class -/

/-- The maps of the other classes stay. -/
theorem ofClass_initTablesForClass_of_ne {other : MetadataClass} (h : other ≠ clazz)
    (m : TableCache) : (m.initTablesForClass v clazz).ofClass other = m.ofClass other := by
  have hloop := ofClass_addTables_of_ne h (v.mMetadata.getAllTables clazz) m
  rw [← hloop]
  unfold initTablesForClass ofClass
  simp only [Function.update_of_ne h]

theorem ofClass_initTablesForClass {m : TableCache}
    (hm : m.ofClass clazz = ClassMaps.untouched) :
    (m.initTablesForClass v clazz).ofClass clazz =
      ClassMaps.filled (v.mMetadata.getAllTables clazz) := by
  have hloop := ofClass_addTables (v.mMetadata.getAllTables clazz) hm
  have hsys := congrArg ClassMaps.sysMap hloop
  have hstd := congrArg ClassMaps.stdMap hloop
  unfold initTablesForClass ofClass ClassMaps.filled
  simp only [Function.update_self, addTables_snd]
  exact congrArg₂ (fun sys std => ClassMaps.mk sys std (some true)
    (some (v.mMetadata.getAllTables clazz))) hsys hstd

theorem Coherent.initTablesForClass {m : TableCache} (hm : Coherent v m)
    (hclazz : m.ofClass clazz = ClassMaps.untouched) :
    Coherent v (m.initTablesForClass v clazz) := by
  intro other
  by_cases h : other = clazz
  · subst h
    exact .inr (ofClass_initTablesForClass hclazz)
  · rw [ofClass_initTablesForClass_of_ne h]
    exact hm other

theorem areTablesForClassInited_eq (m : TableCache) :
    m.areTablesForClassInited clazz = (m.ofClass clazz).inited.getD false := by
  unfold areTablesForClassInited ofClass
  cases m.mTablesInitMap clazz <;> rfl

/-- **After the test at the head of a lookup the maps of the class are filled**, and those of
every other class are as they were or filled. -/
theorem Coherent.inited {m : TableCache} (hm : Coherent v m) (clazz : MetadataClass) :
    Coherent v (m.inited v clazz) ∧
      (m.inited v clazz).ofClass clazz = ClassMaps.filled (v.mMetadata.getAllTables clazz) := by
  have hflag := @areTablesForClassInited_eq clazz m
  unfold TableCache.inited
  rcases hm clazz with huntouched | hfilled
  · rw [hflag, huntouched]
    exact ⟨hm.initTablesForClass huntouched, ofClass_initTablesForClass huntouched⟩
  · rw [hflag, hfilled]
    exact ⟨hm, hfilled⟩

/-! ## The calls -/

theorem getTableBy_fst {m : TableCache} (hm : Coherent v m) (clazz : MetadataClass)
    (tableName : Str) (stdNames : Bool) :
    (m.getTableBy v clazz tableName stdNames).1 = v.getTableBy clazz tableName stdNames := by
  have hmaps := (hm.inited clazz).2
  have hsys := congrFun (congrArg ClassMaps.sysMap hmaps) tableName
  have hstd := congrFun (congrArg ClassMaps.stdMap hmaps) tableName
  unfold TableCache.getTableBy MetadataView.getTableBy
  cases stdNames
  · exact hsys
  · exact hstd

theorem getTablesForClass_fst {m : TableCache} (hm : Coherent v m) (clazz : MetadataClass) :
    (m.getTablesForClass v clazz).1 = v.getTablesForClass clazz := by
  have hmaps := (hm.inited clazz).2
  have htables : (m.inited v clazz).mTableListByClass clazz =
      some (v.mMetadata.getAllTables clazz) := congrArg ClassMaps.tables hmaps
  unfold TableCache.getTablesForClass MetadataView.getTablesForClass
  simp only [htables]

/-- A lookup of the view, in a class that is not null. -/
inductive Call
  | getTable (clazz : MetadataClass) (tableName : Str)
  | getKeyFieldTable (clazz : MetadataClass) (keyField : Str)
  | getTablesForClass (clazz : MetadataClass)

/-- What a lookup returns. -/
inductive Answer
  | table (t : Option MetadataTable)
  | tables (l : List MetadataTable)

variable (v) in
/-- A call on the cached view. -/
def call : Call → TableCache → Answer × TableCache
  | .getTable clazz name, m => ((m.getTable v clazz name).map .table id)
  | .getKeyFieldTable clazz name, m => ((m.getKeyFieldTable v clazz name).map .table id)
  | .getTablesForClass clazz, m => ((m.getTablesForClass v clazz).map .tables id)

variable (v) in
/-- The answer of the view without a cache. -/
def answer : Call → Answer
  | .getTable clazz name => .table (v.getTable clazz name)
  | .getKeyFieldTable clazz name => .table (v.getKeyFieldTable clazz name)
  | .getTablesForClass clazz => .tables (v.getTablesForClass clazz)

/-- **The cache does not show**: a coherent cache answers like the view without a cache. -/
theorem hides_call : Transparent.Hides (call v) (answer v) (Coherent v) where
  result c m hm := by
    cases c with
    | getTable clazz name => exact congrArg Answer.table (getTableBy_fst hm clazz name _)
    | getKeyFieldTable clazz name =>
      exact congrArg Answer.table (getTableBy_fst hm clazz name false)
    | getTablesForClass clazz => exact congrArg Answer.tables (getTablesForClass_fst hm clazz)
  keeps c m hm := by
    cases c with
    | getTable clazz name => exact (hm.inited clazz).1
    | getKeyFieldTable clazz name => exact (hm.inited clazz).1
    | getTablesForClass clazz => exact (hm.inited clazz).1

/-! ## What the answers are -/

/-- The result of a search by name: the last object of the non-empty name, or null when there is
none. -/
def FoundLast {α : Type*} (name : α → Str) (l : List α) (key : Str) : Option α → Prop
  | some a => key ≠ [] ∧ name a = key ∧ IsLastNamed name l a
  | none => key = [] ∨ ∀ a ∈ l, name a ≠ key

theorem foundLast_index {α : Type*} (name : α → Str) (l : List α) (key : Str) :
    FoundLast name l key (index name MetadataView.isKey l key) := by
  cases h : index name MetadataView.isKey l key with
  | some a =>
    obtain ⟨hname, hkey, hlast⟩ := index_eq_some_iff.mp h
    have hne : key ≠ [] := by simpa [MetadataView.isKey] using hkey
    exact ⟨hne, hname, hlast⟩
  | none =>
    have hnone := assign_eq_none_iff.mp h
    by_cases hkey : key = []
    · exact .inl hkey
    · refine .inr fun a ha hname => ?_
      have hisKey : MetadataView.isKey (name a) = true := by
        rw [hname]
        simpa [MetadataView.isKey] using hkey
      have hmem : a ∈ l.filter fun a => MetadataView.isKey (name a) :=
        List.mem_filter.mpr ⟨ha, hisKey⟩
      exact hnone _ (List.mem_map_of_mem hmem) hname

variable (v) in
/-- What each call is for. -/
def Answers : Call → Answer → Prop
  | .getTable clazz name, .table t =>
    FoundLast v.columnName (v.mMetadata.getAllTables clazz) name t
  | .getKeyFieldTable clazz name, .table t =>
    FoundLast (·.systemName) (v.mMetadata.getAllTables clazz) name t
  | .getTablesForClass clazz, .tables l => l = v.mMetadata.getAllTables clazz
  | _, _ => False

theorem answers_answer (c : Call) : Answers v c (answer v c) := by
  cases c with
  | getTable clazz name =>
    have hfound := fun by' : MetadataTable → Str =>
      foundLast_index by' (v.mMetadata.getAllTables clazz) name
    show FoundLast v.columnName _ name (v.getTableBy clazz name v.mStandardNames)
    unfold MetadataView.columnName MetadataView.getTableBy
    cases v.mStandardNames
    · exact hfound (·.systemName)
    · exact hfound (·.standardName)
  | getKeyFieldTable clazz name =>
    exact foundLast_index (·.systemName) (v.mMetadata.getAllTables clazz) name
  | getTablesForClass clazz => exact rfl

theorem getTable_foundLast (v : MetadataView) (clazz : MetadataClass) (key : Str) :
    FoundLast v.columnName (v.getTablesForClass clazz) key (v.getTable clazz key) :=
  answers_answer (.getTable clazz key)

theorem getKeyFieldTable_foundLast (v : MetadataView) (clazz : MetadataClass) (key : Str) :
    FoundLast (·.systemName) (v.getTablesForClass clazz) key (v.getKeyFieldTable clazz key) :=
  answers_answer (.getKeyFieldTable clazz key)

/-- **Filling the maps on first use does not show.**  In every sequence of lookups on a new view
each call returns what the list of its class says, whatever was asked before. -/
theorem answers_of_init (v : MetadataView) (calls : List Call) :
    (Transparent.answers (call v) calls init).1 = calls.map (answer v) ∧
      ∀ c ∈ calls, Answers v c (answer v c) :=
  ⟨hides_call.answers_eq_map calls (coherent_init v), fun c _ => answers_answer c⟩

end TableCache

end EzRets
