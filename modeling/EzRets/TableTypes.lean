import EzRets.TableListing
import Mathlib.Data.List.DropRight
import Mathlib.Data.List.Infix

/-!
# EzRets.TableTypes — the list of table types

`SQLTables` takes a list of table types and looks for the word `TABLE` anywhere in it.  The list is
read here as it is meant: names between commas, with blanks around them or not, and quoted or not.
-/

namespace EzRets

open FaultRun

namespace TableMetadataQuery

/-! ## Lists of table types -/

/-- The name without the blanks around it. -/
def trimBlanks (name : Str) : Str := (name.dropWhile (· = ' ')).rdropWhile (· = ' ')

/-- The name without the quotes around it. -/
def unquote : Str → Str
  | '\'' :: rest => if rest.getLast? = some '\'' then rest.dropLast else '\'' :: rest
  | name => name

/-- The names of a list of table types, in upper case. -/
def typeNames (tableType : Str) : List Str :=
  (Split.splitQuoted ',' '\'' false tableType).map fun name =>
    (unquote (trimBlanks name)).map Char.toUpper

/-- The list asks for tables: it is empty or names the type `TABLE`. -/
def AsksForTables (tableType : Str) : Prop :=
  tableType = [] ∨ "TABLE".toList ∈ typeNames tableType

instance (tableType : Str) : Decidable (AsksForTables tableType) :=
  inferInstanceAs (Decidable (_ ∨ _))

example : typeNames "'view', \"Table\",table".toList =
    ["VIEW".toList, "\"TABLE\"".toList, "TABLE".toList] := by decide

theorem trimBlanks_isInfix (name : Str) : trimBlanks name <:+: name :=
  (List.rdropWhile_prefix _ _).isInfix.trans (List.dropWhile_suffix _).isInfix

theorem unquote_isInfix (name : Str) : unquote name <:+: name := by
  unfold unquote
  split
  · rename_i rest
    split_ifs
    · exact List.infix_cons (List.dropLast_prefix rest).isInfix
    · exact List.infix_rfl
  · exact List.infix_rfl

/-- `icontains` looks for the word anywhere. -/
theorem icontains_iff {s what : Str} :
    icontains s what = true ↔ what.map Char.toUpper <:+: s.map Char.toUpper := by
  unfold icontains
  rw [List.any_eq_true, List.infix_iff_prefix_suffix]
  refine exists_congr fun t => ?_
  rw [List.mem_tails, List.isPrefixOf_iff_prefix]
  exact and_comm

/-- The names of a list are found in it. -/
theorem icontains_of_asks {tableType : Str} (h : "TABLE".toList ∈ typeNames tableType) :
    icontains tableType "TABLE".toList = true := by
  obtain ⟨name, hname, hupper⟩ := List.mem_map.mp h
  have htrimmed : unquote (trimBlanks name) <:+: name :=
    (unquote_isInfix _).trans (trimBlanks_isInfix _)
  have hinfix : unquote (trimBlanks name) <:+: tableType :=
    htrimmed.trans (Split.isInfix_of_mem_splitQuoted hname)
  have hword : "TABLE".toList.map Char.toUpper = "TABLE".toList := by decide
  rw [icontains_iff, hword, ← hupper]
  exact hinfix.map _

/-! ## What is listed -/

variable {conn : Connection} {v : MetadataView} {session : RetsSession} {tableType : Str}

/-- `SQLTables` with a list of table types, and with no other restriction, returns the driver's
tables when the list asks for tables, and no rows otherwise. -/
def HonoursTypes (conn : Connection) (v : MetadataView) (tableType : Str) : Prop :=
  ∃ out names, execute conn [] [] [] tableType = .ok out ∧ tables conn v [] = .ok names ∧
    out.rows = if AsksForTables tableType then names.map tableRow else []

/-- The metadata gives no tables: no class with names, and no resource whose objects are listed. -/
def NoTables (conn : Connection) (v : MetadataView) : Prop :=
  (∀ p ∈ v.getResourceClassPairs, ¬ v.Listed p) ∧
    (conn.mDataSource.bool .disableGetObjectMetadata = true ∨ v.getResources = [])

theorem dataTables_eq_nil_iff :
    v.getSQLDataTableMetadata = [] ↔ ∀ p ∈ v.getResourceClassPairs, ¬ v.Listed p := by
  unfold MetadataView.getSQLDataTableMetadata
  rw [List.filterMap_eq_nil_iff]
  refine forall₂_congr fun p _ => ?_
  rw [← MetadataView.makeSQLDataTableName_ne_nil_iff]
  by_cases hname : v.makeSQLDataTableName p.1 p.2 = []
  · simp [hname]
  · simp [hname]

theorem objectTables_eq_nil_iff : v.getSQLObjectTableMetadata = [] ↔ v.getResources = [] := by
  unfold MetadataView.getSQLObjectTableMetadata MetadataView.getResources
  rcases v.mMetadata.getAllResources with _ | ⟨res, resources⟩
  · exact iff_of_true rfl rfl
  · refine iff_of_false ?_ (List.cons_ne_nil _ _)
    rw [List.flatMap_cons]
    exact List.cons_ne_nil _ _

theorem noTables_iff {names : List (Str × Str)} (h : tables conn v [] = .ok names) :
    NoTables conn v ↔ names = [] := by
  unfold NoTables
  rw [← dataTables_eq_nil_iff, ← objectTables_eq_nil_iff]
  unfold tables at h
  rw [if_pos List.isEmpty_nil] at h
  rcases hobjects : conn.mDataSource.bool .disableGetObjectMetadata with _ | _
  · rw [hobjects] at h
    obtain rfl := Except.ok.inj h
    simp
  · rw [hobjects] at h
    obtain rfl := Except.ok.inj h
    simp

/-- A list without the word returns nothing. -/
theorem execute_refused (hne : tableType ≠ []) (hall : tableType ≠ all)
    (h : icontains tableType "TABLE".toList = false) :
    execute conn [] [] [] tableType = .ok (.success []) := by
  have hrefused : (!tableType.isEmpty && !icontains tableType "TABLE".toList) = true := by
    rw [h]
    simpa using hne
  have hnone : ([] : Str) ≠ all := by decide
  unfold execute
  rw [if_neg (by tauto), if_neg (by tauto), if_pos hrefused]

/-- **The list is honoured** exactly when it asks for tables, does not contain the word at all, or
there are no tables. -/
theorem honoursTypes_iff (hview : conn.getMetadataView = some v)
    (hsession : conn.getRetsSession = some session) (hall : tableType ≠ all) :
    HonoursTypes conn v tableType ↔ AsksForTables tableType ∨
      ¬ "TABLE".toList <:+: tableType.map Char.toUpper ∨ NoTables conn v := by
  have hword : "TABLE".toList.map Char.toUpper = "TABLE".toList := by decide
  have hcontains := @icontains_iff tableType "TABLE".toList
  rw [hword] at hcontains
  obtain ⟨names, hnames⟩ : ∃ names, tables conn v [] = .ok names := by
    unfold tables
    split_ifs <;> exact ⟨_, rfl⟩
  rw [noTables_iff hnames, ← hcontains]
  unfold HonoursTypes
  by_cases hasks : AsksForTables tableType
  · have hasked : tableType = [] ∨ icontains tableType "TABLE".toList = true :=
      hasks.imp_right icontains_of_asks
    refine iff_of_true ⟨.success (names.map tableRow), names, ?_, hnames, ?_⟩ (.inl hasks)
    · rw [execute_tables hview hsession hasked (by simp), hnames]
      rfl
    · exact (if_pos hasks).symm
  · simp only [if_neg hasks]
    rw [or_iff_right hasks]
    have hne : tableType ≠ [] := fun h => hasks (.inl h)
    rcases hfound : icontains tableType "TABLE".toList with _ | _
    · refine iff_of_true ⟨_, names, execute_refused hne hall hfound, hnames, rfl⟩ (.inl (by simp))
    · rw [execute_tables hview hsession (.inr hfound) (by simp), hnames]
      constructor
      · rintro ⟨out, names', hout, -, hrows⟩
        obtain rfl := Except.ok.inj hout
        exact .inr (List.map_eq_nil_iff.mp hrows)
      · rintro (h | rfl)
        · exact absurd rfl h
        · exact ⟨_, [], rfl, rfl, rfl⟩

theorem honoursTypes_list :
    HonoursTypes (listing (agentView false)) (agentView false) "'VIEW', 'table'".toList := by
  have hview : (listing (agentView false)).getMetadataView = some (agentView false) := rfl
  exact (honoursTypes_iff hview rfl (by decide)).mpr (.inl (by decide))

/-- The driver's tables are returned as system tables. -/
theorem not_honoursTypes_systemTable :
    ¬ HonoursTypes (listing (agentView false)) (agentView false) "SYSTEM TABLE".toList := by
  rintro ⟨out, names, hout, -, hrows⟩
  have hasks : ¬ AsksForTables "SYSTEM TABLE".toList := by decide
  have hview : (listing (agentView false)).getMetadataView = some (agentView false) := rfl
  rw [execute_tables hview rfl (.inr (by decide)) (by simp)] at hout
  obtain rfl := Except.ok.inj hout
  rw [if_neg hasks] at hrows
  cases hrows

end TableMetadataQuery

end EzRets
