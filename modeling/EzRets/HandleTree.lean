import EzRets.HandleCalls
import EzRets.Lib.Ownership

/-!
# EzRets.HandleTree — the live handles of a driver

Environments own connections and connections own statements, by a list in the owner and a pointer
back.  The handles are allocated and released through the functions of two versions of ODBC, with
different guards.  A call on a handle that is not live has no model.
-/

namespace EzRets

open FaultRun Ownership

/-- A live connection, with the pointer to its environment. -/
structure LiveDbc where
  mEnv : Ptr
  dbc : RetsDBC

/-- A live statement, with the pointer to its connection. -/
structure LiveStmt where
  mDbc : Ptr
  stmt : RetsSTMT

/-- The live handles by their addresses. -/
structure Handles where
  envs : Ptr → Option RetsENV
  dbcs : Ptr → Option LiveDbc
  stmts : Ptr → Option LiveStmt

/-- Why a call does not return: the handle is not live, the object that it points back to is not
live, or undefined behaviour within a function of the handle. -/
inductive HandleFault
  | deadHandle
  | deadParent
  | inside (f : Fault)
  deriving DecidableEq, Repr

/-- The calls that allocate and release handles, those that open and close a session, and the other
calls on a statement; `SQLFreeStmt` is among the last. -/
inductive TreeCall
  | allocHandle (handleType : Int) (inputHandle outputHandlePtr : Ptr) (allocated : Except Str Ptr)
  | allocEnv (environmentHandle : Ptr) (allocated : Except Str Ptr)
  | allocConnect (env connectionHandle : Ptr) (allocated : Except Str Ptr)
  | allocStmt (dbc statementHandle : Ptr) (allocated : Except Str Ptr)
  | freeHandle (handleType : Int) (handle : Ptr)
  | freeEnv (env : Ptr)
  | freeConnect (dbc : Ptr)
  | session (dbc : Ptr) (ctx : DbcContext) (c : RetsDBC.ConnectCall)
  | statement (stmt : Ptr) (ctx : CallContext) (c : StmtCall)

namespace Handles

/-- The outcome of a call as the application sees it. -/
structure Outcome where
  handles : Handles
  result : SqlReturn
  writes : List Write

variable (hs : Handles)

/-- Before the first call. -/
def empty : Handles := ⟨fun _ => none, fun _ => none, fun _ => none⟩

def setEnv (p : Ptr) (env : Option RetsENV) : Handles :=
  { hs with envs := Function.update hs.envs p env }

def setDbc (p : Ptr) (dbc : Option LiveDbc) : Handles :=
  { hs with dbcs := Function.update hs.dbcs p dbc }

def setStmt (p : Ptr) (stmt : Option LiveStmt) : Handles :=
  { hs with stmts := Function.update hs.stmts p stmt }

/-- A dereference; `f` says whose pointer it is. -/
def deref {α : Type} (f : HandleFault) : Option α → Except HandleFault α
  | some x => .ok x
  | none => .error f

/-- A function of one handle. -/
def inside {α : Type} : Except Fault α → Except HandleFault α
  | .ok x => .ok x
  | .error f => .error (.inside f)

/-- A call that ends with `result` and changes nothing. -/
def returns (result : SqlReturn) : Outcome := ⟨hs, result, []⟩

/-- The object that an allocating function leaves: it calls `new` after the check of the pointer. -/
def created (handle : Ptr) (allocated : Except Str Ptr) : Option Ptr :=
  if handle = 0 then none else allocated.toOption

/-! ## Allocation -/

/-- `rets_SQLAllocEnv`; the assertion of the entry point answers a null pointer alike. -/
def sqlAllocEnv (environmentHandle : Ptr) (allocated : Except Str Ptr) : Outcome :=
  if environmentHandle = 0 then hs.returns .invalidHandle
  else
    match allocated with
    | .ok p => ⟨hs.setEnv p (some RetsENV.new), .success, [⟨environmentHandle, .pointer p⟩]⟩
    | .error _ => ⟨hs, .error, [⟨environmentHandle, .pointer 0⟩]⟩

def sqlAllocConnect (env connectionHandle : Ptr) (allocated : Except Str Ptr) :
    Except HandleFault Outcome := do
  let e ← deref .deadHandle (hs.envs env)
  let out := e.sqlAllocConnect connectionHandle allocated
  let hs := hs.setEnv env (some out.env)
  match created connectionHandle allocated with
  | some p => return ⟨hs.setDbc p (some ⟨env, RetsDBC.new⟩), out.result, out.writes⟩
  | none => return ⟨hs, out.result, out.writes⟩

def sqlAllocStmt (dbc statementHandle : Ptr) (allocated : Except Str Ptr) :
    Except HandleFault Outcome := do
  let d ← deref .deadHandle (hs.dbcs dbc)
  let out := d.dbc.sqlAllocStmt statementHandle allocated
  let hs := hs.setDbc dbc (some { d with dbc := out.dbc })
  match created statementHandle allocated with
  | some p => return ⟨hs.setStmt p (some ⟨dbc, RetsSTMT.new⟩), out.result, out.writes⟩
  | none => return ⟨hs, out.result, out.writes⟩

/-- `SQLAllocHandle`; the types are `SQL_HANDLE_ENV`, `SQL_HANDLE_DBC` and `SQL_HANDLE_STMT`. -/
def sqlAllocHandle (handleType : Int) (inputHandle outputHandlePtr : Ptr)
    (allocated : Except Str Ptr) : Except HandleFault Outcome :=
  match handleType with
  | 1 => .ok (hs.sqlAllocEnv outputHandlePtr allocated)
  | 2 => hs.sqlAllocConnect inputHandle outputHandlePtr allocated
  | 3 => hs.sqlAllocStmt inputHandle outputHandlePtr allocated
  | _ => .ok (hs.returns .error)

/-! ## Release -/

/-- `rets_SQLFreeEnv`. -/
def sqlFreeEnv (env : Ptr) : Except HandleFault Outcome := do
  let e ← deref .deadHandle (hs.envs env)
  let out := e.sqlFreeEnv
  return ⟨if e.canBeFreed then hs.setEnv env none else hs, out.result, out.writes⟩

def sqlFreeConnect (dbc : Ptr) : Except HandleFault Outcome := do
  let d ← deref .deadHandle (hs.dbcs dbc)
  let e ← deref .deadParent (hs.envs d.mEnv)
  let out := e.sqlFreeConnect dbc d.dbc.canBeFreed
  let hs := hs.setEnv d.mEnv (some out.env)
  return ⟨if d.dbc.canBeFreed then hs.setDbc dbc none else hs, out.result, out.writes⟩

/-- `RetsDBC::SQLFreeStmt`; `SQL_DROP` is 1. -/
def sqlFreeStmt (stmt : Ptr) (option : Nat) : Except HandleFault Outcome := do
  let s ← deref .deadHandle (hs.stmts stmt)
  let d ← deref .deadParent (hs.dbcs s.mDbc)
  let out := d.dbc.sqlFreeStmt stmt option
  let hs := hs.setDbc s.mDbc (some { d with dbc := out.dbc })
  if option = 1 then return ⟨hs.setStmt stmt none, out.result, out.writes⟩
  else
    let unbound ← inside (s.stmt.sqlFreeStmt option)
    return ⟨hs.setStmt stmt (some { s with stmt := unbound.stmt }), out.result, out.writes⟩

def sqlFreeHandle (handleType : Int) (handle : Ptr) : Except HandleFault Outcome :=
  match handleType with
  | 1 => hs.sqlFreeEnv handle
  | 2 => hs.sqlFreeConnect handle
  | 3 => hs.sqlFreeStmt handle 1
  | _ => .ok (hs.returns .error)

/-! ## Sessions and statements -/

/-- A call on a connection that opens or closes its session; the logger is that of the
environment. -/
def session (dbc : Ptr) (ctx : DbcContext) (c : RetsDBC.ConnectCall) :
    Except HandleFault Outcome := do
  let d ← deref .deadHandle (hs.dbcs dbc)
  let _ ← deref .deadParent (hs.envs d.mEnv)
  let r ← inside (d.dbc.call ctx (.session c))
  return ⟨hs.setDbc dbc (some { d with dbc := r.dbc }), r.result, r.writes⟩

/-- Another call on a statement. -/
def statement (stmt : Ptr) (ctx : CallContext) (c : StmtCall) : Except HandleFault Outcome := do
  let s ← deref .deadHandle (hs.stmts stmt)
  let _ ← deref .deadParent (hs.dbcs s.mDbc)
  let r ← inside (s.stmt.call ctx c)
  return ⟨hs.setStmt stmt (some { s with stmt := r.stmt }), r.result, r.writes⟩

def call (c : TreeCall) : Except HandleFault Outcome :=
  match c with
  | .allocHandle handleType inputHandle outputHandlePtr allocated =>
    hs.sqlAllocHandle handleType inputHandle outputHandlePtr allocated
  | .allocEnv environmentHandle allocated => .ok (hs.sqlAllocEnv environmentHandle allocated)
  | .allocConnect env connectionHandle allocated =>
    hs.sqlAllocConnect env connectionHandle allocated
  | .allocStmt dbc statementHandle allocated => hs.sqlAllocStmt dbc statementHandle allocated
  | .freeHandle handleType handle => hs.sqlFreeHandle handleType handle
  | .freeEnv env => hs.sqlFreeEnv env
  | .freeConnect dbc => hs.sqlFreeConnect dbc
  | .session dbc ctx c => hs.session dbc ctx c
  | .statement stmt _ (.freeStmt option) => hs.sqlFreeStmt stmt option
  | .statement stmt ctx c => hs.statement stmt ctx c

/-- The handles after a call. -/
def step (c : TreeCall) (hs : Handles) : Except HandleFault Handles :=
  (hs.call c).map Outcome.handles

/-- The handles after a sequence of calls. -/
def run : List TreeCall → Handles → Except HandleFault Handles := FaultRun.run step

/-- `new` gives an address at which nothing lives. -/
def Vacant (allocated : Except Str Ptr) : Prop :=
  ∀ p, allocated = .ok p → hs.envs p = none ∧ hs.dbcs p = none ∧ hs.stmts p = none

/-- The `new` of the call, if it makes one, gives an address at which nothing lives. -/
def Fresh (c : TreeCall) (hs : Handles) : Prop :=
  match c with
  | .allocHandle _ _ _ allocated | .allocEnv _ allocated | .allocConnect _ _ allocated
  | .allocStmt _ _ allocated => hs.Vacant allocated
  | _ => True

/-! ## What a call does to the tree -/

/-- The tree after a call: a node is added or dropped, or its contents change and its list does
not. -/
inductive TreeStep : Handles → Prop
  | same : TreeStep hs
  | addEnv {p : Ptr} (hp : hs.envs p = none) : TreeStep (hs.setEnv p (some RetsENV.new))
  | dropEnv {p : Ptr} {e : RetsENV} (he : hs.envs p = some e)
      (hnone : e.mDatabaseConnections = []) : TreeStep (hs.setEnv p none)
  | env {p : Ptr} {e e' : RetsENV} (he : hs.envs p = some e)
      (hlist : e'.mDatabaseConnections = e.mDatabaseConnections) :
      TreeStep (hs.setEnv p (some e'))
  | addDbc {env p : Ptr} {e e' : RetsENV} (he : hs.envs env = some e) (hp : hs.dbcs p = none)
      (hlist : e'.mDatabaseConnections = e.mDatabaseConnections ++ [p]) :
      TreeStep ((hs.setEnv env (some e')).setDbc p (some ⟨env, RetsDBC.new⟩))
  | dropDbc {p : Ptr} {d : LiveDbc} {e e' : RetsENV} (hd : hs.dbcs p = some d)
      (he : hs.envs d.mEnv = some e) (hfree : d.dbc.canBeFreed = true)
      (hlist : e'.mDatabaseConnections = e.mDatabaseConnections.filter (· ≠ p)) :
      TreeStep ((hs.setEnv d.mEnv (some e')).setDbc p none)
  | dbc {p : Ptr} {d : LiveDbc} {d' : RetsDBC} (hd : hs.dbcs p = some d)
      (hlist : d'.mStatements = d.dbc.mStatements) :
      TreeStep (hs.setDbc p (some { d with dbc := d' }))
  | addStmt {dbc p : Ptr} {d : LiveDbc} {d' : RetsDBC} (hd : hs.dbcs dbc = some d)
      (hp : hs.stmts p = none) (hlist : d'.mStatements = d.dbc.mStatements ++ [p]) :
      TreeStep ((hs.setDbc dbc (some { d with dbc := d' })).setStmt p (some ⟨dbc, RetsSTMT.new⟩))
  | dropStmt {p : Ptr} {s : LiveStmt} {d : LiveDbc} {d' : RetsDBC} (hs' : hs.stmts p = some s)
      (hd : hs.dbcs s.mDbc = some d)
      (hlist : d'.mStatements = d.dbc.mStatements.filter (· ≠ p)) :
      TreeStep ((hs.setDbc s.mDbc (some { d with dbc := d' })).setStmt p none)
  | stmt {p : Ptr} {s : LiveStmt} {d : LiveDbc} {d' : RetsDBC} {s' : RetsSTMT}
      (hs' : hs.stmts p = some s) (hd : hs.dbcs s.mDbc = some d)
      (hlist : d'.mStatements = d.dbc.mStatements) :
      TreeStep ((hs.setDbc s.mDbc (some { d with dbc := d' })).setStmt p
        (some { s with stmt := s' }))

end Handles

namespace RetsDBC

theorem login_mStatements (build : Build) (answer : ServerAnswer) (dbc : RetsDBC) :
    (login build answer dbc).1.mStatements = dbc.mStatements := by
  have hfailed : ∀ (d : RetsDBC) (e : Exn), (d.loginFailed e).1.mStatements = d.mStatements := by
    intro d e
    unfold loginFailed
    split_ifs <;> rfl
  unfold login
  dsimp only
  split
  · exact hfailed dbc _
  · rfl
  · split
    · exact hfailed _ _
    · rfl

/-- The calls that open and close a session leave the list of the statements alone. -/
theorem uncaught_mStatements (ctx : DbcContext) (dbc : RetsDBC) (c : ConnectCall) :
    (dbc.uncaught ctx.build ctx.ini ctx.answer c).dbc.mStatements = dbc.mStatements := by
  rcases c with ⟨dataSource, userName, authentication⟩ | ⟨s, args⟩ | _
  · show (dbc.sqlConnect _ _ _ dataSource userName authentication).dbc.mStatements = _
    unfold sqlConnect
    dsimp only
    split
    · rfl
    · split <;> exact login_mStatements _ _ _
  · show (dbc.sqlDriverConnect _ _ _ s args).dbc.mStatements = _
    unfold sqlDriverConnect
    dsimp only
    split
    · rfl
    · split
      · exact login_mStatements _ _ _
      · exact login_mStatements _ _ _
      · split
        · split <;> exact login_mStatements _ _ _
        · exact login_mStatements _ _ _
  · show (dbc.sqlDisconnect ctx.answer).dbc.mStatements = _
    unfold sqlDisconnect
    dsimp only
    split
    · rfl
    · split
      · rfl
      · split <;> rfl

end RetsDBC

namespace Handles

variable {hs hs' : Handles} {out : Outcome}

theorem deref_eq_ok {α : Type} {f : HandleFault} {x : Option α} {a : α} :
    deref f x = .ok a ↔ x = some a := by
  cases x with
  | none => constructor <;> intro h <;> cases h
  | some b => exact ⟨fun h => congrArg some (Except.ok.inj h),
      fun h => congrArg Except.ok (Option.some.inj h)⟩

theorem inside_eq_ok {α : Type} {x : Except Fault α} {a : α} : inside x = .ok a ↔ x = .ok a := by
  have hmap : inside x = x.mapError HandleFault.inside := by
    rcases x with f | b <;> rfl
  rw [hmap, FaultRun.mapError_eq_ok]

/-- The allocating functions of a parent: the child is listed exactly if it is created. -/
theorem allocate_children (allocated : Except Str Ptr) (handle : Ptr) (children : List Ptr) :
    (AbstractHandle.allocate allocated handle children).children =
      match created handle allocated with
      | some p => children ++ [p]
      | none => children := by
  unfold AbstractHandle.allocate created
  split_ifs
  · rfl
  · rcases allocated with _ | _ <;> rfl

theorem created_eq_some {handle p : Ptr} {allocated : Except Str Ptr}
    (h : created handle allocated = some p) : allocated = .ok p := by
  unfold created at h
  split_ifs at h
  rcases allocated with what | q
  · cases h
  · rw [Option.some.inj h]

theorem sqlAllocEnv_step {environmentHandle : Ptr} {allocated : Except Str Ptr}
    (hfresh : hs.Vacant allocated) :
    hs.TreeStep (hs.sqlAllocEnv environmentHandle allocated).handles := by
  unfold sqlAllocEnv
  split_ifs
  · exact .same
  · rcases allocated with what | p
    · exact .same
    · exact .addEnv (hfresh p rfl).1

theorem sqlAllocConnect_step {env connectionHandle : Ptr} {allocated : Except Str Ptr}
    (hfresh : hs.Vacant allocated)
    (h : hs.sqlAllocConnect env connectionHandle allocated = .ok out) :
    hs.TreeStep out.handles := by
  obtain ⟨e, he, h⟩ := bind_eq_ok.mp h
  have hlist := allocate_children allocated connectionHandle e.mDatabaseConnections
  rcases hcreated : created connectionHandle allocated with _ | p
  · rw [hcreated] at h hlist
    rw [← Except.ok.inj h]
    exact .env (deref_eq_ok.mp he) hlist
  · rw [hcreated] at h hlist
    rw [← Except.ok.inj h]
    exact .addDbc (deref_eq_ok.mp he) (hfresh p (created_eq_some hcreated)).2.1 hlist

theorem sqlAllocStmt_step {dbc statementHandle : Ptr} {allocated : Except Str Ptr}
    (hfresh : hs.Vacant allocated)
    (h : hs.sqlAllocStmt dbc statementHandle allocated = .ok out) :
    hs.TreeStep out.handles := by
  obtain ⟨d, hd, h⟩ := bind_eq_ok.mp h
  have hlist := allocate_children allocated statementHandle d.dbc.mStatements
  rcases hcreated : created statementHandle allocated with _ | p
  · rw [hcreated] at h hlist
    rw [← Except.ok.inj h]
    exact .dbc (deref_eq_ok.mp hd) hlist
  · rw [hcreated] at h hlist
    rw [← Except.ok.inj h]
    exact .addStmt (deref_eq_ok.mp hd) (hfresh p (created_eq_some hcreated)).2.2 hlist

theorem sqlFreeEnv_step {env : Ptr} (h : hs.sqlFreeEnv env = .ok out) :
    hs.TreeStep out.handles := by
  obtain ⟨e, he, h⟩ := bind_eq_ok.mp h
  rw [← Except.ok.inj h]
  dsimp only
  split_ifs with hfree
  · exact .dropEnv (deref_eq_ok.mp he) (List.isEmpty_iff.mp hfree)
  · exact .same

theorem sqlFreeConnect_step {dbc : Ptr} (h : hs.sqlFreeConnect dbc = .ok out) :
    hs.TreeStep out.handles := by
  obtain ⟨d, hd, h⟩ := bind_eq_ok.mp h
  obtain ⟨e, he, h⟩ := bind_eq_ok.mp h
  rw [← Except.ok.inj h]
  dsimp only
  split_ifs with hfree
  · refine .dropDbc (deref_eq_ok.mp hd) (deref_eq_ok.mp he) hfree ?_
    rw [hfree]
    rfl
  · rw [Bool.not_eq_true] at hfree
    rw [hfree]
    exact .env (deref_eq_ok.mp he) rfl

theorem sqlFreeStmt_step {stmt : Ptr} {option : Nat} (h : hs.sqlFreeStmt stmt option = .ok out) :
    hs.TreeStep out.handles := by
  obtain ⟨s, hst, h⟩ := bind_eq_ok.mp h
  obtain ⟨d, hd, h⟩ := bind_eq_ok.mp h
  by_cases hdrop : option = 1
  · rw [if_pos hdrop] at h
    rw [← Except.ok.inj h]
    refine .dropStmt (deref_eq_ok.mp hst) (deref_eq_ok.mp hd) ?_
    rw [hdrop]
    rfl
  · rw [if_neg hdrop] at h
    obtain ⟨unbound, -, h⟩ := bind_eq_ok.mp h
    rw [← Except.ok.inj h]
    refine .stmt (deref_eq_ok.mp hst) (deref_eq_ok.mp hd) ?_
    unfold RetsDBC.sqlFreeStmt
    dsimp only
    rw [if_neg hdrop]
    rfl

theorem session_step {dbc : Ptr} {ctx : DbcContext} {c : RetsDBC.ConnectCall}
    (h : hs.session dbc ctx c = .ok out) : hs.TreeStep out.handles := by
  obtain ⟨d, hd, h⟩ := bind_eq_ok.mp h
  obtain ⟨e, -, h⟩ := bind_eq_ok.mp h
  obtain ⟨r, hr, h⟩ := bind_eq_ok.mp h
  rw [← Except.ok.inj h]
  refine .dbc (deref_eq_ok.mp hd) ?_
  rw [← Except.ok.inj (inside_eq_ok.mp hr)]
  exact RetsDBC.uncaught_mStatements ctx d.dbc c

theorem statement_step {stmt : Ptr} {ctx : CallContext} {c : StmtCall}
    (h : hs.statement stmt ctx c = .ok out) : hs.TreeStep out.handles := by
  obtain ⟨s, hst, h⟩ := bind_eq_ok.mp h
  obtain ⟨d, hd, h⟩ := bind_eq_ok.mp h
  obtain ⟨r, -, h⟩ := bind_eq_ok.mp h
  rw [← Except.ok.inj h]
  -- the connection stays as it is
  have hstep : hs.TreeStep ((hs.setDbc s.mDbc (some { d with dbc := d.dbc })).setStmt stmt
      (some { s with stmt := r.stmt })) := .stmt (deref_eq_ok.mp hst) (deref_eq_ok.mp hd) rfl
  have hsame : hs.setDbc s.mDbc (some { d with dbc := d.dbc }) = hs := by
    unfold setDbc
    rw [← deref_eq_ok.mp hd, Function.update_eq_self]
  rw [hsame] at hstep
  exact hstep

/-- **Every call adds a node, drops one, or leaves the lists as they are.** -/
theorem call_step {c : TreeCall} (hfresh : Fresh c hs) (h : hs.call c = .ok out) :
    hs.TreeStep out.handles := by
  rcases c with ⟨handleType, input, output, allocated⟩ | ⟨h', allocated⟩ | ⟨env, h', allocated⟩ |
    ⟨dbc, h', allocated⟩ | ⟨handleType, handle⟩ | env | dbc | ⟨dbc, ctx, c⟩ | ⟨stmt, ctx, c⟩
  · change hs.sqlAllocHandle handleType input output allocated = .ok out at h
    unfold sqlAllocHandle at h
    split at h
    · rw [← Except.ok.inj h]
      exact sqlAllocEnv_step hfresh
    · exact sqlAllocConnect_step hfresh h
    · exact sqlAllocStmt_step hfresh h
    · rw [← Except.ok.inj h]
      exact .same
  · rw [← Except.ok.inj h]
    exact sqlAllocEnv_step hfresh
  · exact sqlAllocConnect_step hfresh h
  · exact sqlAllocStmt_step hfresh h
  · change hs.sqlFreeHandle handleType handle = .ok out at h
    unfold sqlFreeHandle at h
    split at h
    · exact sqlFreeEnv_step h
    · exact sqlFreeConnect_step h
    · exact sqlFreeStmt_step h
    · rw [← Except.ok.inj h]
      exact .same
  · exact sqlFreeEnv_step h
  · exact sqlFreeConnect_step h
  · exact session_step h
  · cases c with
    | freeStmt option => exact sqlFreeStmt_step h
    | _ => exact statement_step h

/-! ## Parents and lists agree -/

def dbcOwner (hs : Handles) (p : Ptr) : Option Ptr := (hs.dbcs p).map LiveDbc.mEnv

def envChildren (hs : Handles) (p : Ptr) : Option (List Ptr) :=
  (hs.envs p).map RetsENV.mDatabaseConnections

def stmtOwner (hs : Handles) (p : Ptr) : Option Ptr := (hs.stmts p).map LiveStmt.mDbc

def dbcChildren (hs : Handles) (p : Ptr) : Option (List Ptr) :=
  (hs.dbcs p).map fun d => d.dbc.mStatements

/-- Every live connection is listed once by its environment and every live statement once by its
connection, both of them live, and the lists hold live handles only. -/
structure WellLinked (hs : Handles) : Prop where
  connections : Linked hs.dbcOwner hs.envChildren
  statements : Linked hs.stmtOwner hs.dbcChildren

theorem map_update {α β : Type} (f : Ptr → Option α) (p : Ptr) (v : Option α) (g : α → β) :
    (fun q => (Function.update f p v q).map g) =
      Function.update (fun q => (f q).map g) p (v.map g) := by
  funext q
  by_cases hq : q = p
  · subst hq
    rw [Function.update_self, Function.update_self]
  · rw [Function.update_of_ne hq, Function.update_of_ne hq]

@[simp] theorem envChildren_setEnv (p : Ptr) (e : Option RetsENV) :
    (hs.setEnv p e).envChildren =
      Function.update hs.envChildren p (e.map RetsENV.mDatabaseConnections) := map_update _ _ _ _

@[simp] theorem dbcOwner_setDbc (p : Ptr) (d : Option LiveDbc) :
    (hs.setDbc p d).dbcOwner = Function.update hs.dbcOwner p (d.map LiveDbc.mEnv) :=
  map_update _ _ _ _

@[simp] theorem dbcChildren_setDbc (p : Ptr) (d : Option LiveDbc) :
    (hs.setDbc p d).dbcChildren =
      Function.update hs.dbcChildren p (d.map fun d => d.dbc.mStatements) := map_update _ _ _ _

@[simp] theorem stmtOwner_setStmt (p : Ptr) (s : Option LiveStmt) :
    (hs.setStmt p s).stmtOwner = Function.update hs.stmtOwner p (s.map LiveStmt.mDbc) :=
  map_update _ _ _ _

@[simp] theorem dbcOwner_setEnv (p : Ptr) (e : Option RetsENV) :
    (hs.setEnv p e).dbcOwner = hs.dbcOwner := rfl

@[simp] theorem dbcChildren_setEnv (p : Ptr) (e : Option RetsENV) :
    (hs.setEnv p e).dbcChildren = hs.dbcChildren := rfl

@[simp] theorem stmtOwner_setEnv (p : Ptr) (e : Option RetsENV) :
    (hs.setEnv p e).stmtOwner = hs.stmtOwner := rfl

@[simp] theorem envChildren_setDbc (p : Ptr) (d : Option LiveDbc) :
    (hs.setDbc p d).envChildren = hs.envChildren := rfl

@[simp] theorem stmtOwner_setDbc (p : Ptr) (d : Option LiveDbc) :
    (hs.setDbc p d).stmtOwner = hs.stmtOwner := rfl

@[simp] theorem envChildren_setStmt (p : Ptr) (s : Option LiveStmt) :
    (hs.setStmt p s).envChildren = hs.envChildren := rfl

@[simp] theorem dbcOwner_setStmt (p : Ptr) (s : Option LiveStmt) :
    (hs.setStmt p s).dbcOwner = hs.dbcOwner := rfl

@[simp] theorem dbcChildren_setStmt (p : Ptr) (s : Option LiveStmt) :
    (hs.setStmt p s).dbcChildren = hs.dbcChildren := rfl

section Entries

variable {p : Ptr}

theorem envChildren_of {e : RetsENV} (h : hs.envs p = some e) :
    hs.envChildren p = some e.mDatabaseConnections := by rw [envChildren, h]; rfl

theorem dbcOwner_of {d : LiveDbc} (h : hs.dbcs p = some d) : hs.dbcOwner p = some d.mEnv := by
  rw [dbcOwner, h]; rfl

theorem dbcChildren_of {d : LiveDbc} (h : hs.dbcs p = some d) :
    hs.dbcChildren p = some d.dbc.mStatements := by rw [dbcChildren, h]; rfl

theorem stmtOwner_of {s : LiveStmt} (h : hs.stmts p = some s) : hs.stmtOwner p = some s.mDbc := by
  rw [stmtOwner, h]; rfl

theorem envChildren_none (h : hs.envs p = none) : hs.envChildren p = none := by
  rw [envChildren, h]; rfl

theorem dbcOwner_none (h : hs.dbcs p = none) : hs.dbcOwner p = none := by rw [dbcOwner, h]; rfl

theorem dbcChildren_none (h : hs.dbcs p = none) : hs.dbcChildren p = none := by
  rw [dbcChildren, h]; rfl

theorem stmtOwner_none (h : hs.stmts p = none) : hs.stmtOwner p = none := by
  rw [stmtOwner, h]; rfl

/-- A connection that keeps its environment and its list. -/
theorem WellLinked.setDbc_same {d : LiveDbc} {d' : RetsDBC} (h : hs.WellLinked)
    (hd : hs.dbcs p = some d) (hlist : d'.mStatements = d.dbc.mStatements) :
    (hs.setDbc p (some { d with dbc := d' })).WellLinked := by
  have howner : Function.update hs.dbcOwner p (some d.mEnv) = hs.dbcOwner :=
    Function.update_eq_self_iff.mpr (dbcOwner_of hd).symm
  have hchildren : Function.update hs.dbcChildren p (some d'.mStatements) = hs.dbcChildren :=
    Function.update_eq_self_iff.mpr (by rw [hlist, dbcChildren_of hd])
  constructor
  · simpa [howner] using h.connections
  · simpa [hchildren] using h.statements

/-- A statement that keeps its connection. -/
theorem WellLinked.setStmt_same {s : LiveStmt} {s' : RetsSTMT} (h : hs.WellLinked)
    (hst : hs.stmts p = some s) : (hs.setStmt p (some { s with stmt := s' })).WellLinked := by
  have howner : Function.update hs.stmtOwner p (some s.mDbc) = hs.stmtOwner :=
    Function.update_eq_self_iff.mpr (stmtOwner_of hst).symm
  constructor
  · simpa using h.connections
  · simpa [howner] using h.statements

end Entries

/-- **What a call does keeps parents and lists in agreement.** -/
theorem WellLinked.treeStep (h : hs.WellLinked) (hstep : hs.TreeStep hs') : hs'.WellLinked := by
  rcases hstep with _ | hp | ⟨he, hnone⟩ | @⟨p, e, e', he, hlist⟩ | ⟨he, hp, hlist⟩ |
    @⟨p, d, e, e', hd, he, hfree, hlist⟩ | ⟨hd, hlist⟩ | @⟨dbc, p, d, d', hd, hp, hlist⟩ |
    @⟨p, s, d, d', hst, hd, hlist⟩ | ⟨hst, hd, hlist⟩
  · exact h
  · constructor
    · simpa [RetsENV.new] using h.connections.addOwner (envChildren_none hp)
    · simpa using h.statements
  · constructor
    · simpa using h.connections.removeOwner (by rw [envChildren_of he, hnone])
    · simpa using h.statements
  · have hsame : Function.update hs.envChildren p (some e'.mDatabaseConnections) =
        hs.envChildren := Function.update_eq_self_iff.mpr (by rw [hlist, envChildren_of he])
    constructor
    · simpa [hsame] using h.connections
    · simpa using h.statements
  · constructor
    · simpa [hlist] using h.connections.addChild (dbcOwner_none hp) (envChildren_of he)
    · simpa [RetsDBC.new] using h.statements.addOwner (dbcChildren_none hp)
  · have hempty : d.dbc.mStatements = [] :=
      List.isEmpty_iff.mp (Bool.and_eq_true_iff.mp hfree).2
    constructor
    · simpa [hlist] using h.connections.removeChild (dbcOwner_of hd) (envChildren_of he)
    · simpa using h.statements.removeOwner (by rw [dbcChildren_of hd, hempty])
  · exact h.setDbc_same hd hlist
  · have howner : Function.update hs.dbcOwner dbc (some d.mEnv) = hs.dbcOwner :=
      Function.update_eq_self_iff.mpr (dbcOwner_of hd).symm
    constructor
    · simpa [howner] using h.connections
    · simpa [hlist] using h.statements.addChild (stmtOwner_none hp) (dbcChildren_of hd)
  · have howner : Function.update hs.dbcOwner s.mDbc (some d.mEnv) = hs.dbcOwner :=
      Function.update_eq_self_iff.mpr (dbcOwner_of hd).symm
    constructor
    · simpa [howner] using h.connections
    · simpa [hlist] using h.statements.removeChild (stmtOwner_of hst) (dbcChildren_of hd)
  · exact (h.setDbc_same hd hlist).setStmt_same hst

/-- A connection that a call frees has no session. -/
theorem TreeStep.freed (hstep : hs.TreeStep hs') {p : Ptr} {d : LiveDbc}
    (hd : hs.dbcs p = some d) (hfreed : hs'.dbcs p = none) : d.dbc.mRetsSession = none := by
  have hlive : ∀ {q : Ptr} {x : LiveDbc}, Function.update hs.dbcs q (some x) p ≠ none := by
    intro q x
    by_cases hq : p = q
    · subst hq
      rw [Function.update_self]
      exact Option.some_ne_none x
    · rw [Function.update_of_ne hq, hd]
      exact Option.some_ne_none d
  have hkept : hs.dbcs p ≠ none := by rw [hd]; exact Option.some_ne_none d
  rcases hstep with _ | _ | _ | _ | _ | @⟨q, d', e, e', hd', he, hfree, hlist⟩ | _ | _ | _ | _
  · exact absurd hfreed hkept
  · exact absurd hfreed hkept
  · exact absurd hfreed hkept
  · exact absurd hfreed hkept
  · exact absurd hfreed hlive
  · by_cases hq : p = q
    · subst hq
      obtain rfl := Option.some.inj (hd.symm.trans hd')
      exact Option.isNone_iff_eq_none.mp (Bool.and_eq_true_iff.mp hfree).1
    · have hsame : Function.update hs.dbcs q none p = none := hfreed
      rw [Function.update_of_ne hq] at hsame
      exact absurd hsame hkept
  · exact absurd hfreed hlive
  · exact absurd hfreed hlive
  · exact absurd hfreed hlive
  · exact absurd hfreed hlive

/-- Whatever call comes next, a connection that it frees has no open session. -/
def FreesClosedOnly (hs : Handles) : Prop :=
  ∀ c hs', Fresh c hs → step c hs = .ok hs' →
    ∀ p d, hs.dbcs p = some d → hs'.dbcs p = none → d.dbc.mRetsSession = none

/-- **In every tree that calls on live handles build, parents are live and list their children
once, the lists hold live handles only, and only a connection without a session is freed.** -/
theorem wellLinked_of_run {calls : List TreeCall} (hfresh : Meets step Fresh calls empty)
    (h : run calls empty = .ok hs) : hs.WellLinked ∧ hs.FreesClosedOnly := by
  constructor
  · refine hfresh.invariant (I := WellLinked) ?_ ⟨linked_empty, linked_empty⟩ h
    intro c _ hs₁ hs₂ hc hlinked hstep
    obtain ⟨out, hout, rfl⟩ := map_eq_ok.mp hstep
    exact hlinked.treeStep (call_step hc hout)
  · intro c hs' hc hstep p d hd hfreed
    obtain ⟨out, hout, rfl⟩ := map_eq_ok.mp hstep
    exact (call_step hc hout).freed hd hfreed

/-- A statement is allocated, its connection cannot be freed, and the statement is dropped. -/
def droppedCalls : List TreeCall :=
  [.allocEnv 1 (.ok 8), .allocHandle 2 8 2 (.ok 16), .allocStmt 16 3 (.ok 24), .freeConnect 16,
    .freeHandle 3 24]

theorem wellLinked_dropped :
    ∃ hs, run droppedCalls empty = .ok hs ∧ hs.WellLinked ∧ hs.FreesClosedOnly := by
  have hvacant : ∀ {hs : Handles} {p : Ptr}, hs.envs p = none → hs.dbcs p = none →
      hs.stmts p = none → hs.Vacant (.ok p) := by
    intro hs p henv hdbc hstmt q hq
    obtain rfl := Except.ok.inj hq
    exact ⟨henv, hdbc, hstmt⟩
  have hfresh : Meets step Fresh droppedCalls empty := by
    refine ⟨hvacant rfl rfl rfl, fun hs₁ h₁ => ?_⟩
    obtain rfl := Except.ok.inj h₁
    refine ⟨hvacant rfl rfl rfl, fun hs₂ h₂ => ?_⟩
    obtain rfl := Except.ok.inj h₂
    refine ⟨hvacant rfl rfl rfl, fun hs₃ h₃ => ?_⟩
    exact ⟨trivial, fun _ _ => ⟨trivial, fun _ _ => trivial⟩⟩
  have hrun : run droppedCalls empty = .ok _ := rfl
  exact ⟨_, hrun, wellLinked_of_run hfresh hrun⟩

end Handles

end EzRets
