import EzRets.HandleTree
import EzRets.Lib.Component

/-!
# EzRets.Driver — the entry points of the driver on its live handles

All entry points as calls on one state, the live handles.  What a statement reads of its
connection, the session, the metadata view and the settings, is the connection's own state at the
time of the call; librets, the server and the application's memory remain inputs.  The calls are
those of a driver that keeps no debug log: with one they also read what they log.
-/

namespace EzRets

open FaultRun

/-- What a call on a statement reads besides the handles: librets' compiler, the server, the
application's memory and the addresses of the four descriptors. -/
structure StmtInputs where
  sqlToDmql : Str → Except Exn CompiledQuery
  search : SearchRequest → Except Exn SearchResultSet
  getObject : GetObjectRequest → Except Exn GetObjectResponse
  deref : Deref
  descriptor : DescriptorType → Ptr

/-- A connection as its statements read it. -/
def RetsDBC.connection (dbc : RetsDBC) (inputs : StmtInputs) : Connection where
  mDataSource := dbc.mDataSource
  getMetadataView := dbc.mMetadataView
  getRetsSession := dbc.mRetsSession.map fun session =>
    ⟨session.loginUrl, inputs.search, inputs.getObject⟩
  sqlToDmql := inputs.sqlToDmql

def RetsDBC.context (dbc : RetsDBC) (inputs : StmtInputs) : CallContext :=
  ⟨dbc.connection inputs, inputs.deref, inputs.descriptor⟩

/-- A statement sees the session, the view and the settings of its connection. -/
theorem RetsDBC.SameSession.context_eq {dbc dbc' : RetsDBC} (h : SameSession dbc dbc')
    (inputs : StmtInputs) : dbc'.context inputs = dbc.context inputs := by
  simp only [RetsDBC.context, RetsDBC.connection, h.session, h.view, h.settings]

/-! ## The calls -/

/-- The call neither allocates nor frees: it reaches nothing but the environment. -/
def EnvCall.isLocal : EnvCall → Bool
  | .allocConnect _ _ | .freeEnv | .freeConnect _ _ => false
  | _ => true

/-- The call reaches nothing but the connection and leaves its session alone. -/
def DbcCall.isLocal : DbcCall → Bool
  | .session _ | .allocStmt _ _ | .freeConnect | .freeStmt _ _ => false
  | _ => true

/-- `SQLFreeStmt` goes through the connection of the statement, `SQLSetDescField` through a
descriptor. -/
def StmtEntry.isLocal : StmtEntry → Bool
  | .call (.freeStmt _) | .call (.setDescField _ _ _ _) => false
  | _ => true

/-- What a call on a null handle returns: the functions of NotImplemented.cpp skip the record, and
`SQLAllocHandle` does not look at the handle for a type that it does not know. -/
def EnvCall.nullResult : EnvCall → SqlReturn
  | .stub _ | .allocUnsupported _ => .error
  | _ => .invalidHandle

def DbcCall.nullResult : DbcCall → SqlReturn
  | .stub _ | .transact | .allocUnsupported _ => .error
  | _ => .invalidHandle

def StmtEntry.nullResult : StmtEntry → SqlReturn
  | .stub _ | .allocUnsupported _ => .error
  | _ => .invalidHandle

/-- The entry points of the driver.  The handle of a descriptor is known by its statement. -/
inductive DriverCall
  | allocHandle (handleType : Int) (inputHandle outputHandlePtr : Ptr) (allocated : Except Str Ptr)
  | allocEnv (environmentHandle : Ptr) (allocated : Except Str Ptr)
  | allocConnect (env connectionHandle : Ptr) (allocated : Except Str Ptr)
  | allocStmt (dbc statementHandle : Ptr) (allocated : Except Str Ptr)
  | freeHandle (handleType : Int) (handle : Ptr)
  | freeEnv (env : Ptr)
  | freeConnect (dbc : Ptr)
  | freeStmt (stmt : Ptr) (option : Nat)
  | session (dbc : Ptr) (ctx : DbcContext) (c : RetsDBC.ConnectCall)
  | env (env : Ptr) (c : {c : EnvCall // c.isLocal = true})
  | dbc (dbc : Ptr) (ctx : DbcContext) (c : {c : DbcCall // c.isLocal = true})
  | stmt (stmt : Ptr) (inputs : StmtInputs) (c : {c : StmtEntry // c.isLocal = true})
  | desc (stmt : Ptr) (desc : DescriptorType) (c : DescCall)

namespace RetsSTMT

/-- The descriptor at one of the four addresses. -/
def baseDesc (stmt : RetsSTMT) : DescriptorType → BaseDesc
  | .apd => stmt.apd.toBaseDesc
  | .ipd => stmt.ipd.toBaseDesc
  | .ard => stmt.ard.toBaseDesc
  | .ird => stmt.ird.toBaseDesc

def setBaseDesc (stmt : RetsSTMT) (desc : BaseDesc) : DescriptorType → RetsSTMT
  | .apd => { stmt with apd := { stmt.apd with toBaseDesc := desc } }
  | .ipd => { stmt with ipd := { stmt.ipd with toBaseDesc := desc } }
  | .ard => { stmt with ard := { stmt.ard with toBaseDesc := desc } }
  | .ird => { stmt with ird := { stmt.ird with toBaseDesc := desc } }

/-- A call on a descriptor of the statement. -/
def enterDesc (stmt : RetsSTMT) (desc : DescriptorType) (c : DescCall) : Except Fault Returned :=
  ((stmt.baseDesc desc).call c).map fun r => ⟨stmt.setBaseDesc r.desc desc, r.result, r.writes⟩

end RetsSTMT

namespace Handles

variable (hs : Handles)

/-- The assertion of the entry points that take a handle. -/
def checked (handle : Ptr) (x : Except HandleFault Outcome) : Except HandleFault Outcome :=
  if handle = 0 then .ok (hs.returns .invalidHandle) else x

def onEnv (env : Ptr) (c : EnvCall) : Except HandleFault Outcome := do
  let e ← deref .deadHandle (hs.envs env)
  let r ← inside (e.call c)
  return ⟨hs.setEnv env (some r.env), r.result, r.writes⟩

/-- A call on a connection; the logger is that of the environment. -/
def onDbc (dbc : Ptr) (ctx : DbcContext) (c : DbcCall) : Except HandleFault Outcome := do
  let d ← deref .deadHandle (hs.dbcs dbc)
  let _ ← deref .deadParent (hs.envs d.mEnv)
  let r ← inside (d.dbc.call ctx c)
  return ⟨hs.setDbc dbc (some { d with dbc := r.dbc }), r.result, r.writes⟩

/-- A call on a statement, with the connection as it is now. -/
def onStmt (stmt : Ptr) (inputs : StmtInputs) (c : StmtEntry) : Except HandleFault Outcome := do
  let s ← deref .deadHandle (hs.stmts stmt)
  let d ← deref .deadParent (hs.dbcs s.mDbc)
  let r ← inside (s.stmt.enter (d.dbc.context inputs) c)
  return ⟨hs.setStmt stmt (some { s with stmt := r.stmt }), r.result, r.writes⟩

/-- A call on a descriptor; the logger is that of the statement's connection. -/
def onDesc (stmt : Ptr) (desc : DescriptorType) (c : DescCall) : Except HandleFault Outcome := do
  let s ← deref .deadHandle (hs.stmts stmt)
  let _ ← deref .deadParent (hs.dbcs s.mDbc)
  let r ← inside (s.stmt.enterDesc desc c)
  return ⟨hs.setStmt stmt (some { s with stmt := r.stmt }), r.result, r.writes⟩

end Handles

namespace DriverCall

open Handles

/-- A call through its entry point. -/
def call (c : DriverCall) (hs : Handles) : Except HandleFault Outcome :=
  match c with
  | .allocHandle handleType inputHandle outputHandlePtr allocated =>
    hs.sqlAllocHandle handleType inputHandle outputHandlePtr allocated
  | .allocEnv environmentHandle allocated => .ok (hs.sqlAllocEnv environmentHandle allocated)
  | .allocConnect p connectionHandle allocated =>
    hs.checked p (hs.sqlAllocConnect p connectionHandle allocated)
  | .allocStmt p statementHandle allocated =>
    hs.checked p (hs.sqlAllocStmt p statementHandle allocated)
  | .freeHandle handleType p => hs.checked p (hs.sqlFreeHandle handleType p)
  | .freeEnv p => hs.checked p (hs.sqlFreeEnv p)
  | .freeConnect p => hs.checked p (hs.sqlFreeConnect p)
  | .freeStmt p option => hs.checked p (hs.sqlFreeStmt p option)
  | .session p ctx c => hs.checked p (hs.session p ctx c)
  | .env p c => if p = 0 then .ok (hs.returns c.val.nullResult) else hs.onEnv p c
  | .dbc p ctx c => if p = 0 then .ok (hs.returns c.val.nullResult) else hs.onDbc p ctx c
  | .stmt p inputs c => if p = 0 then .ok (hs.returns c.val.nullResult) else hs.onStmt p inputs c
  | .desc p d c => hs.onDesc p d c

/-- The return code of a call and what it stores. -/
abbrev Answer : Type := SqlReturn × List Write

/-- A call as a step with an answer. -/
def answer (c : DriverCall) (hs : Handles) : Except HandleFault (Handles × Answer) :=
  (c.call hs).map fun out => (out.handles, out.result, out.writes)

/-- The handles after a call. -/
def step : DriverCall → Handles → Except HandleFault Handles := Component.next answer

/-- The handles after a sequence of calls. -/
def run : List DriverCall → Handles → Except HandleFault Handles := FaultRun.run step

/-- The `new` of the call, if it makes one, gives an address at which nothing lives. -/
def Fresh (c : DriverCall) (hs : Handles) : Prop :=
  match c with
  | .allocHandle _ _ _ allocated | .allocEnv _ allocated | .allocConnect _ _ allocated
  | .allocStmt _ _ allocated => hs.Vacant allocated
  | _ => True

/-- The call leaves the debug log of its environment off.  A connect call opens it when the settings
that it comes to ask for it, for all connections of the environment. -/
def Quiet (c : DriverCall) (hs : Handles) : Prop :=
  match c with
  | .session q ctx c => ∀ d, hs.dbcs q = some d → c ≠ .disconnect →
      (d.dbc.after ctx.build ctx.ini ctx.answer c).mDataSource.bool .useDebugLogging = false
  | _ => True

end DriverCall

end EzRets
