import EzRets.ConnectionInfo
import EzRets.Lib.FaultRun
import EzRets.NotImplemented

/-!
# EzRets.ConnectionCalls — the calls on a connection and their runs

All entry points of a connection handle as one type of calls, what one call does, and the handle
after a sequence of them.  Only the calls that connect and disconnect touch the session, the
metadata view and the settings.
-/

namespace EzRets

open AbstractHandle FaultRun

/-- What a call on a connection reads besides the handle; the ini store and the server may change
between the calls. -/
structure DbcContext where
  build : Build
  texts : InfoTexts
  ini : Ini
  answer : ServerAnswer

/-- The calls on a connection handle.  `SQLAllocHandle` and `SQLFreeHandle` with the type of a
statement or a connection are `SQLAllocStmt` and `SQLFreeConnect`; `freeStmt` reaches the connection
through one of its statements, and `transact` is `SQLTransact` with a connection. -/
inductive DbcCall
  | session (c : RetsDBC.ConnectCall)
  | allocStmt (statementHandle : Ptr) (allocated : Except Str Ptr)
  | allocUnsupported (handleType : UnsupportedType)
  | getInfo (infoType : Nat) (a : RetsDBC.InfoArgs)
  | getConnectAttr (attr : Int) (a : RetsDBC.InfoArgs)
  | freeConnect
  | freeUnsupported (handleType : UnsupportedType)
  | freeStmt (stmt : Ptr) (option : Nat)
  | transact
  | stub (f : DbcStub)
  | getDiagField (recNumber diagIdentifier : Int) (a : DiagFieldArgs)
  | getDiagRec (recNumber : Int) (a : DiagArgs)
  | error (a : DiagArgs)

namespace RetsDBC

/-- The outcome of a call as the application sees it. -/
structure Returned where
  dbc : RetsDBC
  result : SqlReturn
  writes : List Write

/-- A call that ends with `result` and stores nothing. -/
def returns (dbc : RetsDBC) (result : SqlReturn) : Returned := ⟨dbc, result, []⟩

def sqlAllocStmt (statementHandle : Ptr) (allocated : Except Str Ptr) (dbc : RetsDBC) : Returned :=
  let out := allocate allocated statementHandle dbc.mStatements
  ⟨{ dbc with mErrors := out.mErrors, mStatements := out.children }, out.result, out.writes⟩

/-- `SQLFreeStmt` as the connection sees it; `SQL_DROP` is 1. -/
def sqlFreeStmt (stmt : Ptr) (option : Nat) (dbc : RetsDBC) : Returned :=
  let dbc := dbc.clearErrors
  if option = 1 then { dbc with mStatements := dbc.mStatements.filter (· ≠ stmt) }.returns .success
  else dbc.returns .success

def canBeFreed (dbc : RetsDBC) : Bool := dbc.mRetsSession.isNone && dbc.mStatements.isEmpty

/-- The `diag` methods of a connection. -/
def diagMethods (dbc : RetsDBC) : DiagMethods :=
  { DiagMethods.base with
    connectionName := fun a => diagTextOptional a (dbc.mDataSource.str .name)
    serverName := fun a => diagTextOptional a (dbc.mDataSource.str .loginUrl) }

/-- A call of a `DbcOdbcEntry`. -/
def entered (out : DbcOut) : Returned :=
  let entry := odbcEntry out.dbc.mErrors out.result
  ⟨{ out.dbc with mErrors := entry.2 }, entry.1, out.writes⟩

/-- A call through its entry point.  The failed `SQLFreeConnect` clears the records of the
environment, not of the connection; a success ends the life of the handle and is no step of it. -/
def call (ctx : DbcContext) (c : DbcCall) (dbc : RetsDBC) : Except Fault Returned :=
  match c with
  | .session c => .ok (entered (dbc.uncaught ctx.build ctx.ini ctx.answer c))
  | .allocStmt statementHandle allocated => .ok (dbc.sqlAllocStmt statementHandle allocated)
  | .allocUnsupported _ => .ok (dbc.returns .error)
  | .getInfo infoType a => .ok (entered (dbc.sqlGetInfo ctx.texts infoType a))
  | .getConnectAttr attr a => (dbc.sqlGetConnectAttr attr a).map entered
  | .freeConnect => .ok (dbc.returns (if dbc.canBeFreed then .success else .error))
  | .freeUnsupported _ => .ok (dbc.returns .error)
  | .freeStmt stmt option => .ok (dbc.sqlFreeStmt stmt option)
  | .transact => .ok (dbc.returns .error)
  | .stub f =>
    let out := f.call dbc.mErrors
    .ok ({ dbc with mErrors := out.2 }.returns out.1)
  | .getDiagField recNumber diagIdentifier a =>
    (sqlGetDiagField dbc.diagMethods dbc.mErrors recNumber diagIdentifier a).map fun out =>
      ⟨dbc, (odbcEntry [] out.result).1, out.writes⟩
  | .getDiagRec recNumber a =>
    (sqlGetDiagRec dbc.mErrors recNumber a).map fun out => ⟨dbc, out.1, out.2⟩
  | .error a =>
    (sqlError dbc.mErrors a).map fun out => ⟨{ dbc with mErrors := out.2 }, out.1.1, out.1.2⟩

/-- The connection after a call. -/
def step (p : DbcContext × DbcCall) (dbc : RetsDBC) : Except Fault RetsDBC :=
  (dbc.call p.1 p.2).map Returned.dbc

/-- The connection after a sequence of calls, each with its own context. -/
def runCalls : List (DbcContext × DbcCall) → RetsDBC → Except Fault RetsDBC := FaultRun.run step

/-! ## What a call leaves alone -/

/-- The session, the view and the settings of two states are the same. -/
structure SameSession (dbc dbc' : RetsDBC) : Prop where
  session : dbc'.mRetsSession = dbc.mRetsSession
  view : dbc'.mMetadataView = dbc.mMetadataView
  settings : dbc'.mDataSource = dbc.mDataSource

theorem SameSession.rfl {dbc : RetsDBC} : SameSession dbc dbc := ⟨Eq.refl _, Eq.refl _, Eq.refl _⟩

theorem SameSession.of_clearErrors {dbc dbc' : RetsDBC} (h : SameSession dbc.clearErrors dbc') :
    SameSession dbc dbc' := ⟨h.session, h.view, h.settings⟩

variable {ctx : DbcContext} {dbc : RetsDBC} {r : Returned}

theorem sameSession_setString (length : Int → CValue) (a : InfoArgs) (value : Str) :
    SameSession dbc (dbc.setString length a value).dbc := by
  unfold setString
  dsimp only
  split_ifs <;> exact ⟨rfl, rfl, rfl⟩

theorem sameSession_sqlGetInfo (texts : InfoTexts) (infoType : Nat) (a : InfoArgs) :
    SameSession dbc (dbc.sqlGetInfo texts infoType a).dbc := by
  unfold sqlGetInfo
  dsimp only
  split
  · exact ⟨rfl, rfl, rfl⟩
  · exact ⟨rfl, rfl, rfl⟩
  · exact (sameSession_setString _ _ _).of_clearErrors
  · exact ⟨rfl, rfl, rfl⟩

theorem sameSession_sqlGetConnectAttr {attr : Int} {a : InfoArgs} {out : DbcOut}
    (h : dbc.sqlGetConnectAttr attr a = .ok out) : SameSession dbc out.dbc := by
  unfold sqlGetConnectAttr at h
  dsimp only at h
  split at h
  · rw [← Except.ok.inj h]
    exact (sameSession_setString _ _ _).of_clearErrors
  · split_ifs at h
    rw [← Except.ok.inj h]
    exact ⟨rfl, rfl, rfl⟩
  · split_ifs at h
    rw [← Except.ok.inj h]
    exact ⟨rfl, rfl, rfl⟩
  · rw [← Except.ok.inj h]
    exact ⟨rfl, rfl, rfl⟩

/-- **Only the calls that connect and disconnect touch the session.** -/
theorem call_sameSession {c : DbcCall} (h : dbc.call ctx c = .ok r) :
    SameSession dbc r.dbc ∨
      ∃ c', c = .session c' ∧ r = entered (dbc.uncaught ctx.build ctx.ini ctx.answer c') := by
  rcases c with c' | _ | _ | _ | _ | _ | _ | ⟨stmt, option⟩ | _ | _ | _ | _ | _
  · exact .inr ⟨c', rfl, (Except.ok.inj h).symm⟩
  all_goals left
  · rw [← Except.ok.inj h]
    exact ⟨rfl, rfl, rfl⟩
  · rw [← Except.ok.inj h]
    exact .rfl
  · rw [← Except.ok.inj h]
    obtain ⟨h1, h2, h3⟩ := @sameSession_sqlGetInfo dbc ctx.texts _ _
    exact ⟨h1, h2, h3⟩
  · obtain ⟨out, hout, rfl⟩ := map_eq_ok.mp h
    obtain ⟨h1, h2, h3⟩ := sameSession_sqlGetConnectAttr hout
    exact ⟨h1, h2, h3⟩
  · rw [← Except.ok.inj h]
    exact .rfl
  · rw [← Except.ok.inj h]
    exact .rfl
  · rw [← Except.ok.inj h]
    show SameSession dbc (dbc.sqlFreeStmt stmt option).dbc
    unfold sqlFreeStmt
    dsimp only
    split_ifs <;> exact ⟨rfl, rfl, rfl⟩
  · rw [← Except.ok.inj h]
    exact .rfl
  · rw [← Except.ok.inj h]
    exact ⟨rfl, rfl, rfl⟩
  · obtain ⟨out, -, rfl⟩ := map_eq_ok.mp h
    exact .rfl
  · obtain ⟨out, -, rfl⟩ := map_eq_ok.mp h
    exact .rfl
  · obtain ⟨out, -, rfl⟩ := map_eq_ok.mp h
    exact ⟨rfl, rfl, rfl⟩

end RetsDBC

end EzRets
