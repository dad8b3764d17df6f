import EzRets.ConnectionCalls
import EzRets.RetsENV
import EzRets.StatementCalls

/-!
# EzRets.HandleCalls — the four classes of handles

All entry points that reach an environment, a connection, a statement or a descriptor, as one step
for each class, with the records that the handle keeps.
-/

namespace EzRets

open AbstractHandle FaultRun

/-! ## Statements and descriptors -/

/-- The entry points that reach a statement: its own calls, those of NotImplemented.cpp, and
`SQLAllocHandle` and `SQLFreeHandle` with a type that they do not know. -/
inductive StmtEntry
  | call (c : StmtCall)
  | stub (f : StmtStub)
  | allocUnsupported (handleType : UnsupportedType)
  | freeUnsupported (handleType : UnsupportedType)

def RetsSTMT.enter (ctx : CallContext) (stmt : RetsSTMT) : StmtEntry → Except Fault RetsSTMT.Returned
  | .call c => stmt.call ctx c
  | .stub f =>
    let out := f.call stmt.mErrors
    .ok ⟨{ stmt with mErrors := out.2 }, out.1, []⟩
  | .allocUnsupported _ => .ok ⟨stmt, .error, []⟩
  | .freeUnsupported _ => .ok ⟨stmt, .error, []⟩

/-- The entry points that reach a descriptor. -/
inductive DescCall
  | setDescField (recNumber fieldIdentifier : Int) (value : Ptr)
  | getDescField
  | stub (f : DescStub)
  | allocUnsupported (handleType : UnsupportedType)
  | freeUnsupported (handleType : UnsupportedType)
  | getDiagField (recNumber diagIdentifier : Int) (a : DiagFieldArgs)
  | getDiagRec (recNumber : Int) (a : DiagArgs)

namespace BaseDesc

/-- The outcome of a call as the application sees it. -/
structure Returned where
  desc : BaseDesc
  result : SqlReturn
  writes : List Write

def clearErrors (desc : BaseDesc) : BaseDesc := { desc with mErrors := [] }

/-- A call through its entry point; no exception leaves a function of a descriptor. -/
def call (desc : BaseDesc) : DescCall → Except Fault Returned
  | .setDescField recNumber fieldIdentifier value =>
    let out := desc.sqlSetDescField recNumber fieldIdentifier value
    .ok ⟨out.1, out.2, []⟩
  | .getDescField => .ok ⟨desc.sqlGetDescField.1, desc.sqlGetDescField.2, []⟩
  | .stub f =>
    let out := f.call desc.mErrors
    .ok ⟨{ desc with mErrors := out.2 }, out.1, []⟩
  | .allocUnsupported _ => .ok ⟨desc, .error, []⟩
  | .freeUnsupported _ => .ok ⟨desc, .error, []⟩
  | .getDiagField recNumber diagIdentifier a =>
    (sqlGetDiagField DiagMethods.base desc.mErrors recNumber diagIdentifier a).map fun out =>
      ⟨desc, (odbcEntry [] out.result).1, out.writes⟩
  | .getDiagRec recNumber a =>
    (sqlGetDiagRec desc.mErrors recNumber a).map fun out => ⟨desc, out.1, out.2⟩

end BaseDesc

/-! ## The four classes -/

/-- The classes of handles. -/
inductive HandleKind
  | env
  | dbc
  | stmt
  | desc
  deriving DecidableEq, Repr

namespace HandleKind

def State : HandleKind → Type
  | env => RetsENV
  | dbc => RetsDBC
  | stmt => RetsSTMT
  | desc => BaseDesc

/-- A call with what it reads besides the handle. -/
def Call : HandleKind → Type
  | env => EnvCall
  | dbc => DbcContext × DbcCall
  | stmt => CallContext × StmtEntry
  | desc => DescCall

/-- A newly allocated handle. -/
def new : (h : HandleKind) → h.State
  | env => RetsENV.new
  | dbc => RetsDBC.new
  | stmt => RetsSTMT.new
  | desc => BaseDesc.new

/-- The handle after a call and the return code. -/
def call : (h : HandleKind) → h.Call → h.State → Except Fault (h.State × SqlReturn)
  | env, c, s => (RetsENV.call c s).map fun r => (r.env, r.result)
  | dbc, c, s => (RetsDBC.call c.1 c.2 s).map fun r => (r.dbc, r.result)
  | stmt, c, s => (RetsSTMT.enter c.1 s c.2).map fun r => (r.stmt, r.result)
  | desc, c, s => (BaseDesc.call s c).map fun r => (r.desc, r.result)

/-- The handle after a call. -/
def step (h : HandleKind) (c : h.Call) (s : h.State) : Except Fault h.State :=
  (h.call c s).map Prod.fst

/-- The diagnostic records of the handle. -/
def mErrors : (h : HandleKind) → h.State → List Error
  | env => RetsENV.mErrors
  | dbc => RetsDBC.mErrors
  | stmt => RetsSTMT.mErrors
  | desc => BaseDesc.mErrors

def clearErrors : (h : HandleKind) → h.State → h.State
  | env => RetsENV.clearErrors
  | dbc => RetsDBC.clearErrors
  | stmt => RetsSTMT.clearErrors
  | desc => BaseDesc.clearErrors

end HandleKind

/-! ## The calls that count for a handle -/

/-- The call is made on this environment, reads no records and does not end its life. -/
def EnvCall.counts (c : EnvCall) (env : RetsENV) : Bool :=
  match c with
  | .getDiagField _ _ _ | .getDiagRec _ _ | .error _ => false
  | .freeConnect _ _ => false
  | .freeEnv => !env.canBeFreed
  | _ => true

/-- The same for a connection. -/
def DbcCall.counts (c : DbcCall) (dbc : RetsDBC) : Bool :=
  match c with
  | .getDiagField _ _ _ | .getDiagRec _ _ | .error _ => false
  | .freeStmt _ _ => false
  | .freeConnect => !dbc.canBeFreed
  | _ => true

/-- The same for a statement; `SQL_DROP` is 1. -/
def StmtEntry.counts : StmtEntry → Bool
  | .call (.getDiagField _ _ _) | .call (.getDiagRec _ _) | .call (.error _) => false
  | .call (.setDescField _ _ _ _) => false
  | .call (.freeStmt option) => option ≠ 1
  | _ => true

/-- The same for a descriptor. -/
def DescCall.counts : DescCall → Bool
  | .getDiagField _ _ _ | .getDiagRec _ _ => false
  | _ => true

/-- The call is made on this handle, reads no records and does not end its life. -/
def HandleKind.Counts : (h : HandleKind) → h.Call → h.State → Prop
  | .env, c, s => EnvCall.counts c s = true
  | .dbc, c, s => DbcCall.counts c.2 s = true
  | .stmt, c, _ => StmtEntry.counts c.2 = true
  | .desc, c, _ => DescCall.counts c = true

end EzRets
