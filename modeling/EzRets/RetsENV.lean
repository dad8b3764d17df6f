import EzRets.NotImplemented

/-!
# EzRets.RetsENV — the environment handle

The environment allocates the connections, lists them and frees them.  Apart from that it only
keeps the ODBC version that the application has asked for.
-/

namespace EzRets

open AbstractHandle

/-- `RetsENV`. -/
structure RetsENV where
  mErrors : List Error
  mOdbcVersion : Int
  mDatabaseConnections : List Ptr

/-- The calls on an environment handle.  `SQLAllocHandle` and `SQLFreeHandle` with the type of a
connection or an environment are `SQLAllocConnect` and `SQLFreeEnv`; `freeConnect` reaches the
environment through one of its connections. -/
inductive EnvCall
  | allocConnect (connectionHandle : Ptr) (allocated : Except Str Ptr)
  | allocUnsupported (handleType : UnsupportedType)
  | getEnvAttr (attr : Int) (value : Ptr)
  | setEnvAttr (attr : Int) (value : Nat)
  | freeEnv
  | freeUnsupported (handleType : UnsupportedType)
  | freeConnect (dbc : Ptr) (canBeFreed : Bool)
  | stub (f : EnvStub)
  | getDiagField (recNumber diagIdentifier : Int) (a : DiagFieldArgs)
  | getDiagRec (recNumber : Int) (a : DiagArgs)
  | error (a : DiagArgs)

namespace RetsENV

/-- The outcome of a call as the application sees it. -/
structure Returned where
  env : RetsENV
  result : SqlReturn
  writes : List Write

/-- The constructor. -/
def new : RetsENV := ⟨[], 3, []⟩

def clearErrors (env : RetsENV) : RetsENV := { env with mErrors := [] }

/-- A call that ends with `result` and stores nothing. -/
def returns (env : RetsENV) (result : SqlReturn) : Returned := ⟨env, result, []⟩

def canBeFreed (env : RetsENV) : Bool := env.mDatabaseConnections.isEmpty

def sqlAllocConnect (connectionHandle : Ptr) (allocated : Except Str Ptr) (env : RetsENV) :
    Returned :=
  let out := allocate allocated connectionHandle env.mDatabaseConnections
  ⟨{ env with mErrors := out.mErrors, mDatabaseConnections := out.children }, out.result,
    out.writes⟩

/-- `SQLGetEnvAttr`; the value is stored unchecked. -/
def sqlGetEnvAttr (attr : Int) (value : Ptr) (env : RetsENV) : Except Fault Returned :=
  let env := env.clearErrors
  let stored (n : Int) : Except Fault Returned :=
    if value = 0 then .error .nullOutput else .ok ⟨env, .success, [⟨value, .integer n⟩]⟩
  match attr with
  -- SQL_ATTR_CONNECTION_POOLING, SQL_ATTR_ODBC_VERSION, SQL_ATTR_OUTPUT_NTS
  | 201 => stored 0
  | 200 => stored env.mOdbcVersion
  | 10001 => stored 1
  | _ => .ok (env.returns .error)

/-- `SQLSetEnvAttr`; `value` is the pointer-sized argument. -/
def sqlSetEnvAttr (attr : Int) (value : Nat) (env : RetsENV) : Returned :=
  let env := env.clearErrors
  match attr with
  | 200 => { env with mOdbcVersion := toSqlInteger value }.returns .success
  -- any other value of SQL_ATTR_OUTPUT_NTS falls through to the default case
  | 10001 => env.returns (if toSqlInteger value = 1 then .success else .error)
  | _ => env.returns .error

/-- `SQLFreeConnect` for the connection `dbc`. -/
def sqlFreeConnect (dbc : Ptr) (canBeFreed : Bool) (env : RetsENV) : Returned :=
  let env := env.clearErrors
  if !canBeFreed then env.returns .error
  else { env with mDatabaseConnections := env.mDatabaseConnections.filter (· ≠ dbc) }.returns .success

/-- `rets_SQLFreeEnv`.  A success ends the life of the handle and is no step of it. -/
def sqlFreeEnv (env : RetsENV) : Returned :=
  env.returns (if env.canBeFreed then .success else .error)

/-- A call through its entry point.  No exception leaves a function of the environment, and those
of the diagnostic functions are not recorded. -/
def call (c : EnvCall) (env : RetsENV) : Except Fault Returned :=
  match c with
  | .allocConnect connectionHandle allocated => .ok (env.sqlAllocConnect connectionHandle allocated)
  | .allocUnsupported _ => .ok (env.returns .error)
  | .getEnvAttr attr value => env.sqlGetEnvAttr attr value
  | .setEnvAttr attr value => .ok (env.sqlSetEnvAttr attr value)
  | .freeEnv => .ok env.sqlFreeEnv
  | .freeUnsupported _ => .ok (env.returns .error)
  | .freeConnect dbc canBeFreed => .ok (env.sqlFreeConnect dbc canBeFreed)
  | .stub f =>
    let out := f.call env.mErrors
    .ok ({ env with mErrors := out.2 }.returns out.1)
  | .getDiagField recNumber diagIdentifier a =>
    (sqlGetDiagField DiagMethods.base env.mErrors recNumber diagIdentifier a).map fun out =>
      ⟨env, (odbcEntry [] out.result).1, out.writes⟩
  | .getDiagRec recNumber a =>
    (sqlGetDiagRec env.mErrors recNumber a).map fun out => ⟨env, out.1, out.2⟩
  | .error a =>
    (sqlError env.mErrors a).map fun out => ⟨{ env with mErrors := out.2 }, out.1.1, out.1.2⟩

/-- The environment after a call. -/
def step (c : EnvCall) (env : RetsENV) : Except Fault RetsENV := (env.call c).map Returned.env

end RetsENV

end EzRets
