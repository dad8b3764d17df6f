import EzRets.AbstractHandle
import EzRets.ConnectionString
import EzRets.MetadataView

/-!
# EzRets.RetsDBC — the connection handle

`RetsDBC` logs in with the settings of its `DataSource` and owns the session and the metadata
view.  What librets and the server do during a call is an input of the call.
-/

namespace EzRets

open DataSource

/-- What librets answers during one call. -/
structure ServerAnswer where
  login : Except Exn Bool
  getMetadata : Except Exn RetsMetadata
  logout : Except Exn Unit

/-- `RetsDBC`; an open session is known by what it was created with. -/
structure RetsDBC where
  mErrors : List Error
  mDataSource : DataSource
  mRetsSession : Option SessionConfig
  mMetadataView : Option MetadataView
  mStatements : List Ptr

/-- What a call of `RetsLogin` sends to the server, and the flags in force with it. -/
structure LoginAttempt where
  session : SessionConfig
  username : Str
  password : Str
  flags : BoolSetting → Bool

/-- The outcome of a call on a connection handle. -/
structure DbcOut where
  dbc : RetsDBC
  result : Except Exn SqlReturn
  writes : List Write := []
  attempt : Option LoginAttempt := none

/-- The catch clause for `std::exception`. -/
def Exn.isStd : Exn → Bool
  | .unknown => false
  | _ => true

namespace RetsDBC

/-- The constructor. -/
def new : RetsDBC := ⟨[], DataSource.init, none, none, []⟩

def clearErrors (dbc : RetsDBC) : RetsDBC := { dbc with mErrors := [] }

def addError (dbc : RetsDBC) (sqlstate : String) (message : Str) : RetsDBC :=
  { dbc with mErrors := dbc.mErrors ++ [⟨sqlstate.toList, message⟩] }

/-- What `login` sends. -/
def loginAttempt (build : Build) (d : DataSource) : LoginAttempt where
  session := d.createRetsSession build
  username := d.str .username
  password := d.str .password
  flags := d.bool

/-- The catch clause of `login`. -/
def loginFailed (dbc : RetsDBC) (e : Exn) : RetsDBC × Except Exn Bool :=
  if e.isStd then
    ({ dbc.addError "08001" ("Unable to connect: ".toList ++ e.what) with
        mRetsSession := none, mMetadataView := none }, .ok false)
  else (dbc, .error e)

def login (build : Build) (answer : ServerAnswer) (dbc : RetsDBC) : RetsDBC × Except Exn Bool :=
  let session := dbc.mDataSource.createRetsSession build
  match answer.login with
  | .error e => dbc.loginFailed e
  | .ok false => (dbc, .ok false)
  | .ok true =>
    let dbc := { dbc with mRetsSession := some session }
    match answer.getMetadata with
    | .error e => dbc.loginFailed e
    | .ok metadata =>
      ({ dbc with mMetadataView := some ⟨dbc.mDataSource.bool .standardNames, metadata⟩ },
        .ok true)

/-- The settings that `SQLConnect` logs in with. -/
def connectSettings (build : Build) (ini : Ini) (dataSource : Str)
    (userName authentication : Option Str) (d : DataSource) : DataSource :=
  let d := (d.setStr .name dataSource).mergeFromIni build ini
  let d := match userName with
    | some user => d.setStr .username user
    | none => d
  match authentication with
  | some auth => d.setStr .password auth
  | none => d

/-- `SQLConnect`; a null `UserName` or `Authentication` is `none`. -/
def sqlConnect (build : Build) (ini : Ini) (answer : ServerAnswer) (dataSource : Str)
    (userName authentication : Option Str) (dbc : RetsDBC) : DbcOut :=
  let dbc := dbc.clearErrors
  if dbc.mRetsSession.isSome then
    { dbc := dbc.addError "08002" "Connection already open".toList, result := .ok .error }
  else
    let d := connectSettings build ini dataSource userName authentication dbc.mDataSource
    let (dbc, success) := login build answer { dbc with mDataSource := d }
    let attempt := some (loginAttempt build d)
    match success with
    | .error e => { dbc := dbc, result := .error e, attempt := attempt }
    | .ok false =>
      { dbc := dbc.addError "08001" "Could not log into server.".toList, result := .ok .error
        attempt := attempt }
    | .ok true => { dbc := dbc, result := .ok .success, attempt := attempt }

def sqlDisconnect (answer : ServerAnswer) (dbc : RetsDBC) : DbcOut :=
  let dbc := dbc.clearErrors
  if dbc.mRetsSession.isNone then { dbc := dbc, result := .ok .success }
  else if !dbc.mStatements.isEmpty then
    { dbc := dbc.addError "HY000" "STMTs still open".toList, result := .ok .error }
  else
    match answer.logout with
    | .error e => { dbc := dbc, result := .error e }
    | .ok () =>
      { dbc := { dbc with mRetsSession := none, mMetadataView := none }, result := .ok .success }

/-- The output arguments of `SQLDriverConnect`. -/
structure DriverConnectArgs where
  outConnectionString : Ptr
  bufferLength : Int
  outStringLengthPtr : Ptr
  deriving DecidableEq, Repr

/-- `SetStringLength`. -/
def setStringLength (stringLength : Ptr) (length : Int) : List Write :=
  if stringLength ≠ 0 then [⟨stringLength, .smallint length⟩] else []

/-- `SQLDriverConnect`; every `DriverCompletion` is treated alike. -/
def sqlDriverConnect (build : Build) (ini : Ini) (answer : ServerAnswer)
    (inConnectionString : Str) (args : DriverConnectArgs) (dbc : RetsDBC) : DbcOut :=
  let dbc := dbc.clearErrors
  let d := (dbc.mDataSource.setFromOdbcConnectionString inConnectionString).mergeFromIni build ini
  let dbc := { dbc with mDataSource := d }
  if !d.isComplete then { dbc := dbc, result := .ok .noData }
  else
    let (dbc, success) := login build answer dbc
    let attempt := some (loginAttempt build d)
    match success with
    | .error e => { dbc := dbc, result := .error e, attempt := attempt }
    | .ok false =>
      { dbc := dbc.addError "08001" "Could not log into server.".toList, result := .ok .error
        attempt := attempt }
    | .ok true =>
      let conString := d.getConnectionString
      let copied := copyString conString args.outConnectionString (toSize args.bufferLength)
      let writes := copied.1 ++ setStringLength args.outStringLengthPtr (toSqlSmallint copied.2)
      if conString.length > copied.2 then
        let dbc := dbc.addError "01004" "Connection string longer than buffer".toList
        if conString.length < 2 ^ 15 then
          { dbc := dbc, result := .ok .successWithInfo, attempt := attempt
            writes := writes ++ setStringLength args.outStringLengthPtr conString.length }
        else
          -- `numeric_cast<SQLSMALLINT>` throws, the session stays open
          { dbc := dbc, result := .error .badNumericCast, attempt := attempt, writes := writes }
      else { dbc := dbc, result := .ok .success, attempt := attempt, writes := writes }

/-! ## Histories -/

/-- The calls that open and close a session. -/
inductive ConnectCall
  | connect (dataSource : Str) (userName authentication : Option Str)
  | driverConnect (inConnectionString : Str) (args : DriverConnectArgs)
  | disconnect

/-- One call without its entry wrapper. -/
def uncaught (build : Build) (ini : Ini) (answer : ServerAnswer) (dbc : RetsDBC) :
    ConnectCall → DbcOut
  | .connect dataSource userName authentication =>
    dbc.sqlConnect build ini answer dataSource userName authentication
  | .driverConnect inConnectionString args =>
    dbc.sqlDriverConnect build ini answer inConnectionString args
  | .disconnect => dbc.sqlDisconnect answer

/-- The handle after a call through its entry wrapper. -/
def after (build : Build) (ini : Ini) (answer : ServerAnswer) (dbc : RetsDBC)
    (call : ConnectCall) : RetsDBC :=
  let out := dbc.uncaught build ini answer call
  { out.dbc with mErrors := (odbcEntry out.dbc.mErrors out.result).2 }

/-- The handle after a history of calls; the ini store and the server may change between them. -/
def run (build : Build) : List (Ini × ServerAnswer × ConnectCall) → RetsDBC → RetsDBC
  | [], dbc => dbc
  | (ini, answer, call) :: history, dbc => run build history (dbc.after build ini answer call)

end RetsDBC

end EzRets
