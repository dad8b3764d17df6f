import EzRets.AbstractHandle

/-!
# EzRets.NotImplemented — the entry points without an implementation

The functions of NotImplemented.cpp do not go through `OdbcEntry`.  They raise one record on their
handle and fail; two of them pretend to succeed.
-/

namespace EzRets

/-- A function of NotImplemented.cpp on a handle with the records `mErrors`. -/
def notImplemented (message : String) (mErrors : List Error) : SqlReturn × List Error :=
  (.error, mErrors ++ [.of "HY000" message])

namespace NotImplemented

/-! ## On a statement -/

def sqlBindParameter := notImplemented "SQLBindParameter not implemented."
def sqlBulkOperations := notImplemented "SQLBulkOperations not implemented."
def sqlCloseCursor := notImplemented "SQLCloseCursor not implemented."
/-- The record names another function. -/
def sqlColumnPrivileges := notImplemented "SQLCancel not implemented."
def sqlDescribeParam := notImplemented "SQLDescribeParam not implemented."
def sqlForeignKeys := notImplemented "SQLForeignKeys not implemented."
def sqlGetCursorName := notImplemented "SQLGetCursorName not implemented"
def sqlParamData := notImplemented "SQLParamData not implemented"
def sqlProcedureColumns := notImplemented "SQLProcedureColumns not implemented"
def sqlProcedures := notImplemented "SQLProcedures not implemented"
def sqlPutData := notImplemented "SQLPutData not implemented"
def sqlSetCursorName := notImplemented "SQLSetCursorname not implemented"
def sqlSetParam := notImplemented "SQLSetParam not implemented"
def sqlSetPos := notImplemented "SQLSetPos not implemented"
def sqlSetScrollOptions := notImplemented "SQLSetScrollOption not implemented"
def sqlTablePrivileges := notImplemented "SQLTablePriviledges not implemented"

/-! ## On a descriptor -/

def sqlCopyDesc := notImplemented "SQLCopyDesc not implemented"
def sqlSetDescRec := notImplemented "SQLSetDescRec not implemented"

/-! ## On a connection -/

def sqlGetConnectOption := notImplemented "SQLGetConnectOption not implemented"
def sqlNativeSql := notImplemented "SQLNativeSql not implemented"
def sqlSetConnectAttr (mErrors : List Error) : SqlReturn × List Error := (.success, mErrors)
def sqlSetConnectOption (mErrors : List Error) : SqlReturn × List Error := (.success, mErrors)

/-! ## On an environment, or on any handle -/

def sqlTransact := notImplemented "SQLTransact not implemented"
def sqlEndTran := notImplemented "SQLEndTran not implemented."

end NotImplemented

/-- The stubs on a statement handle. -/
inductive StmtStub
  | bindParameter
  | bulkOperations
  | closeCursor
  | columnPrivileges
  | describeParam
  | foreignKeys
  | getCursorName
  | paramData
  | procedureColumns
  | procedures
  | putData
  | setCursorName
  | setParam
  | setPos
  | setScrollOptions
  | tablePrivileges
  deriving DecidableEq, Repr

def StmtStub.call : StmtStub → List Error → SqlReturn × List Error
  | bindParameter => NotImplemented.sqlBindParameter
  | bulkOperations => NotImplemented.sqlBulkOperations
  | closeCursor => NotImplemented.sqlCloseCursor
  | columnPrivileges => NotImplemented.sqlColumnPrivileges
  | describeParam => NotImplemented.sqlDescribeParam
  | foreignKeys => NotImplemented.sqlForeignKeys
  | getCursorName => NotImplemented.sqlGetCursorName
  | paramData => NotImplemented.sqlParamData
  | procedureColumns => NotImplemented.sqlProcedureColumns
  | procedures => NotImplemented.sqlProcedures
  | putData => NotImplemented.sqlPutData
  | setCursorName => NotImplemented.sqlSetCursorName
  | setParam => NotImplemented.sqlSetParam
  | setPos => NotImplemented.sqlSetPos
  | setScrollOptions => NotImplemented.sqlSetScrollOptions
  | tablePrivileges => NotImplemented.sqlTablePrivileges

/-- The stubs on a connection handle. -/
inductive DbcStub
  | getConnectOption
  | nativeSql
  | setConnectAttr
  | setConnectOption
  | endTran
  deriving DecidableEq, Repr

def DbcStub.call : DbcStub → List Error → SqlReturn × List Error
  | getConnectOption => NotImplemented.sqlGetConnectOption
  | nativeSql => NotImplemented.sqlNativeSql
  | setConnectAttr => NotImplemented.sqlSetConnectAttr
  | setConnectOption => NotImplemented.sqlSetConnectOption
  | endTran => NotImplemented.sqlEndTran

/-- The stubs on an environment handle. -/
inductive EnvStub
  | transact
  | endTran
  deriving DecidableEq, Repr

def EnvStub.call : EnvStub → List Error → SqlReturn × List Error
  | transact => NotImplemented.sqlTransact
  | endTran => NotImplemented.sqlEndTran

/-- The stubs on a descriptor handle; `SQLCopyDesc` raises its record on the source. -/
inductive DescStub
  | copyDesc
  | setDescRec
  deriving DecidableEq, Repr

def DescStub.call : DescStub → List Error → SqlReturn × List Error
  | copyDesc => NotImplemented.sqlCopyDesc
  | setDescRec => NotImplemented.sqlSetDescRec

/-! ## What a stub does to the records -/

theorem notImplemented_snd (message : String) (mErrors : List Error) :
    (notImplemented message mErrors).2 = mErrors ++ (notImplemented message []).2 := rfl

/-- A stub keeps the records of earlier calls in front of its own. -/
theorem StmtStub.call_snd (f : StmtStub) (mErrors : List Error) :
    (f.call mErrors).2 = mErrors ++ (f.call []).2 := by
  cases f <;> exact notImplemented_snd _ _

theorem DbcStub.call_snd (f : DbcStub) (mErrors : List Error) :
    (f.call mErrors).2 = mErrors ++ (f.call []).2 := by
  cases f with
  | setConnectAttr => exact (List.append_nil _).symm
  | setConnectOption => exact (List.append_nil _).symm
  | _ => exact notImplemented_snd _ _

theorem EnvStub.call_snd (f : EnvStub) (mErrors : List Error) :
    (f.call mErrors).2 = mErrors ++ (f.call []).2 := by
  cases f <;> exact notImplemented_snd _ _

theorem DescStub.call_snd (f : DescStub) (mErrors : List Error) :
    (f.call mErrors).2 = mErrors ++ (f.call []).2 := by
  cases f <;> exact notImplemented_snd _ _

end EzRets
