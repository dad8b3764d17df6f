import EzRets.RetsDBC

/-!
# EzRets.ConnectionInfo — what a connection tells about itself

`SQLGetInfo` and `SQLGetConnectAttr` answer from constants and from the settings of the data source.
Their helpers store a number or copy a text; a text that does not fit is cut and announced with
01004.
-/

namespace EzRets

open DataSource

/-- What the build and the ODBC headers fix: `formatVersionLong(EZRETS_VERSION)`,
`SQL_SPEC_STRING` and, where the headers have it,
`SQL_CURSOR_ROLLBACK_SQL_CURSOR_SENSITIVITY`. -/
structure InfoTexts where
  versionLong : Str
  specString : Str
  cursorSensitivity : Option Nat

/-- The value of an information type or of a connection attribute. -/
inductive InfoValue
  | smallInt (value : Nat)
  | int (value : Nat)
  | string (value : Str)
  deriving DecidableEq, Repr

namespace RetsDBC

/-! ## The information types, each line with its names without `SQL_` -/

/-- `setSmallInt(0)`. -/
def smallIntZeros : List Nat :=
  -- ACTIVE_ENVIRONMENTS, CATALOG_LOCATION, MAX_COLUMNS_IN_GROUP_BY, _ORDER_BY, _SELECT, _TABLE
  [116, 114, 97, 99, 100, 101,
    -- MAX_CONCURRENT_ACTIVITIES, MAX_PROCEDURE_NAME_LEN, MAX_SCHEMA_NAME_LEN, GROUP_BY
    1, 33, 32, 88,
    -- MAX_CATALOG_NAME_LEN, MAX_COLUMN_NAME_LEN, MAX_IDENTIFIER_LEN, MAX_TABLE_NAME_LEN
    34, 30, 10005, 35,
    -- MAX_COLUMNS_IN_INDEX, MAX_CURSOR_NAME_LEN, MAX_INDEX_SIZE, MAX_STATEMENT_LEN
    98, 31, 102, 105,
    -- MAX_USER_NAME_LEN
    107]

/-- `setInt(0)`. -/
def intZeros : List Nat :=
  -- AGGREGATE_FUNCTIONS, ALTER_DOMAIN, ALTER_TABLE, BATCH_ROW_COUNT, BATCH_SUPPORT
  [169, 117, 86, 120, 121,
    -- BOOKMARK_PERSISTENCE, CATALOG_USAGE
    82, 92,
    -- CONVERT_BIGINT, _BIT, _CHAR, _DATE, _DECIMAL, _DOUBLE, _FLOAT, _INTEGER, _LONGVARCHAR
    53, 55, 56, 57, 58, 59, 60, 61, 62,
    -- CONVERT_NUMERIC, _REAL, _SMALLINT, _TIME, _TIMESTAMP, _TINYINT, _VARCHAR, _BINARY
    63, 64, 65, 66, 67, 68, 70, 54,
    -- CONVERT_VARBINARY, _LONGVARBINARY, _INTERVAL_DAY_TIME, _INTERVAL_YEAR_MONTH
    69, 71, 123, 124,
    -- CONVERT_FUNCTIONS, _WCHAR, _WVARCHAR, _WLONGVARCHAR
    48, 122, 126, 125,
    -- CREATE_ASSERTION, _CHARACTER_SET, _COLLATION, _DOMAIN, _SCHEMA, _TRANSLATION, _VIEW
    127, 128, 129, 130, 131, 133, 134,
    -- DROP_ASSERTION, _CHARACTER_SET, _COLLATION, _DOMAIN, _SCHEMA, _TRANSLATION, _VIEW
    136, 137, 138, 139, 140, 142, 143,
    -- KEYSET_CURSOR_ATTRIBUTES1, _ATTRIBUTES2, INFO_SCHEMA_VIEWS, SCHEMA_USAGE
    150, 151, 149, 91,
    -- SQL92_FOREIGN_KEY_DELETE_RULE, _UPDATE_RULE, _NUMERIC_VALUE_FUNCTIONS, _PREDICATES
    156, 157, 159, 160,
    -- SQL92_VALUE_EXPRESSIONS, SUBQUERIES, TIMEDATE_ADD_INTERVALS, TIMEDATE_DIFF_INTERVALS, UNION
    165, 95, 109, 110, 96,
    -- LOCK_TYPES, MAX_ASYNC_CONCURRENT_STATEMENTS, MAX_BINARY_LITERAL_LEN, MAX_CHAR_LITERAL_LEN
    78, 10022, 112, 108,
    -- MAX_DRIVER_CONNECTIONS, MAX_ROW_SIZE, CREATE_TABLE, DATETIME_LITERALS, DDL_INDEX, DROP_TABLE
    0, 104, 132, 119, 170, 141,
    -- INSERT_STATEMENT, NUMERIC_FUNCTIONS, OJ_CAPABILITIES, POS_OPERATIONS, POSITIONED_STATEMENTS
    172, 49, 115, 79, 80,
    -- STRING_FUNCTIONS, TIMEDATE_FUNCTIONS, SQL92_DATETIME_FUNCTIONS, SQL92_GRANT
    50, 52, 155, 158,
    -- SQL92_RELATIONAL_JOIN_OPERATORS, SQL92_REVOKE, SQL92_STRING_FUNCTIONS
    161, 162, 164,
    -- SYSTEM_FUNCTIONS, STATIC_SENSITIVITY, TXN_ISOLATION_OPTION
    51, 83, 72,
    -- STATIC_CURSOR_ATTRIBUTES1, 2, FORWARD_ONLY_CURSOR_ATTRIBUTES1, 2,
    -- DYNAMIC_CURSOR_ATTRIBUTES1, 2
    167, 168, 146, 147, 144, 145]

/-- `setString("Y")`: ACCESSIBLE_TABLES, ACCESSIBLE_PROCEDURES, DATA_SOURCE_READ_ONLY. -/
def yesStrings : List Nat := [19, 20, 25]

/-- `setString("N")`. -/
def noStrings : List Nat :=
  -- LIKE_ESCAPE_CLAUSE, CATALOG_NAME, COLUMN_ALIAS, EXPRESSIONS_IN_ORDERBY
  [113, 10003, 87, 27,
    -- MAX_ROW_SIZE_INCLUDES_LONG, MULT_RESULT_SETS, MULTIPLE_ACTIVE_TXN, OUTER_JOINS
    103, 36, 37, 38,
    -- ORDER_BY_COLUMNS_IN_SELECT, DESCRIBE_PARAMETER, INTEGRITY, NEED_LONG_DATA_LEN
    90, 10002, 73, 111,
    -- PROCEDURES, ROW_UPDATES
    21, 11]

/-- `setString("")`. -/
def emptyStrings : List Nat :=
  -- CATALOG_NAME_SEPARATOR, COLLATION_SEQ, KEYWORDS, PROCEDURE_TERM, SCHEMA_TERM
  [41, 10004, 89, 40, 39,
    -- SEARCH_PATTERN_ESCAPE, SPECIAL_CHARACTERS
    14, 94]

/-- The answer of `SQLGetInfo`; `none` for the types that it does not know. -/
def infoValue (texts : InfoTexts) (d : DataSource) (infoType : Nat) : Option InfoValue :=
  if infoType ∈ smallIntZeros then some (.smallInt 0)
  else if infoType ∈ intZeros then some (.int 0)
  else if infoType ∈ yesStrings then some (.string "Y".toList)
  else if infoType ∈ noStrings then some (.string "N".toList)
  else if infoType ∈ emptyStrings then some (.string [])
  -- SQL_INSENSITIVE
  else if texts.cursorSensitivity = some infoType then some (.int 1)
  else
    match infoType with
    -- DEFAULT_TXN_ISOLATION, ASYNC_MODE
    | 26 => some (.int 1)
    | 10021 => some (.int 0)
    -- CATALOG_TERM, CONCAT_NULL_BEHAVIOR, CORRELATION_NAME
    | 42 => some (.string "catalog".toList)
    | 22 => some (.smallInt 0)
    | 74 => some (.smallInt 2)
    -- CURSOR_COMMIT_BEHAVIOR, CURSOR_ROLLBACK_BEHAVIOR
    | 23 | 24 => some (.smallInt 0)
    -- DATA_SOURCE_NAME, DATABASE_NAME, DBMS_NAME
    | 2 => some (.string (d.str .name))
    | 16 => some (.string (d.str .loginUrl))
    | 17 => some (.string "RETS".toList)
    -- DBMS_VER, DRIVER_VER, DRIVER_NAME, DRIVER_ODBC_VER
    | 18 | 7 => some (.string texts.versionLong)
    | 6 => some (.string "ezRETS ODBC Driver".toList)
    | 77 => some (.string texts.specString)
    -- FILE_USAGE, GETDATA_EXTENSIONS, IDENTIFIER_CASE, IDENTIFIER_QUOTE_CHAR
    | 84 => some (.smallInt 0)
    | 81 => some (.int 11)
    | 28 => some (.smallInt 3)
    | 29 => some (.string "\"".toList)
    -- INDEX_KEYWORDS, MAX_TABLES_IN_SELECT, NON_NULLABLE_COLUMNS, NULL_COLLATION
    | 148 => some (.int 0)
    | 106 => some (.smallInt 1)
    | 75 => some (.smallInt 0)
    | 85 => some (.smallInt 1)
    -- ODBC_API_CONFORMANCE, ODBC_SQL_CONFORMANCE, ODBC_INTERFACE_CONFORMANCE
    | 9 | 15 => some (.smallInt 1)
    | 152 => some (.int 1)
    -- PARAM_ARRAY_ROW_COUNTS, PARAM_ARRAY_SELECTS, QUOTED_IDENTIFIER_CASE
    | 153 => some (.int 2)
    | 154 => some (.int 3)
    | 93 => some (.smallInt 3)
    -- SCROLL_OPTIONS, SCROLL_CONCURRENCY, SERVER_NAME, SQL_CONFORMANCE
    | 44 => some (.int 17)
    | 43 => some (.int 1)
    | 13 => some (.string (d.str .loginUrl))
    | 118 => some (.int 1)
    -- SQL92_ROW_VALUE_CONSTRUCTOR, STANDARD_CLI_CONFORMANCE, TABLE_TERM, TXN_CAPABLE
    | 163 => some (.int 6)
    | 166 => some (.int 1)
    | 45 => some (.string "table".toList)
    | 46 => some (.smallInt 0)
    -- USER_NAME, XOPEN_CLI_YEAR, FETCH_DIRECTION, ODBC_SAG_CLI_CONFORMANCE
    | 47 => some (.string (d.str .username))
    | 10000 => some (.string "1992".toList)
    | 8 => some (.int 1)
    | 12 => some (.smallInt 1)
    | _ => none

/-- The output arguments of `SQLGetInfo` and `SQLGetConnectAttr`. -/
structure InfoArgs where
  value : Ptr
  bufferLength : Int
  stringLength : Ptr
  deriving DecidableEq, Repr

/-- `setString` of `GetInfoHelper` and of `GetConnectAttrHelper`, whose lengths are stored as
`length` says. -/
def setString (dbc : RetsDBC) (length : Int → CValue) (a : InfoArgs) (value : Str) : DbcOut :=
  let copied := if a.value ≠ 0 then copyString value a.value (toSize a.bufferLength) else ([], 0)
  let stored (n : Nat) : List Write :=
    if a.stringLength ≠ 0 then [⟨a.stringLength, length (toSqlSmallint n)⟩] else []
  if value.length > copied.2 then
    { dbc := dbc.addError "01004" "Resultant value larger than buffer passed in.".toList
      result := .ok .successWithInfo
      writes := copied.1 ++ stored value.length }
  else { dbc := dbc, result := .ok .success, writes := copied.1 ++ stored copied.2 }

/-- A number through the helper of `SQLGetInfo`, with its size in bytes. -/
def setInfoNumber (dbc : RetsDBC) (a : InfoArgs) (value : CValue) (size : Int) : DbcOut where
  dbc := dbc
  result := .ok .success
  writes := (if a.value ≠ 0 then [⟨a.value, value⟩] else []) ++ setStringLength a.stringLength size

/-- `SQLGetInfo`. -/
def sqlGetInfo (texts : InfoTexts) (infoType : Nat) (a : InfoArgs) (dbc : RetsDBC) : DbcOut :=
  let dbc := dbc.clearErrors
  match infoValue texts dbc.mDataSource infoType with
  | some (.smallInt value) => dbc.setInfoNumber a (.usmallint value) 2
  | some (.int value) => dbc.setInfoNumber a (.uinteger value) 4
  | some (.string value) => dbc.setString .smallint a value
  | none => { dbc := dbc, result := .ok .error }

/-- The value of a connection attribute; `none` for the attributes that are not known. -/
def connectAttr (dbc : RetsDBC) (attr : Int) : Option InfoValue :=
  match attr with
  -- ACCESS_MODE, AUTO_IPD, AUTOCOMMIT
  | 101 => some (.int 1)
  | 10001 => some (.int 0)
  | 102 => some (.int 1)
  -- CONNECTION_DEAD, CONNECTION_TIMEOUT, CURRENT_CATALOG, LOGIN_TIMEOUT
  | 1209 => some (.int (if dbc.mRetsSession.isSome then 0 else 1))
  | 113 => some (.int 0)
  | 109 => some (.string [])
  | 103 => some (.int 0)
  -- ODBC_CURSORS, ASYNC_ENABLE, METADATA_ID, TXN_ISOLATION
  | 110 => some (.int 1)
  | 4 => some (.int 0)
  | 10014 => some (.int 0)
  | 108 => some (.int 1)
  | _ => none

/-- `SQLGetConnectAttr`, which drops the return code of `setString`.  A number is stored through
both pointers unchecked. -/
def sqlGetConnectAttr (attr : Int) (a : InfoArgs) (dbc : RetsDBC) : Except Fault DbcOut :=
  let dbc := dbc.clearErrors
  match dbc.connectAttr attr with
  | some (.string value) => .ok { dbc.setString .integer a value with result := .ok .success }
  | some (.int value) | some (.smallInt value) =>
    if a.value = 0 ∨ a.stringLength = 0 then .error .nullOutput
    else
      .ok { dbc := dbc, result := .ok .success
            writes := [⟨a.value, .uinteger value⟩, ⟨a.stringLength, .integer 4⟩] }
  | none =>
    .ok { dbc := dbc.addError "HY092" "Invalid attribute/option identifier".toList
          result := .ok .error }

end RetsDBC

end EzRets
