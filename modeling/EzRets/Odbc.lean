import Mathlib.Data.List.Basic
import Mathlib.Tactic.NormNum
import Mathlib.Tactic.SplitIfs

/-!
# EzRets.Odbc — return codes, type codes and C++ exceptions of the driver

The part of `sql.h`, `sqlext.h` and `sqltypes.h` that the driver's functions read, the C++
exceptions they throw, and the integer conversions of the ABI: that of 64-bit Windows, with 64-bit
`SQLLEN` and `size_t`, 32-bit `SQLINTEGER` and `ULONG` and 16-bit `SQLSMALLINT`.

`std::string` is a list of characters, one `Char` for each C++ `char`.
-/

namespace EzRets

/-- `std::string`. -/
abbrev Str := List Char

/-- `SQLRETURN`.  `SQL_NO_DATA_FOUND` is the ODBC 2 name of `SQL_NO_DATA`. -/
inductive SqlReturn
  | success
  | successWithInfo
  | error
  | noData
  | invalidHandle
  deriving DecidableEq, Repr

/-- The numeric value of a return code. -/
def SqlReturn.code : SqlReturn → Int
  | .success => 0
  | .successWithInfo => 1
  | .error => -1
  | .noData => 100
  | .invalidHandle => -2

/-! ## Type codes -/

def sqlChar : Int := 1
def sqlNumeric : Int := 2
def sqlDecimal : Int := 3
def sqlInteger : Int := 4
def sqlSmallint : Int := 5
def sqlDouble : Int := 8
def sqlDatetime : Int := 9
def sqlVarchar : Int := 12
def sqlTypeDate : Int := 91
def sqlTypeTime : Int := 92
def sqlTypeTimestamp : Int := 93
def sqlBinary : Int := -2
def sqlVarbinary : Int := -3
def sqlLongvarbinary : Int := -4
def sqlBigint : Int := -5
def sqlTinyint : Int := -6
def sqlBit : Int := -7
def sqlCDefault : Int := 99
def sqlCSshort : Int := -15
def sqlCSlong : Int := -16
def sqlCUshort : Int := -17
def sqlCUlong : Int := -18
def sqlCSbigint : Int := -25
def sqlCStinyint : Int := -26

/-- `SQL_NULL_DATA`, the indicator of an SQL `NULL`. -/
def sqlNullData : Int := -1

/-- `SQL_DATE_LEN`, `SQL_TIME_LEN` and `SQL_TIMESTAMP_LEN`. -/
def sqlDateLen : Int := 10
def sqlTimeLen : Int := 8
def sqlTimestampLen : Int := 19

/-! ## Integer conversions -/

/-- Conversion to `SQLINTEGER`. -/
def toSqlInteger (n : Int) : Int := n.bmod (2 ^ 32)

/-- Conversion to `SQLSMALLINT`. -/
def toSqlSmallint (n : Int) : Int := n.bmod (2 ^ 16)

/-- Conversion to `size_t`. -/
def toSize (n : Int) : Nat := (n % 2 ^ 64).toNat

theorem toSqlInteger_of_lt {n : Int} (h0 : 0 ≤ n) (h : n < 2 ^ 31) : toSqlInteger n = n := by
  have hw : ((2 ^ 32 : Nat) : Int) = 4294967296 := by norm_num
  unfold toSqlInteger
  rw [Int.bmod_def, hw]
  split_ifs <;> omega

theorem toSqlSmallint_of_lt {n : Int} (h0 : 0 ≤ n) (h : n < 2 ^ 15) : toSqlSmallint n = n := by
  have hw : ((2 ^ 16 : Nat) : Int) = 65536 := by norm_num
  unfold toSqlSmallint
  rw [Int.bmod_def, hw]
  split_ifs <;> omega

theorem toSize_natCast {n : Nat} (h : n < 2 ^ 64) : toSize n = n := by
  unfold toSize
  omega

theorem toSize_of_lt {n : Int} (h0 : 0 ≤ n) (h : n < 2 ^ 64) : toSize n = n.toNat := by
  unfold toSize
  omega

/-! ## Exceptions -/

/-- The C++ exceptions that the driver's code tells apart: its own classes, the two of librets,
the standard ones and whatever else may be thrown. -/
inductive Exn
  | missingTranslator (what : Str)
  | dateTimeFormat (what : Str)
  | dataTranslation (what : Str)
  | sqlState (sqlstate what : Str)
  | getObject (what : Str)
  | odbcSql (returnCode : SqlReturn) (what : Str)
  | ezRets (what : Str)
  | retsSql (what : Str)
  | rets (what : Str)
  | badLexicalCast
  | badNumericCast
  | outOfRange
  | invalidArgument (what : Str)
  | std (what : Str)
  | unknown
  deriving DecidableEq, Repr

/-- `std::exception::what`.  The texts of the standard exceptions are the library's own. -/
def Exn.what : Exn → Str
  | .missingTranslator w => w
  | .dateTimeFormat w => w
  | .dataTranslation w => w
  | .sqlState _ w => w
  | .getObject w => w
  | .odbcSql _ w => w
  | .ezRets w => w
  | .retsSql w => w
  | .rets w => w
  | .badLexicalCast => "bad lexical cast".toList
  | .badNumericCast => "bad numeric cast".toList
  | .outOfRange => "out of range".toList
  | .invalidArgument w => w
  | .std w => w
  | .unknown => []

/-- Undefined behaviour: the null pointer or the end iterator that was dereferenced. -/
inductive Fault
  | nullResultSet
  | nullMetadataView
  | nullSession
  | nullResource
  | nullClass
  | nullTable
  | nullOutput
  | nullText
  | nullRecord
  | nullFields
  | nullResults
  | endIterator
  deriving DecidableEq, Repr

end EzRets
