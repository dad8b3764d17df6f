import EzRets.Lib.KeyValue
import EzRets.Lib.LastWins
import EzRets.Odbc

/-!
# EzRets.DataSource — the settings of a connection

`DataSource` holds the settings of a connection, reads them from a connection string and from
the ODBC ini store, prints them as a connection string and sets up the RETS session.  Its 27
members are treated alike by kind, so they are kept as two functions on the names of the
settings.
-/

namespace EzRets

/-- The string members of `DataSource`. -/
inductive StrSetting
  | name
  | loginUrl
  | username
  | password
  | customUserAgent
  | httpLogFile
  | debugLogFile
  | retsVersionString
  | driver
  | userAgentPassword
  | userAgentAuthTypeString
  | encodingTypeString
  | proxyUrl
  | proxyPassword
  deriving DecidableEq, Repr

/-- The `bool` members of `DataSource`. -/
inductive BoolSetting
  | standardNames
  | useHttpGet
  | useHttpLogging
  | useDebugLogging
  | useBulkMetadata
  | ignoreMetadataType
  | useCompactFormat
  | disableGetObjectMetadata
  | enableUserAgentAuth
  | treatDecimalAsString
  | useProxy
  | supportsQueryStar
  | httpLogEverything
  deriving DecidableEq, Repr

/-- The `INI_` constant of a string member. -/
def StrSetting.iniKey : StrSetting → Str
  | .name => "DSN".toList
  | .loginUrl => "LoginUrl".toList
  | .username => "UID".toList
  | .password => "PWD".toList
  | .customUserAgent => "UserAgent".toList
  | .httpLogFile => "HttpLogFile".toList
  | .debugLogFile => "DebugLogFile".toList
  | .retsVersionString => "RetsVersion".toList
  | .driver => "DRIVER".toList
  | .userAgentPassword => "UserAgentPassword".toList
  | .userAgentAuthTypeString => "UserAgentAuthType".toList
  | .encodingTypeString => "EncodingType".toList
  | .proxyUrl => "ProxyUrl".toList
  | .proxyPassword => "ProxyPassword".toList

/-- The `INI_` constant of a `bool` member. -/
def BoolSetting.iniKey : BoolSetting → Str
  | .standardNames => "StandardNames".toList
  | .useHttpGet => "UseHttpGet".toList
  | .useHttpLogging => "UseHttpLogging".toList
  | .useDebugLogging => "UseDebugLogging".toList
  | .useBulkMetadata => "UseBulkMetadata".toList
  | .ignoreMetadataType => "IgnoreMetadataType".toList
  | .useCompactFormat => "UseCompactFormat".toList
  | .disableGetObjectMetadata => "DisableGetObjectMetadata".toList
  | .enableUserAgentAuth => "EnableUserAgentAuth".toList
  | .treatDecimalAsString => "TreatDecimalAsString".toList
  | .useProxy => "UseProxy".toList
  | .supportsQueryStar => "SupportsQueryStar".toList
  | .httpLogEverything => "HttpLogEverything".toList

/-- A member of `DataSource`. -/
inductive Setting
  | str (k : StrSetting)
  | bool (b : BoolSetting)
  deriving DecidableEq, Repr

def Setting.iniKey : Setting → Str
  | .str k => k.iniKey
  | .bool b => b.iniKey

/-- `DataSource`. -/
@[ext]
structure DataSource where
  str : StrSetting → Str
  bool : BoolSetting → Bool

/-- The contents of the ODBC ini store: section and entry to value. -/
abbrev Ini := Str → Str → Option Str

/-- What the build decides: the ODBC manager it is linked with and the name it presents. -/
structure Build where
  haveIodbc : Bool
  defaultUserAgent : Str

/-- The text up to the first NUL, as a C string is read. -/
def cString (s : Str) : Str := s.takeWhile (· ≠ '\x00')

/-- `INI_MAX_PROPERTY_VALUE`. -/
def iniMaxPropertyValue : Nat := 1000

def stringToBool (aString : Str) : Bool := aString.map Char.toLower = "true".toList

def boolToString (aBool : Bool) : Str := if aBool then "true".toList else "false".toList

@[simp] theorem stringToBool_boolToString (b : Bool) : stringToBool (boolToString b) = b := by
  cases b <;> decide

@[simp] theorem boolToString_ne_nil (b : Bool) : boolToString b ≠ [] := by
  cases b <;> decide

theorem StrSetting.iniKey_ne_nil (k : StrSetting) : k.iniKey ≠ [] := by
  cases k <;> decide

theorem BoolSetting.iniKey_ne_nil (b : BoolSetting) : b.iniKey ≠ [] := by
  cases b <;> decide

/-- No flag is switched on by its own name. -/
theorem BoolSetting.stringToBool_iniKey (b : BoolSetting) : stringToBool b.iniKey = false := by
  cases b <;> decide

namespace DataSource

/-- The value that `init` gives a `bool` member. -/
def initBool : BoolSetting → Bool
  | .disableGetObjectMetadata => true
  | _ => false

/-- The constructor. -/
def init : DataSource := ⟨fun _ => [], initBool⟩

def setStr (d : DataSource) (k : StrSetting) (value : Str) : DataSource :=
  { d with str := Function.update d.str k value }

@[simp] theorem setStr_str (d : DataSource) (k k' : StrSetting) (value : Str) :
    (d.setStr k value).str k' = if k' = k then value else d.str k' := by
  simp [setStr, Function.update_apply]

@[simp] theorem setStr_bool (d : DataSource) (k : StrSetting) (value : Str) :
    (d.setStr k value).bool = d.bool := rfl

/-! ## The ini store -/

/-- `GetProfileString` in the section `name`. -/
def getProfileString (ini : Ini) (name entry defaultValue : Str) : Str :=
  cString (((ini (cString name) entry).getD defaultValue).take iniMaxPropertyValue)

/-- `GetProfileBool` in the section `name`. -/
def getProfileBool (build : Build) (ini : Ini) (name entry : Str) (defaultValue : Bool) : Bool :=
  if build.haveIodbc then
    let value := getProfileString ini name entry []
    if value.isEmpty then defaultValue else stringToBool value
  else stringToBool (getProfileString ini name entry (boolToString defaultValue))

/-- The string members that `MergeFromIni` fills. -/
def isMerged : StrSetting → Bool
  | .name => false
  | .driver => false
  | _ => true

theorem isMerged_of_ne {k : StrSetting} (hname : k ≠ .name) (hdriver : k ≠ .driver) :
    isMerged k := by
  cases k <;> simp_all [isMerged]

/-- The default that `MergeFromIni` passes to `GetProfileBool`. -/
def profileDefault : BoolSetting → Bool
  | .disableGetObjectMetadata => true
  | _ => false

/-- `MergeFromIni`: fills the empty strings and sets every flag. -/
def mergeFromIni (build : Build) (ini : Ini) (d : DataSource) : DataSource :=
  if d.str .name ≠ [] then
    { str := fun k =>
        if isMerged k ∧ d.str k = [] then getProfileString ini (d.str .name) k.iniKey []
        else d.str k
      bool := fun b => getProfileBool build ini (d.str .name) b.iniKey (profileDefault b) }
  else d

/-! ## Connection strings -/

/-- The branch of `SetFromOdbcConnectionString` for `key`. -/
def setEntry (d : DataSource) (key value : Str) : DataSource :=
  { str := fun k => if k.iniKey = key then value else d.str k
    bool := fun b => if b.iniKey = key then stringToBool value else d.bool b }

def setFromOdbcConnectionString (d : DataSource) (connectionString : Str) : DataSource :=
  (connectionString.splitOn ';').foldl
    (fun d tok =>
      let entry := KeyValue.cut '=' tok
      -- without '=' the position is -1 and the value is the whole token, as the key is
      d.setEntry entry.1 (entry.2.getD tok))
    d

/-- The members in the order in which `GetConnectionString` appends them. -/
def connectionOrder : List Setting :=
  [.str .driver, .str .name, .str .loginUrl, .str .username, .str .password,
    .bool .standardNames, .str .customUserAgent, .bool .useHttpGet, .bool .useHttpLogging,
    .str .httpLogFile, .bool .useDebugLogging, .str .debugLogFile, .bool .useBulkMetadata,
    .str .retsVersionString, .bool .ignoreMetadataType, .bool .useCompactFormat,
    .bool .disableGetObjectMetadata, .bool .enableUserAgentAuth, .str .userAgentPassword,
    .str .userAgentAuthTypeString, .bool .treatDecimalAsString, .str .encodingTypeString,
    .bool .useProxy, .str .proxyUrl, .str .proxyPassword, .bool .supportsQueryStar,
    .bool .httpLogEverything]

/-- The condition under which `GetConnectionString` reaches a member's append. -/
def isAppended (d : DataSource) : Setting → Bool
  | .str .userAgentPassword => d.bool .enableUserAgentAuth
  | .str .userAgentAuthTypeString => d.bool .enableUserAgentAuth
  | .str .proxyUrl => d.bool .useProxy
  | .str .proxyPassword => d.bool .useProxy
  | .str .driver => !(d.str .driver).isEmpty
  | .str _ => true
  | .bool .standardNames => true
  | .bool .disableGetObjectMetadata => !d.bool .disableGetObjectMetadata
  | .bool b => d.bool b

/-- A member as `AppendToConnectionString` writes it. -/
def text (d : DataSource) : Setting → Str
  | .str k => d.str k
  | .bool b => boolToString (d.bool b)

/-- The entries of the connection string; `AppendToConnectionString` skips empty values. -/
def connectionEntries (d : DataSource) : List (Str × Str) :=
  (connectionOrder.filter fun s => d.isAppended s && !(d.text s).isEmpty).map
    fun s => (s.iniKey, d.text s)

def getConnectionString (d : DataSource) : Str :=
  KeyValue.print ';' '=' d.connectionEntries

theorem mem_connectionOrder (s : Setting) : s ∈ connectionOrder := by
  rcases s with k | b
  · cases k <;> decide
  · cases b <;> decide

theorem nodup_iniKeys : (connectionOrder.map Setting.iniKey).Nodup := by decide

theorem iniKey_injective : Function.Injective Setting.iniKey := by
  intro s s' h
  exact List.inj_on_of_nodup_map nodup_iniKeys (mem_connectionOrder s) (mem_connectionOrder s') h

theorem separators_not_mem_iniKey (s : Setting) : ';' ∉ s.iniKey ∧ '=' ∉ s.iniKey := by
  rcases s with k | b
  · cases k <;> decide
  · cases b <;> decide

/-! ## Option getters and the session -/

/-- `RetsVersion` of librets. -/
inductive RetsVersion
  | rets10
  | rets15
  | rets17
  | rets172
  deriving DecidableEq, Repr

/-- `EncodingType` of librets. -/
inductive EncodingType
  | default
  | iso
  | utf8
  deriving DecidableEq, Repr

/-- `UserAgentAuthType` of librets. -/
inductive UserAgentAuthType
  | rets17
  | interealty
  deriving DecidableEq, Repr

def getRetsVersion (d : DataSource) : RetsVersion :=
  let versionString := d.str .retsVersionString
  if versionString = "1.0".toList then .rets10
  else if versionString = "1.5".toList then .rets15
  else if versionString = "1.7".toList then .rets17
  else if versionString = "1.7.2".toList then .rets172
  else .rets15

def getEncodingType (d : DataSource) : EncodingType :=
  let encodingString := d.str .encodingTypeString
  if encodingString = "Default (US-ASCII) Encoding".toList then .default
  else if encodingString = "Extended (iso-8859-1) Encoding".toList then .iso
  else if encodingString = "UTF-8 Encoding".toList then .utf8
  else .default

def getUserAgentAuthType (d : DataSource) : UserAgentAuthType :=
  let typeString := d.str .userAgentAuthTypeString
  if typeString = "RETS 1.7".toList then .rets17
  else if typeString = "NON-STANDARD INTEREALTY".toList then .interealty
  else .interealty

def getUserAgent (build : Build) (d : DataSource) : Str :=
  if (d.str .customUserAgent).isEmpty then build.defaultUserAgent else d.str .customUserAgent

def isComplete (d : DataSource) : Bool :=
  !(d.str .loginUrl).isEmpty && !(d.str .username).isEmpty && !(d.str .password).isEmpty

/-- What `CreateRetsSession` sets on the session. -/
structure SessionConfig where
  loginUrl : Str
  useHttpGet : Bool
  userAgent : Str
  retsVersion : RetsVersion
  incrementalMetadata : Bool
  defaultEncoding : EncodingType
  logEverything : Bool
  userAgentAuth : Option (UserAgentAuthType × Str)
  proxy : Option (Str × Str)
  deriving DecidableEq, Repr

def createRetsSession (build : Build) (d : DataSource) : SessionConfig where
  loginUrl := d.str .loginUrl
  useHttpGet := d.bool .useHttpGet
  userAgent := d.getUserAgent build
  retsVersion := d.getRetsVersion
  incrementalMetadata := !d.bool .useBulkMetadata
  defaultEncoding := d.getEncodingType
  logEverything := d.bool .httpLogEverything
  userAgentAuth :=
    if d.bool .enableUserAgentAuth then
      some (d.getUserAgentAuthType, d.str .userAgentPassword)
    else none
  proxy := if d.bool .useProxy then some (d.str .proxyUrl, d.str .proxyPassword) else none

end DataSource

end EzRets
