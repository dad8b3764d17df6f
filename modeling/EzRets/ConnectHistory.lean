import EzRets.RetsDBC

/-!
# EzRets.ConnectHistory — what earlier connections leave behind

The settings of a connection handle outlive the connection.  A connect call is independent of
the handle's history when nothing that it does not set itself is left over from an earlier call.
-/

namespace EzRets

open DataSource

namespace RetsDBC

variable {build : Build} {ini : Ini} {answer answer' : ServerAnswer} {dbc : RetsDBC}

namespace ConnectCall

/-- The call sets the member itself. -/
def Gives : ConnectCall → Setting → Prop
  | .connect _ userName authentication, s =>
    s = .str .name ∨ (s = .str .username ∧ userName.isSome) ∨
      (s = .str .password ∧ authentication.isSome)
  | .driverConnect inConnectionString _, s => (named inConnectionString s.iniKey).isSome
  | .disconnect, _ => False

/-- The DSN that the call names. -/
def dsn : ConnectCall → Str
  | .connect dataSource _ _ => dataSource
  | .driverConnect inConnectionString _ => sectionRead inConnectionString
  | .disconnect => []

end ConnectCall

/-- What the handle holds of the members that the call does not set is not seen by the call: a
string is empty or agrees with the DSN, no name is left over for a call without a DSN, and the
flags that stay unset are at their defaults. -/
structure NoLeftover (ini : Ini) (call : ConnectCall) (d : DataSource) : Prop where
  str : ∀ k, isMerged k → ¬ call.Gives (.str k) →
    d.str k = [] ∨ d.str k = iniString ini call.dsn k
  name : ¬ call.Gives (.str .name) → d.str .name = []
  bool : call.dsn = [] → ∀ b, ¬ call.Gives (.bool b) → d.bool b = initBool b

/-! ## The settings of one call -/

/-- The two data sources agree on everything but the driver's name. -/
def Agree (d d' : DataSource) : Prop :=
  (∀ k, k ≠ .driver → d.str k = d'.str k) ∧ d.bool = d'.bool

theorem loginAttempt_congr {d d' : DataSource} (h : Agree d d') :
    loginAttempt build d = loginAttempt build d' := by
  obtain ⟨hstr, hbool⟩ := h
  simp only [loginAttempt, createRetsSession, getUserAgent, getRetsVersion, getEncodingType,
    getUserAgentAuthType, hbool]
  simp only [hstr _ (show StrSetting.loginUrl ≠ .driver by decide),
    hstr _ (show StrSetting.username ≠ .driver by decide),
    hstr _ (show StrSetting.password ≠ .driver by decide),
    hstr _ (show StrSetting.customUserAgent ≠ .driver by decide),
    hstr _ (show StrSetting.retsVersionString ≠ .driver by decide),
    hstr _ (show StrSetting.encodingTypeString ≠ .driver by decide),
    hstr _ (show StrSetting.userAgentAuthTypeString ≠ .driver by decide),
    hstr _ (show StrSetting.userAgentPassword ≠ .driver by decide),
    hstr _ (show StrSetting.proxyUrl ≠ .driver by decide),
    hstr _ (show StrSetting.proxyPassword ≠ .driver by decide)]

theorem isComplete_congr {d d' : DataSource} (h : Agree d d') :
    d.isComplete = d'.isComplete := by
  simp only [isComplete, h.1 _ (show StrSetting.loginUrl ≠ .driver by decide),
    h.1 _ (show StrSetting.username ≠ .driver by decide),
    h.1 _ (show StrSetting.password ≠ .driver by decide)]

/-- The string members of a `SQLConnect` call. -/
theorem connectSettings_str (dataSource : Str) (userName authentication : Option Str)
    (d : DataSource) (k : StrSetting) :
    (connectSettings build ini dataSource userName authentication d).str k =
      if k = .password ∧ authentication.isSome then authentication.getD []
      else if k = .username ∧ userName.isSome then userName.getD []
      else if k = .name then dataSource
      else if isMerged k ∧ d.str k = [] then iniString ini dataSource k
      else d.str k := by
  have hbase : ((d.setStr .name dataSource).mergeFromIni build ini).str k =
      if k = .name then dataSource
      else if isMerged k ∧ d.str k = [] then iniString ini dataSource k else d.str k := by
    rw [mergeFromIni_str]
    by_cases hk : k = .name
    · subst hk
      simp [isMerged]
    · simp [hk]
  unfold connectSettings
  cases userName <;> cases authentication <;> simp [hbase]

theorem connectSettings_bool (dataSource : Str) (userName authentication : Option Str)
    (d : DataSource) (b : BoolSetting) :
    (connectSettings build ini dataSource userName authentication d).bool b =
      if dataSource = [] then d.bool b else iniBool build ini dataSource b := by
  unfold connectSettings
  cases userName <;> cases authentication <;> simp [mergeFromIni_bool]

theorem connectSettings_agree {dataSource : Str} {userName authentication : Option Str}
    {d : DataSource} (h : NoLeftover ini (.connect dataSource userName authentication) d) :
    Agree (connectSettings build ini dataSource userName authentication d)
      (connectSettings build ini dataSource userName authentication DataSource.init) := by
  refine ⟨fun k hk => ?_, funext fun b => ?_⟩
  · rw [connectSettings_str, connectSettings_str]
    by_cases hpw : k = .password ∧ authentication.isSome
    · rw [if_pos hpw, if_pos hpw]
    by_cases hun : k = .username ∧ userName.isSome
    · rw [if_neg hpw, if_pos hun, if_neg hpw, if_pos hun]
    by_cases hname : k = .name
    · simp [hname]
    have hm : isMerged k := isMerged_of_ne hname hk
    have hgives : ¬ ConnectCall.Gives (.connect dataSource userName authentication) (.str k) := by
      simp only [ConnectCall.Gives, Setting.str.injEq]
      tauto
    have hd : d.str k = [] ∨ d.str k = iniString ini dataSource k := h.str k hm hgives
    rcases hd with hd | hd <;> simp [hpw, hun, hname, hm, hd, DataSource.init]
  · rw [connectSettings_bool, connectSettings_bool]
    split_ifs with hdsn
    · exact h.bool hdsn b (by simp [ConnectCall.Gives])
    · rfl

theorem driverConnect_agree {s : Str} {args : DriverConnectArgs} {d : DataSource}
    (h : NoLeftover ini (.driverConnect s args) d) :
    Agree ((d.setFromOdbcConnectionString s).mergeFromIni build ini)
      ((DataSource.init.setFromOdbcConnectionString s).mergeFromIni build ini) := by
  have hgives : ∀ s' : Setting, named s s'.iniKey = none →
      ¬ ConnectCall.Gives (.driverConnect s args) s' := by
    intro s' hn
    simp [ConnectCall.Gives, hn]
  have hname : (d.setFromOdbcConnectionString s).str .name = sectionRead s := by
    rw [setFromOdbcConnectionString_str, sectionRead]
    cases hn : named s StrSetting.name.iniKey with
    | some p => rfl
    | none => rw [h.name (hgives (.str .name) hn)]
  have hname' : (DataSource.init.setFromOdbcConnectionString s).str .name = sectionRead s :=
    setFromOdbcConnectionString_str DataSource.init s .name
  refine ⟨fun k hk => ?_, funext fun b => ?_⟩
  · by_cases hkn : k = .name
    · rw [hkn, mergeFromIni_str, mergeFromIni_str, hname, hname']
    have hm : isMerged k := isMerged_of_ne hkn hk
    rw [mergeFromIni_str, mergeFromIni_str, hname, hname', setFromOdbcConnectionString_str d s k,
      setFromOdbcConnectionString_str DataSource.init s k]
    cases hn : named s k.iniKey with
    | some p => rfl
    | none =>
      have hd : d.str k = [] ∨ d.str k = iniString ini (sectionRead s) k :=
        h.str k hm (hgives (.str k) hn)
      rcases hd with hd | hd <;> simp [pieceText, hm, hd, DataSource.init]
  · rw [mergeFromIni_bool, mergeFromIni_bool, hname, hname']
    split_ifs with hs
    · rw [setFromOdbcConnectionString_bool, setFromOdbcConnectionString_bool]
      cases hn : named s b.iniKey with
      | some p => rfl
      | none =>
        rw [h.bool hs b (hgives (.bool b) hn)]
        rfl
    · rfl

/-! ## The login of one call -/

theorem attempt_connect (hclosed : dbc.mRetsSession = none) (dataSource : Str)
    (userName authentication : Option Str) :
    (dbc.uncaught build ini answer (.connect dataSource userName authentication)).attempt =
      some (loginAttempt build
        (connectSettings build ini dataSource userName authentication dbc.mDataSource)) := by
  unfold uncaught sqlConnect
  dsimp only
  rw [if_neg (by simp [clearErrors, hclosed])]
  split <;> rfl

theorem attempt_driverConnect (s : Str) (args : DriverConnectArgs) :
    (dbc.uncaught build ini answer (.driverConnect s args)).attempt =
      (let d := (dbc.mDataSource.setFromOdbcConnectionString s).mergeFromIni build ini
       if d.isComplete then some (loginAttempt build d) else none) := by
  unfold uncaught sqlDriverConnect
  dsimp only [clearErrors]
  cases ((dbc.mDataSource.setFromOdbcConnectionString s).mergeFromIni build ini).isComplete with
  | false => rfl
  | true =>
    simp only [Bool.not_true, Bool.false_eq_true, if_false, if_true]
    split
    · rfl
    · rfl
    · split_ifs <;> rfl

/-- A call without leftovers logs in as on a fresh handle. -/
theorem attempt_eq_new {call : ConnectCall} (hclosed : dbc.mRetsSession = none)
    (h : NoLeftover ini call dbc.mDataSource) :
    (dbc.uncaught build ini answer call).attempt =
      (new.uncaught build ini answer' call).attempt := by
  cases call with
  | disconnect =>
    simp [uncaught, sqlDisconnect, clearErrors, hclosed, new]
  | connect dataSource userName authentication =>
    rw [attempt_connect hclosed, attempt_connect rfl]
    exact congrArg some (loginAttempt_congr (connectSettings_agree h))
  | driverConnect s args =>
    have hagree : Agree ((dbc.mDataSource.setFromOdbcConnectionString s).mergeFromIni build ini)
        ((DataSource.init.setFromOdbcConnectionString s).mergeFromIni build ini) :=
      driverConnect_agree h
    rw [attempt_driverConnect, attempt_driverConnect]
    dsimp only
    rw [isComplete_congr hagree, loginAttempt_congr hagree]
    rfl

/-! ## Two histories -/

/-- After any two histories that end without a session the same call logs in alike. -/
def HistoryFree (build : Build) : Prop :=
  ∀ (ini : Ini) (answer answer' : ServerAnswer) (call : ConnectCall)
    (history history' : List (Ini × ServerAnswer × ConnectCall)),
    (run build history new).mRetsSession = none →
    (run build history' new).mRetsSession = none →
    ((run build history new).uncaught build ini answer call).attempt =
      ((run build history' new).uncaught build ini answer' call).attempt

/-- **Two histories that leave nothing over log in alike.** -/
theorem attempt_eq_of_noLeftover {call : ConnectCall}
    {history history' : List (Ini × ServerAnswer × ConnectCall)}
    (hclosed : (run build history new).mRetsSession = none)
    (hclosed' : (run build history' new).mRetsSession = none)
    (hleft : NoLeftover ini call (run build history new).mDataSource)
    (hleft' : NoLeftover ini call (run build history' new).mDataSource) :
    ((run build history new).uncaught build ini answer call).attempt =
      ((run build history' new).uncaught build ini answer' call).attempt := by
  calc ((run build history new).uncaught build ini answer call).attempt
      = (new.uncaught build ini answer call).attempt := attempt_eq_new hclosed hleft
    _ = ((run build history' new).uncaught build ini answer' call).attempt :=
        (attempt_eq_new hclosed' hleft').symm

/-- A server that refuses every login. -/
def refusing : ServerAnswer := ⟨.ok false, .error (.rets []), .ok ()⟩

/-- A build for the examples. -/
def odbcBuild : Build := ⟨false, "ezRETS".toList⟩

/-- A refused login at the site `a`. -/
def refusedHistory : List (Ini × ServerAnswer × ConnectCall) :=
  [(fun _ _ => none, refusing, .driverConnect "LoginUrl=http://a;UID=u;PWD=p".toList ⟨0, 0, 0⟩)]

/-- A call that gives URL, user and password of the site `b`. -/
def fullCall : ConnectCall := .driverConnect "LoginUrl=http://b;UID=v;PWD=w".toList ⟨0, 0, 0⟩

/-- The full call is the same on a fresh handle and after the refused login. -/
theorem attempt_eq_refused :
    ((run odbcBuild [] new).uncaught odbcBuild (fun _ _ => none) refusing fullCall).attempt =
      ((run odbcBuild refusedHistory new).uncaught odbcBuild (fun _ _ => none) refusing
        fullCall).attempt := by
  have hgives : ∀ k, k = .loginUrl ∨ k = .username ∨ k = .password →
      fullCall.Gives (.str k) := by
    rintro k (rfl | rfl | rfl) <;> simp only [fullCall, ConnectCall.Gives] <;> decide
  refine attempt_eq_of_noLeftover rfl (by decide)
    ⟨fun k _ _ => .inl rfl, fun _ => rfl, fun _ b _ => rfl⟩
    ⟨fun k _ hg => ?_, fun _ => by decide, fun _ b _ => ?_⟩
  · cases k with
    | loginUrl => exact absurd (hgives _ (by simp)) hg
    | username => exact absurd (hgives _ (by simp)) hg
    | password => exact absurd (hgives _ (by simp)) hg
    | _ => exact .inl (by decide)
  · cases b <;> decide

/-- The login URL of the first site is used for the second. -/
theorem not_historyFree : ¬ HistoryFree odbcBuild := by
  intro h
  let ini : Ini := fun dsn entry =>
    if entry = "LoginUrl".toList then some ("http://".toList ++ dsn) else none
  have heq := h ini refusing refusing (.connect "b".toList none none) []
    [(ini, refusing, .connect "a".toList none none)] rfl (by decide)
  have hurl := congrArg (fun a => a.map (·.session.loginUrl)) heq
  exact absurd hurl (by decide)

end RetsDBC

end EzRets
