import EzRets.OpenConnection

/-!
# EzRets.ConnectOutcome — what a connect call reports and what it leaves

A connect call on a closed connection ends with a session and its view, or with neither, and its
return code says which.  Two exceptions come too late for that: one of librets that the catch
clause of `login` does not know, after the session is set, and the one of `numeric_cast` in
`SQLDriverConnect`, after the login is complete.
-/

namespace EzRets

open DataSource

/-- The server accepts the login and delivers the metadata. -/
def ServerAnswer.Accepts (answer : ServerAnswer) : Prop :=
  answer.login = .ok true ∧ ∃ metadata, answer.getMetadata = .ok metadata

/-- The server accepts the login, and what `GetMetadata` throws is no `std::exception`.  The
exceptions of librets itself are: its `RetsException` derives from `std::exception`. -/
def ServerAnswer.Halfway (answer : ServerAnswer) : Prop :=
  answer.login = .ok true ∧ ∃ e, answer.getMetadata = .error e ∧ e.isStd = false

theorem ServerAnswer.Accepts.not_halfway {answer : ServerAnswer} (h : answer.Accepts) :
    ¬ answer.Halfway := by
  rintro ⟨-, e, he, -⟩
  obtain ⟨metadata, hmetadata⟩ := h.2
  rw [hmetadata] at he
  cases he

namespace RetsDBC

variable {build : Build} {ini : Ini} {answer : ServerAnswer} {ctx : DbcContext} {dbc : RetsDBC}
  {r : Returned}

/-- Neither a session nor a metadata view is set. -/
def Closed (dbc : RetsDBC) : Prop := dbc.mRetsSession = none ∧ dbc.mMetadataView = none

/-- Both a session and a metadata view are set. -/
def Connected (dbc : RetsDBC) : Prop := dbc.mRetsSession.isSome ∧ dbc.mMetadataView.isSome

/-- The return code of a connect call says what the call left. -/
structure ReportsOutcome (r : Returned) : Prop where
  failed : r.result = .error ∨ r.result = .noData → r.dbc.Closed
  succeeded : r.result = .success ∨ r.result = .successWithInfo → r.dbc.Connected

theorem ReportsOutcome.of_closed (h : r.dbc.Closed) (hr : r.result = .error ∨ r.result = .noData) :
    ReportsOutcome r := by
  refine ⟨fun _ => h, fun hs => ?_⟩
  rcases hr with hr | hr <;> rw [hr] at hs <;> rcases hs with hs | hs <;> cases hs

theorem ReportsOutcome.of_connected (h : r.dbc.Connected)
    (hr : r.result = .success ∨ r.result = .successWithInfo) : ReportsOutcome r := by
  refine ⟨fun hf => ?_, fun _ => h⟩
  rcases hr with hr | hr <;> rw [hr] at hf <;> rcases hf with hf | hf <;> cases hf

/-- A session behind a failure. -/
theorem not_reportsOutcome (h : r.dbc.mRetsSession.isSome) (hr : r.result = .error) :
    ¬ ReportsOutcome r := by
  intro hreports
  have hnone : r.dbc.mRetsSession = none := (hreports.failed (.inl hr)).1
  rw [hnone] at h
  cases h

/-! ## The login -/

/-- How a login of a closed connection ends. -/
inductive LoginEnd (answer : ServerAnswer) : RetsDBC × Except Exn Bool → Prop
  | connected {dbc : RetsDBC} : answer.Accepts → dbc.Connected → LoginEnd answer (dbc, .ok true)
  | refused {dbc : RetsDBC} : ¬ answer.Accepts → ¬ answer.Halfway → dbc.Closed →
      LoginEnd answer (dbc, .ok false)
  | thrown {dbc : RetsDBC} {e : Exn} : ¬ answer.Accepts → ¬ answer.Halfway → dbc.Closed →
      e.isStd = false → LoginEnd answer (dbc, .error e)
  /-- The session is already set. -/
  | halfway {dbc : RetsDBC} {e : Exn} : answer.Halfway → dbc.mRetsSession.isSome →
      e.isStd = false → LoginEnd answer (dbc, .error e)

theorem login_end (build : Build) (answer : ServerAnswer) (hclosed : dbc.Closed) :
    LoginEnd answer (login build answer dbc) := by
  unfold login
  dsimp only
  rcases hlogin : answer.login with e | _ | _
  · have hrefused : answer.login ≠ .ok true := by simp [hlogin]
    by_cases he : e.isStd = true
    · dsimp only [loginFailed]
      rw [if_pos he]
      exact .refused (fun h => hrefused h.1) (fun h => hrefused h.1) ⟨rfl, rfl⟩
    · dsimp only [loginFailed]
      rw [if_neg he]
      exact .thrown (fun h => hrefused h.1) (fun h => hrefused h.1) hclosed
        (Bool.eq_false_iff.mpr he)
  · have hrefused : answer.login ≠ .ok true := by simp [hlogin]
    exact .refused (fun h => hrefused h.1) (fun h => hrefused h.1) hclosed
  · rcases hmetadata : answer.getMetadata with e | metadata
    · have hnone : ¬ answer.Accepts := by simp [ServerAnswer.Accepts, hmetadata]
      by_cases he : e.isStd = true
      · have hcaught : ¬ answer.Halfway := by simp [ServerAnswer.Halfway, hmetadata, he]
        dsimp only [loginFailed]
        rw [if_pos he]
        exact .refused hnone hcaught ⟨rfl, rfl⟩
      · dsimp only [loginFailed]
        rw [if_neg he]
        have hstd : e.isStd = false := Bool.eq_false_iff.mpr he
        exact .halfway ⟨hlogin, e, hmetadata, hstd⟩ rfl hstd
    · exact .connected ⟨hlogin, metadata, hmetadata⟩ ⟨rfl, rfl⟩

/-- What the entry wrapper makes of an exception that `login` does not catch. -/
theorem entered_of_not_isStd {out : DbcOut} {e : Exn} (hout : out.result = .error e)
    (he : e.isStd = false) : (entered out).result = .error := by
  unfold entered
  rw [hout]
  cases e with
  | unknown => rfl
  | _ => cases he

/-! ## The connection string that is handed back -/

/-- The length of the connection string is stored as that of a text which was cut, and no
`SQLSMALLINT` holds it. -/
def LengthThrows (conString : Str) (args : DriverConnectArgs) : Prop :=
  2 ^ 15 ≤ conString.length ∧
    (args.outConnectionString = 0 ∨ toSize args.bufferLength ≤ conString.length)

/-- A text is cut when there is no buffer for it or one that is too short. -/
theorem copyString_cuts_iff {s : Str} {dest : Ptr} {length : Nat} (hs : s ≠ []) :
    s.length > (copyString s dest length).2 ↔ dest = 0 ∨ length ≤ s.length := by
  have hpos : 0 < s.length := List.length_pos_iff.mpr hs
  unfold copyString
  by_cases hnull : dest = 0 ∨ length = 0
  · rw [if_pos hnull]
    refine iff_of_true hpos ?_
    rcases hnull with hnull | hnull
    · exact .inl hnull
    · exact .inr (by omega)
  · rw [if_neg hnull]
    dsimp only
    split_ifs with hcut
    · exact iff_of_true (by dsimp only; omega) (.inr (by omega))
    · refine iff_of_false (by dsimp only; omega) ?_
      rintro (h | h)
      · exact hnull (.inl h)
      · omega

/-! ## The two calls -/

/-- The settings that `SQLDriverConnect` logs in with. -/
def driverConnectSettings (build : Build) (ini : Ini) (inConnectionString : Str)
    (d : DataSource) : DataSource :=
  (d.setFromOdbcConnectionString inConnectionString).mergeFromIni build ini

/-- The call fails after the session was set. -/
def Abandoned (ctx : DbcContext) (dbc : RetsDBC) : ConnectCall → Prop
  | .connect _ _ _ => ctx.answer.Halfway
  | .driverConnect inConnectionString args =>
    let d := driverConnectSettings ctx.build ctx.ini inConnectionString dbc.mDataSource
    d.isComplete ∧ (ctx.answer.Halfway ∨
      ctx.answer.Accepts ∧ LengthThrows d.getConnectionString args)
  | .disconnect => False

theorem sqlConnect_reportsOutcome (hclosed : dbc.Closed) (dataSource : Str)
    (userName authentication : Option Str) :
    ReportsOutcome
        (entered (dbc.sqlConnect build ini answer dataSource userName authentication)) ↔
      ¬ answer.Halfway := by
  have hnone : ¬ dbc.clearErrors.mRetsSession.isSome := by simp [clearErrors, hclosed.1]
  unfold sqlConnect
  dsimp only
  rw [if_neg hnone]
  set d := connectSettings build ini dataSource userName authentication dbc.clearErrors.mDataSource
  have hend : LoginEnd answer (login build answer { dbc.clearErrors with mDataSource := d }) :=
    login_end build answer (show Closed { dbc.clearErrors with mDataSource := d } from hclosed)
  generalize login build answer { dbc.clearErrors with mDataSource := d } = out at hend ⊢
  cases hend with
  | connected haccepts hconnected =>
    exact iff_of_true (.of_connected hconnected (.inl rfl)) haccepts.not_halfway
  | refused haccepts hhalf hclosed' => exact iff_of_true (.of_closed hclosed' (.inl rfl)) hhalf
  | thrown haccepts hhalf hclosed' he =>
    exact iff_of_true (.of_closed hclosed' (.inl (entered_of_not_isStd rfl he))) hhalf
  | halfway hhalf hsession he =>
    exact iff_of_false (not_reportsOutcome hsession (entered_of_not_isStd rfl he))
      (not_not_intro hhalf)

theorem sqlDriverConnect_reportsOutcome (hclosed : dbc.Closed) (s : Str)
    (args : DriverConnectArgs) :
    ReportsOutcome (entered (dbc.sqlDriverConnect ctx.build ctx.ini ctx.answer s args)) ↔
      ¬ Abandoned ctx dbc (.driverConnect s args) := by
  unfold sqlDriverConnect
  dsimp only
  set d := (dbc.clearErrors.mDataSource.setFromOdbcConnectionString s).mergeFromIni ctx.build ctx.ini
  have habandoned : Abandoned ctx dbc (.driverConnect s args) ↔ d.isComplete ∧
      (ctx.answer.Halfway ∨ ctx.answer.Accepts ∧ LengthThrows d.getConnectionString args) := Iff.rfl
  rw [habandoned]
  by_cases hincomplete : (!d.isComplete) = true
  · rw [if_pos hincomplete]
    refine iff_of_true (.of_closed hclosed (.inr rfl)) fun h => ?_
    rw [h.1] at hincomplete
    cases hincomplete
  rw [if_neg hincomplete]
  have hcomplete : d.isComplete = true := by simpa using hincomplete
  have hend : LoginEnd ctx.answer
      (login ctx.build ctx.answer { dbc.clearErrors with mDataSource := d }) :=
    login_end _ _ (show Closed { dbc.clearErrors with mDataSource := d } from hclosed)
  generalize login ctx.build ctx.answer { dbc.clearErrors with mDataSource := d } = out at hend ⊢
  cases hend with
  | refused haccepts hhalf hclosed' =>
    exact iff_of_true (.of_closed hclosed' (.inl rfl)) fun h => h.2.elim hhalf fun h => haccepts h.1
  | thrown haccepts hhalf hclosed' he =>
    exact iff_of_true (.of_closed hclosed' (.inl (entered_of_not_isStd rfl he)))
      fun h => h.2.elim hhalf fun h => haccepts h.1
  | halfway hhalf hsession he =>
    exact iff_of_false (not_reportsOutcome hsession (entered_of_not_isStd rfl he))
      (not_not_intro ⟨hcomplete, .inl hhalf⟩)
  | connected haccepts hconnected =>
    -- the login is complete, and only the length can still throw
    have hlong : ctx.answer.Halfway ∨ ctx.answer.Accepts ∧ LengthThrows d.getConnectionString args ↔
        LengthThrows d.getConnectionString args :=
      ⟨fun h => h.elim (absurd · haccepts.not_halfway) And.right, fun h => .inr ⟨haccepts, h⟩⟩
    rw [and_iff_right hcomplete, hlong]
    dsimp only
    split_ifs with hcut hshort
    · refine iff_of_true (.of_connected hconnected (.inr rfl)) fun h => ?_
      exact absurd h.1 (not_le.mpr hshort)
    · have hne : d.getConnectionString ≠ [] := List.ne_nil_of_length_pos (by omega)
      refine iff_of_false (not_reportsOutcome hconnected.1 rfl) (not_not_intro ⟨?_, ?_⟩)
      · exact not_lt.mp hshort
      · exact (copyString_cuts_iff hne).mp hcut
    · refine iff_of_true (.of_connected hconnected (.inl rfl)) fun h => ?_
      have hne : d.getConnectionString ≠ [] := List.ne_nil_of_length_pos (by have := h.1; omega)
      exact hcut ((copyString_cuts_iff hne).mpr h.2)

/-- **A connect call on a closed connection reports what it leaves exactly when it is not given up
after the session was set.** -/
theorem reportsOutcome_iff (hclosed : dbc.Closed) {c : ConnectCall} (hc : c.Opens)
    (h : dbc.call ctx (.session c) = .ok r) : ReportsOutcome r ↔ ¬ Abandoned ctx dbc c := by
  rw [← Except.ok.inj h]
  rcases hc with ⟨dataSource, userName, authentication⟩ | ⟨s, args⟩
  · exact sqlConnect_reportsOutcome hclosed dataSource userName authentication
  · exact sqlDriverConnect_reportsOutcome hclosed s args

/-- A login with a short user name, and no room for the connection string. -/
theorem reportsOutcome_noBuffer :
    ∃ r, new.call acceptingContext (.session (.driverConnect
        "LoginUrl=http://b;UID=v;PWD=w".toList ⟨0, 0, 0⟩)) = .ok r ∧ ReportsOutcome r := by
  obtain ⟨r, hr⟩ : ∃ r, new.call acceptingContext (.session (.driverConnect
      "LoginUrl=http://b;UID=v;PWD=w".toList ⟨0, 0, 0⟩)) = .ok r := ⟨_, rfl⟩
  refine ⟨r, hr, (reportsOutcome_iff ⟨rfl, rfl⟩ (.driverConnect _ _) hr).mpr ?_⟩
  rintro ⟨-, hhalf | ⟨-, hlong, -⟩⟩
  · obtain ⟨-, e, he, -⟩ := hhalf
    cases he
  · exact absurd hlong (by decide)

/-- The connection string `LoginUrl=http://a;PWD=p;UID=` with the user name `user`. -/
def userString (user : Str) : Str :=
  "LoginUrl=http://a".toList ++ ';' :: ("PWD=p".toList ++ ';' :: ("UID".toList ++ '=' :: user))

theorem entries_userString {user : Str} (h : ';' ∉ user) :
    entries (userString user) = [("LoginUrl".toList, some "http://a".toList),
      ("PWD".toList, some "p".toList), ("UID".toList, some user)] := by
  have hurl : KeyValue.parse ';' '=' "LoginUrl=http://a".toList =
      [("LoginUrl".toList, some "http://a".toList)] := by decide
  have hpassword : KeyValue.parse ';' '=' "PWD=p".toList = [("PWD".toList, some "p".toList)] := by
    decide
  have huser : KeyValue.parse ';' '=' ("UID".toList ++ '=' :: user) =
      [("UID".toList, some user)] :=
    (KeyValue.parse_entry (by decide) (by decide) (by decide) user).trans
      (KeyValue.reread_of_not_mem h)
  have hsplit : entries (userString user) = KeyValue.parse ';' '=' "LoginUrl=http://a".toList ++
      (KeyValue.parse ';' '=' "PWD=p".toList ++
        KeyValue.parse ';' '=' ("UID".toList ++ '=' :: user)) :=
    (KeyValue.parse_append_cons _ _).trans
      (congrArg (_ ++ ·) (KeyValue.parse_append_cons _ _))
  rw [hsplit, hurl, hpassword, huser]
  rfl

/-- The settings read from the string name the user. -/
theorem userString_settings {user : Str} (h : ';' ∉ user) (hne : user ≠ []) :
    (driverConnectSettings build ini (userString user) init).isComplete = true ∧
      (driverConnectSettings build ini (userString user) init).str .username = user := by
  have hstr : ∀ k : StrSetting, (init.setFromOdbcConnectionString (userString user)).str k =
      (pieceText k.iniKey (named (userString user) k.iniKey)).getD [] :=
    fun k => setFromOdbcConnectionString_str init _ k
  have hname : (init.setFromOdbcConnectionString (userString user)).str .name = [] := by
    rw [hstr, named, entries_userString h]
    rfl
  have hsettings : driverConnectSettings build ini (userString user) init =
      init.setFromOdbcConnectionString (userString user) := by
    unfold driverConnectSettings mergeFromIni
    rw [if_neg (not_not_intro hname)]
  have husername : (init.setFromOdbcConnectionString (userString user)).str .username = user := by
    rw [hstr, named, entries_userString h]
    rfl
  refine ⟨?_, by rw [hsettings, husername]⟩
  have hurl : (init.setFromOdbcConnectionString (userString user)).str .loginUrl =
      "http://a".toList := by
    rw [hstr, named, entries_userString h]
    rfl
  have hpassword : (init.setFromOdbcConnectionString (userString user)).str .password =
      "p".toList := by
    rw [hstr, named, entries_userString h]
    rfl
  rw [hsettings, isComplete, husername, hurl, hpassword]
  simp [hne]

/-- The connection string is as long as the user name. -/
theorem username_length_le (d : DataSource) :
    (d.str .username).length ≤ d.getConnectionString.length := by
  by_cases hnil : d.str .username = []
  · rw [hnil]
    exact Nat.zero_le _
  have hmem : (StrSetting.username.iniKey, d.str .username) ∈ d.connectionEntries := by
    refine List.mem_map.mpr ⟨.str .username, List.mem_filter.mpr ⟨mem_connectionOrder _, ?_⟩, rfl⟩
    simpa [isAppended, text] using hnil
  exact KeyValue.length_le_length_print hmem

theorem abandoned_userString {user : Str} (h : ';' ∉ user) (hlong : 2 ^ 15 ≤ user.length) :
    Abandoned acceptingContext new (.driverConnect (userString user) ⟨1000, 1024, 0⟩) := by
  have hne : user ≠ [] := List.ne_nil_of_length_pos (by omega)
  obtain ⟨hcomplete, husername⟩ :=
    @userString_settings acceptingContext.build acceptingContext.ini user h hne
  have hlength := username_length_le
    (driverConnectSettings acceptingContext.build acceptingContext.ini (userString user) init)
  rw [husername] at hlength
  have hbuffer : toSize 1024 ≤ 2 ^ 15 := by decide
  exact ⟨hcomplete, .inr ⟨⟨rfl, _, rfl⟩, le_trans hlong hlength,
    .inr (le_trans hbuffer (le_trans hlong hlength))⟩⟩

/-- A user name that no `SQLSMALLINT` can count. -/
def longUser : Str := List.replicate (2 ^ 15) 'u'

theorem length_longUser : longUser.length = 2 ^ 15 := List.length_replicate

theorem driverConnect_abandoned {s : Str} {args : DriverConnectArgs}
    (h : Abandoned acceptingContext new (.driverConnect s args)) :
    ∃ r, new.call acceptingContext (.session (.driverConnect s args)) = .ok r ∧
      ¬ ReportsOutcome r :=
  ⟨_, rfl, fun hreports => (sqlDriverConnect_reportsOutcome ⟨rfl, rfl⟩ s args).mp hreports h⟩

/-- The login succeeds, and the call reports an error. -/
theorem not_reportsOutcome_longUser :
    new.Closed ∧ ∃ r, new.call acceptingContext (.session (.driverConnect (userString longUser)
        ⟨1000, 1024, 0⟩)) = .ok r ∧ ¬ ReportsOutcome r := by
  have hsemicolon : ';' ∉ longUser := by
    intro hmem
    cases List.eq_of_mem_replicate hmem
  have hlong : 2 ^ 15 ≤ longUser.length := Nat.le_of_eq length_longUser.symm
  exact ⟨⟨rfl, rfl⟩, driverConnect_abandoned (abandoned_userString hsemicolon hlong)⟩

end RetsDBC

end EzRets
