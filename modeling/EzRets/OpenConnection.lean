import EzRets.ConnectionCalls

/-!
# EzRets.OpenConnection — the session of a connection over its calls

The session and the metadata view are set by `login` and dropped by its catch clause and by
`SQLDisconnect`, both together.  A connection that has a session refuses `SQLConnect`, while
`SQLDriverConnect` logs in again.
-/

namespace EzRets

open FaultRun DataSource

/-- Fetching the metadata and building the view throws standard exceptions only.  So it is with
librets, whose `RetsException` derives from `std::exception`. -/
def ServerAnswer.ThrowsStd (answer : ServerAnswer) : Prop :=
  ∀ e, answer.getMetadata = .error e → e.isStd

namespace RetsDBC

variable {build : Build} {ini : Ini} {answer : ServerAnswer} {ctx : DbcContext} {dbc : RetsDBC}

/-! ## What a call does to the session -/

/-- The session with the view. -/
abbrev SessionView := Option SessionConfig × Option MetadataView

def sessionView (dbc : RetsDBC) : SessionView := (dbc.mRetsSession, dbc.mMetadataView)

/-- Session and view are kept, both set or both dropped. -/
inductive SessionChange (old new : SessionView) : Prop
  | keep (same : new = old)
  | opened (session : new.1.isSome) (view : new.2.isSome)
  | closed (none : new = (none, none))

/-- **A login keeps the session and the view together.** -/
theorem login_change (hstd : answer.ThrowsStd) (dbc : RetsDBC) :
    SessionChange dbc.sessionView (login build answer dbc).1.sessionView := by
  unfold login
  dsimp only
  rcases answer.login with e | success
  · dsimp only [loginFailed]
    split_ifs
    · exact .closed rfl
    · exact .keep rfl
  rcases success with _ | _
  · exact .keep rfl
  rcases hmetadata : answer.getMetadata with e | metadata
  · -- the new session is already set when the metadata are fetched
    have he : e.isStd = true := hstd e hmetadata
    dsimp only [loginFailed]
    rw [if_pos he]
    exact .closed rfl
  · exact .opened rfl rfl

theorem sqlConnect_change (hstd : answer.ThrowsStd) (dataSource : Str)
    (userName authentication : Option Str) (dbc : RetsDBC) :
    SessionChange dbc.sessionView
      (dbc.sqlConnect build ini answer dataSource userName authentication).dbc.sessionView := by
  unfold sqlConnect
  dsimp only
  by_cases hopen : dbc.clearErrors.mRetsSession.isSome
  · rw [if_pos hopen]
    exact .keep rfl
  rw [if_neg hopen]
  set d := connectSettings build ini dataSource userName authentication dbc.clearErrors.mDataSource
  have hchange : SessionChange dbc.sessionView
      (login build answer { dbc.clearErrors with mDataSource := d }).1.sessionView :=
    login_change hstd { dbc.clearErrors with mDataSource := d }
  split <;> exact hchange

theorem sqlDriverConnect_change (hstd : answer.ThrowsStd) (s : Str) (args : DriverConnectArgs)
    (dbc : RetsDBC) :
    SessionChange dbc.sessionView
      (dbc.sqlDriverConnect build ini answer s args).dbc.sessionView := by
  unfold sqlDriverConnect
  dsimp only
  set d := (dbc.clearErrors.mDataSource.setFromOdbcConnectionString s).mergeFromIni build ini
  have hchange : SessionChange dbc.sessionView
      (login build answer { dbc.clearErrors with mDataSource := d }).1.sessionView :=
    login_change hstd { dbc.clearErrors with mDataSource := d }
  by_cases hcomplete : (!d.isComplete) = true
  · rw [if_pos hcomplete]
    exact .keep rfl
  rw [if_neg hcomplete]
  rcases hlogin : login build answer { dbc.clearErrors with mDataSource := d } with ⟨dbc', success⟩
  rw [hlogin] at hchange
  rcases success with e | _ | _
  · exact hchange
  · exact hchange
  · dsimp only
    split_ifs <;> exact hchange

/-- `SQLDisconnect` drops both, or neither when it fails. -/
theorem sqlDisconnect_change (answer : ServerAnswer) (dbc : RetsDBC) :
    (dbc.sqlDisconnect answer).dbc.sessionView = dbc.sessionView ∨
      ((dbc.sqlDisconnect answer).dbc.sessionView = (none, none) ∧
        (dbc.sqlDisconnect answer).result = .ok .success) := by
  unfold sqlDisconnect
  dsimp only
  split_ifs
  · exact .inl rfl
  · exact .inl rfl
  · rcases answer.logout with e | _
    · exact .inl rfl
    · exact .inr ⟨rfl, rfl⟩

/-- **Every call keeps, sets or drops the session and the view together.** -/
theorem step_change {p : DbcContext × DbcCall} {dbc' : RetsDBC} (hstd : p.1.answer.ThrowsStd)
    (h : step p dbc = .ok dbc') : SessionChange dbc.sessionView dbc'.sessionView := by
  obtain ⟨r, hr, rfl⟩ := map_eq_ok.mp h
  rcases call_sameSession hr with hsame | ⟨c, -, rfl⟩
  · exact .keep (Prod.ext hsame.session hsame.view)
  show SessionChange dbc.sessionView
    (dbc.uncaught p.1.build p.1.ini p.1.answer c).dbc.sessionView
  rcases c with ⟨dataSource, userName, authentication⟩ | ⟨s, args⟩ | _
  · exact sqlConnect_change hstd _ _ _ dbc
  · exact sqlDriverConnect_change hstd _ _ dbc
  · rcases sqlDisconnect_change p.1.answer dbc with hsame | ⟨hnone, -⟩
    · exact .keep hsame
    · exact .closed hnone

/-! ## Session and view live and die together -/

/-- The session is null iff the view is. -/
def Paired (dbc : RetsDBC) : Prop := dbc.mRetsSession = none ↔ dbc.mMetadataView = none

theorem SessionChange.paired {dbc' : RetsDBC}
    (h : SessionChange dbc.sessionView dbc'.sessionView) (hpaired : dbc.Paired) :
    dbc'.Paired := by
  rcases h with hsame | ⟨hs, hv⟩ | hnone
  · have hs : dbc'.mRetsSession = dbc.mRetsSession := congrArg Prod.fst hsame
    have hv : dbc'.mMetadataView = dbc.mMetadataView := congrArg Prod.snd hsame
    rw [Paired, hs, hv]
    exact hpaired
  · have hs' : dbc'.mRetsSession ≠ none := Option.isSome_iff_ne_none.mp hs
    have hv' : dbc'.mMetadataView ≠ none := Option.isSome_iff_ne_none.mp hv
    exact ⟨fun h => absurd h hs', fun h => absurd h hv'⟩
  · have hs : dbc'.mRetsSession = none := congrArg Prod.fst hnone
    have hv : dbc'.mMetadataView = none := congrArg Prod.snd hnone
    exact ⟨fun _ => hv, fun _ => hs⟩

/-- A `SQLDisconnect` that does not succeed leaves both as they were. -/
def FailsWhole (dbc : RetsDBC) : Prop :=
  ∀ ctx r, dbc.call ctx (.session .disconnect) = .ok r → r.result ≠ .success →
    r.dbc.sessionView = dbc.sessionView

theorem failsWhole (dbc : RetsDBC) : dbc.FailsWhole := by
  intro ctx r h herror
  rw [← Except.ok.inj h] at herror ⊢
  rcases sqlDisconnect_change ctx.answer dbc with hsame | ⟨-, hsuccess⟩
  · exact hsame
  · have hresult : (entered (dbc.sqlDisconnect ctx.answer)).result = .success := by
      unfold entered
      rw [hsuccess]
      rfl
    exact absurd hresult herror

/-- **In every state that a connection can reach the session is null iff the view is, and a
disconnect that fails changes neither.** -/
theorem paired_of_run {history : List (DbcContext × DbcCall)}
    (hstd : ∀ p ∈ history, p.1.answer.ThrowsStd) (h : runCalls history new = .ok dbc) :
    dbc.Paired ∧ dbc.FailsWhole := by
  refine ⟨?_, failsWhole dbc⟩
  have hmeets : Meets step (fun p _ => p.1.answer.ThrowsStd) history new :=
    .of_forall (fun p hp _ => hstd p hp) new
  refine hmeets.invariant (I := Paired) ?_ ⟨fun _ => rfl, fun _ => rfl⟩ h
  intro p _ s s' hp hs hstep
  exact (step_change hp hstep).paired hs

/-- A server that accepts every login and has no metadata. -/
def accepting : ServerAnswer where
  login := .ok true
  getMetadata := .ok
    { getAllResources := []
      getAllClasses := fun _ => []
      getAllTables := fun _ => []
      getAllLookupTypes := fun _ _ => []
      getLookup := fun _ _ => none
      getLookupType := fun _ _ _ => none
      nodup_resources := List.nodup_nil
      nodup_classes := fun _ => List.nodup_nil }
  logout := .error (.rets "Connection reset".toList)

/-- A call with the accepting server and without an ini store. -/
def acceptingContext : DbcContext :=
  ⟨⟨false, "ezRETS".toList⟩, ⟨"02.00.0005".toList, "03.51".toList, none⟩, fun _ _ => none, accepting⟩

/-- A login, and a disconnect whose logout fails. -/
def stuckHistory : List (DbcContext × DbcCall) :=
  [(acceptingContext, .session (.connect "site".toList none none)),
    (acceptingContext, .session .disconnect)]

theorem paired_stuck : ∃ dbc, runCalls stuckHistory new = .ok dbc ∧ dbc.Paired ∧ dbc.FailsWhole := by
  have hstd : ∀ p ∈ stuckHistory, p.1.answer.ThrowsStd := by
    intro p hp e he
    have hctx : p.1 = acceptingContext := by
      rcases List.mem_cons.mp hp with rfl | hp
      · rfl
      · rw [List.mem_singleton.mp hp]
    rw [hctx] at he
    cases he
  have hrun : runCalls stuckHistory new = .ok _ := rfl
  exact ⟨_, hrun, paired_of_run hstd hrun⟩

/-! ## An open connection and a further connect call -/

/-- The calls that log in. -/
inductive ConnectCall.Opens : ConnectCall → Prop
  | connect (dataSource : Str) (userName authentication : Option Str) :
      Opens (.connect dataSource userName authentication)
  | driverConnect (s : Str) (args : DriverConnectArgs) : Opens (.driverConnect s args)

/-- The call on `dbc` that ended with `r` was refused: `SQL_ERROR` with 08002, and the session, the
view and the settings as they were. -/
structure Refused (dbc : RetsDBC) (r : Returned) : Prop where
  result : r.result = .error
  record : ∃ e ∈ r.dbc.mErrors, e.mSqlstate = "08002".toList
  same : SameSession dbc r.dbc

/-- The records that a login adds. -/
theorem login_mErrors (build : Build) (answer : ServerAnswer) (dbc : RetsDBC) :
    ∃ es, (login build answer dbc).1.mErrors = dbc.mErrors ++ es ∧
      ∀ e ∈ es, e.mSqlstate = "08001".toList := by
  have hfailed : ∀ (d : RetsDBC) (e : Exn), ∃ es, (d.loginFailed e).1.mErrors = d.mErrors ++ es ∧
      ∀ e ∈ es, e.mSqlstate = "08001".toList := by
    intro d e
    unfold loginFailed
    split_ifs
    · exact ⟨_, rfl, by simp⟩
    · exact ⟨[], (List.append_nil _).symm, by simp⟩
  unfold login
  dsimp only
  split
  · exact hfailed dbc _
  · exact ⟨[], (List.append_nil _).symm, by simp⟩
  · split
    · exact hfailed { dbc with mRetsSession := _ } _
    · exact ⟨[], (List.append_nil _).symm, by simp⟩

/-- A record of the entry wrapper, or one that was there before. -/
theorem mem_odbcEntry {mErrors : List Error} {result : Except Exn SqlReturn} {e : Error}
    (h : e ∈ (odbcEntry mErrors result).2) : e ∈ mErrors ∨ e.mSqlstate = "HY000".toList := by
  unfold odbcEntry at h
  split at h
  · exact .inl h
  all_goals
    rcases List.mem_append.mp h with h | h
    · exact .inl h
    · rw [List.mem_singleton.mp h]
      exact .inr rfl

/-- `SQLDriverConnect` raises 08001, 01004 and, in its wrapper, HY000. -/
theorem driverConnect_sqlstates {s : Str} {args : DriverConnectArgs} {e : Error}
    (h : e ∈ (dbc.sqlDriverConnect build ini answer s args).dbc.mErrors) :
    e.mSqlstate = "08001".toList ∨ e.mSqlstate = "01004".toList := by
  unfold sqlDriverConnect at h
  dsimp only at h
  set d := (dbc.clearErrors.mDataSource.setFromOdbcConnectionString s).mergeFromIni build ini
  by_cases hcomplete : (!d.isComplete) = true
  · rw [if_pos hcomplete] at h
    cases h
  rw [if_neg hcomplete] at h
  obtain ⟨es, hes, hsqlstate⟩ := login_mErrors build answer { dbc.clearErrors with mDataSource := d }
  rcases hlogin : login build answer { dbc.clearErrors with mDataSource := d } with ⟨dbc', success⟩
  rw [hlogin] at h hes
  have hold : ∀ e ∈ dbc'.mErrors, e.mSqlstate = "08001".toList := by
    intro e he
    rw [hes] at he
    exact hsqlstate e he
  have hnew : ∀ (sqlstate : String) (message : Str), e ∈ (dbc'.addError sqlstate message).mErrors →
      e.mSqlstate = "08001".toList ∨ e.mSqlstate = sqlstate.toList := by
    intro sqlstate message he
    rcases List.mem_append.mp he with he | he
    · exact .inl (hold e he)
    · rw [List.mem_singleton.mp he]
      exact .inr rfl
  rcases success with e' | _ | _
  · exact .inl (hold e h)
  · exact .inl ((or_self _).mp (hnew _ _ h))
  · dsimp only at h
    split_ifs at h
    · exact hnew _ _ h
    · exact hnew _ _ h
    · exact .inl (hold e h)

/-- **An open connection refuses `SQLConnect`, and only that.** -/
theorem refused_iff (hopen : dbc.mRetsSession.isSome) {c : ConnectCall} (hc : c.Opens)
    {r : Returned} (h : dbc.call ctx (.session c) = .ok r) :
    Refused dbc r ↔ ¬ ∃ s args, c = .driverConnect s args := by
  rw [← Except.ok.inj h]
  rcases hc with ⟨dataSource, userName, authentication⟩ | ⟨s, args⟩
  · refine ⟨fun _ => by simp, fun _ => ?_⟩
    have hout : dbc.uncaught ctx.build ctx.ini ctx.answer
        (.connect dataSource userName authentication) =
        { dbc := dbc.clearErrors.addError "08002" "Connection already open".toList
          result := .ok .error } := if_pos hopen
    rw [hout]
    exact ⟨rfl, ⟨_, List.mem_singleton_self _, rfl⟩, ⟨rfl, rfl, rfl⟩⟩
  · refine ⟨fun hrefused => ?_, fun hne => absurd ⟨s, args, rfl⟩ hne⟩
    obtain ⟨e, he, hsqlstate⟩ := hrefused.record
    rcases mem_odbcEntry he with he | he
    · rcases driverConnect_sqlstates he with he | he <;>
        exact absurd (hsqlstate.symm.trans he) (by decide)
    · exact absurd (hsqlstate.symm.trans he) (by decide)

/-- Every connect call of the history that is made while a session is open is refused. -/
def RefusesWhileOpen (history : List (DbcContext × DbcCall)) : Prop :=
  Meets step (fun p dbc => dbc.mRetsSession.isSome → ∀ c, p.2 = .session c → c.Opens →
    ∀ r, dbc.call p.1 p.2 = .ok r → Refused dbc r) history new

/-- **A history refuses every connect call on an open connection exactly when it makes no
`SQLDriverConnect` on one.** -/
theorem refusesWhileOpen_iff (history : List (DbcContext × DbcCall)) :
    RefusesWhileOpen history ↔
      Meets step (fun p dbc => dbc.mRetsSession.isSome →
        ¬ ∃ s args, p.2 = .session (.driverConnect s args)) history new := by
  refine Meets.congr (fun p dbc => ?_) history new
  refine forall_congr' fun hopen => ⟨fun h => ?_, fun h c hc hopens r hr => ?_⟩
  · rintro ⟨s, args, hp⟩
    have hr : dbc.call p.1 p.2 = .ok (entered (dbc.uncaught p.1.build p.1.ini p.1.answer
        (.driverConnect s args))) := by rw [hp]; rfl
    have hrefused := h _ hp (.driverConnect s args) _ hr
    rw [hp] at hr
    exact (refused_iff hopen (.driverConnect s args) hr).mp hrefused ⟨s, args, rfl⟩
  · rw [hc] at hr
    refine (refused_iff hopen hopens hr).mpr ?_
    rintro ⟨s, args, rfl⟩
    exact h ⟨s, args, hc⟩

/-- Two connect calls, the second while the session of the first is open. -/
def reloginHistory : List (DbcContext × DbcCall) :=
  [(acceptingContext, .session (.connect "site".toList none none)),
    (acceptingContext, .session (.driverConnect "LoginUrl=http://b;UID=v;PWD=w".toList ⟨0, 0, 0⟩))]

/-- The second login is made, and its session takes the place of the first. -/
theorem not_refusesWhileOpen : ¬ RefusesWhileOpen reloginHistory := by
  rintro ⟨-, h⟩
  have hsecond := (h _ rfl).1 rfl _ rfl (.driverConnect _ _) _ rfl
  exact (refused_iff rfl (.driverConnect _ _) rfl).mp hsecond ⟨_, _, rfl⟩

end RetsDBC

end EzRets
