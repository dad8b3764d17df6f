import EzRets.DriverRuns

/-!
# EzRets.Shutdown — taking the handles of an environment down

A connection is freed when it has no session and no statement, an environment when it has no
connection.  Whatever an application has done before, it can release what it has from the statements
up, and nothing of the environment is left.
-/

namespace EzRets

open FaultRun Component

/-- Without statements, and with a server that takes the logout, a connection disconnects. -/
theorem RetsDBC.call_disconnect {ctx : DbcContext} {dbc : RetsDBC} (hnone : dbc.mStatements = [])
    (hlogout : ctx.answer.logout = .ok ()) : ∃ dbc' : RetsDBC,
      dbc.call ctx (.session .disconnect) = .ok ⟨dbc', .success, []⟩ ∧
      dbc'.mRetsSession = none ∧ dbc'.mStatements = [] := by
  have hout : ∃ dbc' : RetsDBC,
      dbc.sqlDisconnect ctx.answer = { dbc := dbc', result := .ok .success } ∧
      dbc'.mRetsSession = none ∧ dbc'.mStatements = [] := by
    unfold sqlDisconnect
    dsimp only
    split_ifs with hclosed hlisted
    · exact ⟨dbc.clearErrors, rfl, Option.isNone_iff_eq_none.mp hclosed, hnone⟩
    · have hempty : dbc.clearErrors.mStatements = [] := hnone
      rw [hempty] at hlisted
      cases hlisted
    · rw [hlogout]
      exact ⟨_, rfl, rfl, hnone⟩
  obtain ⟨dbc', hdisconnect, hsession, hstatements⟩ := hout
  have hcall : dbc.call ctx (.session .disconnect) = .ok (entered (dbc.sqlDisconnect ctx.answer)) :=
    rfl
  rw [hdisconnect] at hcall
  exact ⟨_, hcall, hsession, hstatements⟩

namespace Handles

variable {hs hs' hs'' : Handles} {p q s : Ptr} {touched touched' : Ptr → Prop}

/-- The handles differ at most in the environment `p`, in the connections that are touched, and in
the statements of these. -/
structure KeepsOthers (p : Ptr) (touched : Ptr → Prop) (hs hs' : Handles) : Prop where
  envs : ∀ p', p' ≠ p → hs'.envs p' = hs.envs p'
  dbcs : ∀ q, ¬ touched q → hs'.dbcs q = hs.dbcs q
  stmts : ∀ {s st}, hs.stmts s = some st → ¬ touched st.mDbc → hs'.stmts s = some st

theorem KeepsOthers.refl : KeepsOthers p touched hs hs :=
  ⟨fun _ _ => rfl, fun _ _ => rfl, fun h _ => h⟩

theorem KeepsOthers.trans (h : KeepsOthers p touched hs hs') (h' : KeepsOthers p touched hs' hs'') :
    KeepsOthers p touched hs hs'' where
  envs p' hp := (h'.envs p' hp).trans (h.envs p' hp)
  dbcs q hq := (h'.dbcs q hq).trans (h.dbcs q hq)
  stmts hst hq := h'.stmts (h.stmts hst hq) hq

theorem KeepsOthers.mono (h : KeepsOthers p touched hs hs') (hsub : ∀ q, touched q → touched' q) :
    KeepsOthers p touched' hs hs' where
  envs := h.envs
  dbcs q hq := h.dbcs q fun ht => hq (hsub q ht)
  stmts hst hq := h.stmts hst fun ht => hq (hsub _ ht)

/-- The environment `p` is gone with its connections and their statements, and whatever belongs to
other environments is as it was. -/
structure Released (p : Ptr) (hs hs' : Handles) : Prop where
  env : hs'.envs p = none
  dbcs : ∀ {q d}, hs'.dbcs q = some d → d.mEnv ≠ p
  stmts : ∀ {s st}, hs'.stmts s = some st → hs'.dbcs st.mDbc ≠ none
  otherEnvs : ∀ p', p' ≠ p → hs'.envs p' = hs.envs p'
  otherDbcs : ∀ {q d}, hs.dbcs q = some d → d.mEnv ≠ p → hs'.dbcs q = some d
  otherStmts : ∀ {s st d}, hs.stmts s = some st → hs.dbcs st.mDbc = some d → d.mEnv ≠ p →
    hs'.stmts s = some st

/-- What is listed is live, and listed once. -/
theorem WellLinked.stmt_of_mem (h : hs.WellLinked) {d : LiveDbc} (hd : hs.dbcs q = some d)
    (hmem : s ∈ d.dbc.mStatements) : ∃ stmt, hs.stmts s = some ⟨q, stmt⟩ := by
  have howner : hs.stmtOwner s = some q := h.statements.owned (dbcChildren_of hd) hmem
  obtain ⟨⟨q', stmt⟩, hlive, hq⟩ := Option.map_eq_some_iff.mp howner
  obtain rfl : q' = q := hq
  exact ⟨stmt, hlive⟩

theorem WellLinked.dbc_of_mem (h : hs.WellLinked) {e : RetsENV} (he : hs.envs p = some e)
    (hmem : q ∈ e.mDatabaseConnections) : ∃ dbc, hs.dbcs q = some ⟨p, dbc⟩ := by
  have howner : hs.dbcOwner q = some p := h.connections.owned (envChildren_of he) hmem
  obtain ⟨⟨p', dbc⟩, hlive, hp⟩ := Option.map_eq_some_iff.mp howner
  obtain rfl : p' = p := hp
  exact ⟨dbc, hlive⟩

end Handles

namespace DriverCall

open Handles

variable {hs hs' : Handles} {p q s : Ptr}

/-- The statements of a connection are freed, it is disconnected and freed. -/
def closeDbc (ctx : DbcContext) (q : Ptr) (statements : List Ptr) : List DriverCall :=
  statements.map (.freeHandle 3) ++ [.session q ctx .disconnect, .freeHandle 2 q]

/-- **A statement is freed**, and its connection lists the others. -/
theorem answer_freeStmt {d : LiveDbc} {statements : List Ptr} (hlinked : hs.WellLinked)
    (hd : hs.dbcs q = some d) (hlist : d.dbc.mStatements = s :: statements) (hs0 : s ≠ 0) :
    ∃ hs' d', answer (.freeHandle 3 s) hs = .ok (hs', .success, []) ∧
      hs'.dbcs q = some { d with dbc := d' } ∧ d'.mStatements = statements ∧
      hs'.envs = hs.envs ∧ Handles.KeepsOthers p (· = q) hs hs' := by
  have hmem : s ∈ d.dbc.mStatements := by
    rw [hlist]
    exact List.mem_cons_self
  obtain ⟨stmt, hst⟩ := hlinked.stmt_of_mem hd hmem
  have hchildren : hs.dbcChildren q = some (s :: statements) := hlist ▸ dbcChildren_of hd
  let d' : RetsDBC := { d.dbc.clearErrors with mStatements := d.dbc.mStatements.filter (· ≠ s) }
  have hcall : call (.freeHandle 3 s) hs =
      .ok ⟨(hs.setDbc q (some { d with dbc := d' })).setStmt s none, .success, []⟩ := by
    show hs.checked s (hs.sqlFreeStmt s 1) = _
    unfold checked sqlFreeStmt
    rw [if_neg hs0, hst]
    dsimp only [deref, bind, Except.bind]
    rw [hd]
    rfl
  refine ⟨(hs.setDbc q (some { d with dbc := d' })).setStmt s none, d', ?_,
    Function.update_self _ _ _, ?_, rfl, ?_⟩
  · exact answer_of_call hcall
  · show d.dbc.mStatements.filter (· ≠ s) = statements
    rw [hlist]
    exact hlinked.statements.filter_head hchildren
  · refine ⟨fun _ _ => rfl, fun q' hq => Function.update_of_ne hq _ _, ?_⟩
    intro s' st hs' hne
    have hother : s' ≠ s := by
      rintro rfl
      obtain rfl := Option.some.inj (hst.symm.trans hs')
      exact hne rfl
    exact (Function.update_of_ne hother _ _).trans hs'

/-- All statements of a connection are freed. -/
theorem trace_freeStmts {d : LiveDbc} (statements : List Ptr) (hlinked : hs.WellLinked)
    (hd : hs.dbcs q = some d) (hlist : d.dbc.mStatements = statements)
    (hnull : ∀ s ∈ statements, s ≠ 0) :
    ∃ hs' answers d', trace answer (statements.map (.freeHandle 3)) hs = .ok (hs', answers) ∧
      (∀ a ∈ answers, a.1 = .success) ∧ hs'.WellLinked ∧
      hs'.dbcs q = some { d with dbc := d' } ∧ d'.mStatements = [] ∧ hs'.envs = hs.envs ∧
      Handles.KeepsOthers p (· = q) hs hs' := by
  induction statements generalizing hs d with
  | nil => exact ⟨hs, [], d.dbc, rfl, by simp, hlinked, hd, hlist, rfl, .refl⟩
  | cons s statements ih =>
    obtain ⟨hs₁, d₁, hfirst, hd₁, hlist₁, henvs₁, hkeeps₁⟩ :=
      @answer_freeStmt hs p q s d statements hlinked hd hlist (hnull s List.mem_cons_self)
    have hlinked₁ : hs₁.WellLinked :=
      wellLinked_answer (c := .freeHandle 3 s) trivial hlinked hfirst
    obtain ⟨hs', answers, d', htrace, hsuccess, hlinked', hd', hlist', henvs', hkeeps'⟩ :=
      ih hlinked₁ hd₁ hlist₁ fun s hs => hnull s (List.mem_cons_of_mem _ hs)
    refine ⟨hs', _, d', trace_cons.mpr ⟨hs₁, _, answers, hfirst, htrace, rfl⟩, ?_, hlinked', hd',
      hlist', henvs'.trans henvs₁, hkeeps₁.trans hkeeps'⟩
    rw [List.forall_mem_cons]
    exact ⟨rfl, hsuccess⟩

/-- **A connection is closed**, and its environment lists the others. -/
theorem trace_closeDbc {ctx : DbcContext} {d : LiveDbc} {e : RetsENV} {connections : List Ptr}
    (hlinked : hs.WellLinked) (he : hs.envs p = some e)
    (hlist : e.mDatabaseConnections = q :: connections) (hd : hs.dbcs q = some d)
    (hq : q ≠ 0) (hnull : ∀ s ∈ d.dbc.mStatements, s ≠ 0)
    (hlogout : ctx.answer.logout = .ok ()) :
    ∃ hs' answers e', trace answer (closeDbc ctx q d.dbc.mStatements) hs = .ok (hs', answers) ∧
      (∀ a ∈ answers, a.1 = .success) ∧ hs'.WellLinked ∧ hs'.envs p = some e' ∧
      e'.mDatabaseConnections = connections ∧ Handles.KeepsOthers p (· = q) hs hs' := by
  have hmem : q ∈ e.mDatabaseConnections := by
    rw [hlist]
    exact List.mem_cons_self
  obtain ⟨dbc, hdbc⟩ := hlinked.dbc_of_mem he hmem
  obtain rfl := Option.some.inj (hd.symm.trans hdbc)
  have hchildren : hs.envChildren p = some (q :: connections) := hlist ▸ envChildren_of he
  -- the statements go first
  obtain ⟨hs₁, answers, d₁, hfrees, hsuccess, hlinked₁, hd₁, hnone, henvs₁, hkeeps₁⟩ :=
    @trace_freeStmts hs p q _ dbc.mStatements hlinked hd rfl hnull
  -- then the session
  obtain ⟨d₂, hdisconnect, hsession, hnone₂⟩ := @RetsDBC.call_disconnect ctx d₁ hnone hlogout
  have hclose : answer (.session q ctx .disconnect) hs₁ =
      .ok (hs₁.setDbc q (some ⟨p, d₂⟩), .success, []) := by
    have hcall : call (.session q ctx .disconnect) hs₁ =
        .ok ⟨hs₁.setDbc q (some ⟨p, d₂⟩), .success, []⟩ := by
      show hs₁.checked q (hs₁.session q ctx .disconnect) = _
      unfold checked Handles.session
      rw [if_neg hq, hd₁]
      dsimp only [deref, bind, Except.bind]
      rw [henvs₁, he, hdisconnect]
      rfl
    exact answer_of_call hcall
  -- and the connection itself
  have hfree : d₂.canBeFreed = true := by
    unfold RetsDBC.canBeFreed
    rw [hsession, hnone₂]
    rfl
  let e' : RetsENV :=
    { e.clearErrors with mDatabaseConnections := e.mDatabaseConnections.filter (· ≠ q) }
  let hs₂ : Handles := hs₁.setDbc q (some ⟨p, d₂⟩)
  have hrelease : answer (.freeHandle 2 q) hs₂ =
      .ok ((hs₂.setEnv p (some e')).setDbc q none, .success, []) := by
    have hd₂ : hs₂.dbcs q = some ⟨p, d₂⟩ := Function.update_self _ _ _
    have he₂ : hs₂.envs p = some e := by
      show hs₁.envs p = some e
      rw [henvs₁, he]
    have hcall : call (.freeHandle 2 q) hs₂ =
        .ok ⟨(hs₂.setEnv p (some e')).setDbc q none, .success, []⟩ := by
      show hs₂.checked q (hs₂.sqlFreeConnect q) = _
      unfold checked sqlFreeConnect
      rw [if_neg hq, hd₂]
      dsimp only [deref, bind, Except.bind]
      rw [he₂]
      dsimp only
      rw [hfree]
      rfl
    exact answer_of_call hcall
  have hlast : trace answer [.session q ctx .disconnect, .freeHandle 2 q] hs₁ =
      .ok ((hs₂.setEnv p (some e')).setDbc q none, [(.success, []), (.success, [])]) :=
    trace_cons.mpr ⟨hs₂, _, _, hclose, trace_cons.mpr ⟨_, _, [], hrelease, rfl, rfl⟩, rfl⟩
  have htrace := trace_append hfrees hlast
  refine ⟨_, _, e', htrace, ?_, ?_, Function.update_self _ _ _, ?_, hkeeps₁.trans ?_⟩
  · intro a ha
    rcases List.mem_append.mp ha with ha | ha
    · exact hsuccess a ha
    · simp only [List.mem_cons, List.not_mem_nil, or_false, or_self] at ha
      rw [ha]
  · have hlinked₂ : hs₂.WellLinked :=
      wellLinked_answer (c := .session q ctx .disconnect) trivial hlinked₁ hclose
    exact wellLinked_answer (c := .freeHandle 2 q) trivial hlinked₂ hrelease
  · show e.mDatabaseConnections.filter (· ≠ q) = connections
    rw [hlist]
    exact hlinked.connections.filter_head hchildren
  · constructor
    · intro p' hp'
      exact Function.update_of_ne hp' _ _
    · intro q' hq'
      have hq'' : q' ≠ q := hq'
      show Function.update (Function.update hs₁.dbcs q _) q none q' = hs₁.dbcs q'
      rw [Function.update_of_ne hq'', Function.update_of_ne hq'']
    · intro s st hst _
      exact hst

/-- **All connections of an environment are closed.** -/
theorem trace_closeDbcs {ctx : Ptr → DbcContext} {statements : Ptr → List Ptr} {e : RetsENV}
    (connections : List Ptr) (hlinked : hs.WellLinked) (he : hs.envs p = some e)
    (hlist : e.mDatabaseConnections = connections)
    (hstatements : ∀ q ∈ connections, hs.dbcChildren q = some (statements q))
    (hnull : ∀ q ∈ connections, q ≠ 0 ∧ ∀ s ∈ statements q, s ≠ 0)
    (hlogout : ∀ q ∈ connections, (ctx q).answer.logout = .ok ()) :
    ∃ hs' answers e',
      trace answer (connections.flatMap fun q => closeDbc (ctx q) q (statements q)) hs =
        .ok (hs', answers) ∧ (∀ a ∈ answers, a.1 = .success) ∧ hs'.WellLinked ∧
      hs'.envs p = some e' ∧ e'.mDatabaseConnections = [] ∧
      Handles.KeepsOthers p (· ∈ connections) hs hs' := by
  induction connections generalizing hs e with
  | nil => exact ⟨hs, [], e, rfl, by simp, hlinked, he, hlist, .refl⟩
  | cons q connections ih =>
    obtain ⟨d, hd, hmine⟩ := Option.map_eq_some_iff.mp (hstatements q List.mem_cons_self)
    obtain ⟨hq, hnull_q⟩ := hnull q List.mem_cons_self
    rw [← hmine] at hnull_q
    obtain ⟨hs₁, answers₁, e₁, hfirst, hsuccess₁, hlinked₁, he₁, hlist₁, hkeeps₁⟩ :=
      trace_closeDbc hlinked he hlist hd hq hnull_q (hlogout q List.mem_cons_self)
    -- the other connections still list what they listed
    have hkept : ∀ q' ∈ connections, hs₁.dbcChildren q' = some (statements q') := by
      intro q' hq'
      have hne : q' ≠ q := by
        rintro rfl
        exact hlinked.connections.not_mem_tail (hlist ▸ envChildren_of he) hq'
      rw [dbcChildren, hkeeps₁.dbcs q' hne]
      exact hstatements q' (List.mem_cons_of_mem _ hq')
    obtain ⟨hs', answers', e', htrace, hsuccess', hlinked', he', hlist', hkeeps'⟩ :=
      ih hlinked₁ he₁ hlist₁ hkept (fun q hq => hnull q (List.mem_cons_of_mem _ hq))
        (fun q hq => hlogout q (List.mem_cons_of_mem _ hq))
    refine ⟨hs', answers₁ ++ answers', e', ?_, ?_, hlinked', he', hlist', ?_⟩
    · rw [List.flatMap_cons, ← hmine]
      exact trace_append hfirst htrace
    · intro a ha
      exact (List.mem_append.mp ha).elim (hsuccess₁ a) (hsuccess' a)
    · refine (hkeeps₁.mono ?_).trans (hkeeps'.mono fun q hq => List.mem_cons_of_mem _ hq)
      rintro q' rfl
      exact List.mem_cons_self

/-- What an application calls to release the environment `p`: each connection is closed, with the
statements that it has now, and the environment is freed. -/
def shutdown (ctx : Ptr → DbcContext) (hs : Handles) (p : Ptr) : List DriverCall :=
  (((hs.envChildren p).getD []).flatMap fun q =>
    closeDbc (ctx q) q ((hs.dbcChildren q).getD [])) ++ [.freeHandle 1 p]

/-- **An application can always shut down.**  Whatever calls it has made, releasing an environment
from the statements up succeeds at every call, if the servers take the logouts.  Nothing of the
environment is left then, and all that belongs to other environments is as it was. -/
theorem shutdown_of_run {before : List DriverCall} {ctx : Ptr → DbcContext} {e : RetsENV}
    (hbefore : Meets step Fresh before empty) (hreach : run before empty = .ok hs)
    (he : hs.envs p = some e)
    (hnull : hs.envs 0 = none ∧ hs.dbcs 0 = none ∧ hs.stmts 0 = none)
    (hlogout : ∀ q, (ctx q).answer.logout = .ok ()) :
    ∃ hs' answers, trace answer (shutdown ctx hs p) hs = .ok (hs', answers) ∧
      (∀ a ∈ answers, a.1 = .success) ∧ hs.Released p hs' := by
  have hlinked : hs.WellLinked := wellLinked_run hbefore wellLinked_empty hreach
  have hchildren : hs.envChildren p = some e.mDatabaseConnections := envChildren_of he
  have hstatements : ∀ q ∈ e.mDatabaseConnections,
      hs.dbcChildren q = some ((hs.dbcChildren q).getD []) := by
    intro q hq
    obtain ⟨dbc, hdbc⟩ := hlinked.dbc_of_mem he hq
    rw [dbcChildren_of hdbc]
    rfl
  have hlive : ∀ q ∈ e.mDatabaseConnections,
      q ≠ 0 ∧ ∀ s ∈ (hs.dbcChildren q).getD [], s ≠ 0 := by
    intro q hq
    obtain ⟨dbc, hdbc⟩ := hlinked.dbc_of_mem he hq
    constructor
    · rintro rfl
      rw [hnull.2.1] at hdbc
      cases hdbc
    · rintro s hs' rfl
      rw [dbcChildren_of hdbc] at hs'
      obtain ⟨stmt, hst⟩ := hlinked.stmt_of_mem hdbc hs'
      rw [hnull.2.2] at hst
      cases hst
  obtain ⟨hs₁, answers, e₁, htrace, hsuccess, hlinked₁, he₁, hlist₁, hkeeps⟩ :=
    trace_closeDbcs e.mDatabaseConnections hlinked he rfl hstatements hlive fun q _ => hlogout q
  -- the environment has no connection any more
  have hp : p ≠ 0 := by
    rintro rfl
    rw [hnull.1] at he
    cases he
  have hfree : answer (.freeHandle 1 p) hs₁ = .ok (hs₁.setEnv p none, .success, []) := by
    have hfreed : e₁.canBeFreed = true := List.isEmpty_iff.mpr hlist₁
    have hcall : call (.freeHandle 1 p) hs₁ = .ok ⟨hs₁.setEnv p none, .success, []⟩ := by
      show hs₁.checked p (hs₁.sqlFreeEnv p) = _
      unfold checked sqlFreeEnv RetsENV.sqlFreeEnv
      rw [if_neg hp, he₁]
      dsimp only [deref, bind, Except.bind]
      rw [hfreed]
      rfl
    exact answer_of_call hcall
  have hgone : (hs₁.setEnv p none).envs p = none := Function.update_self _ _ _
  have hlinked' : (hs₁.setEnv p none).WellLinked :=
    wellLinked_answer (c := .freeHandle 1 p) trivial hlinked₁ hfree
  have hother : ∀ {q d}, hs.dbcs q = some d → d.mEnv ≠ p → q ∉ e.mDatabaseConnections := by
    intro q d hd hne hmem
    obtain ⟨dbc, hdbc⟩ := hlinked.dbc_of_mem he hmem
    obtain rfl := Option.some.inj (hd.symm.trans hdbc)
    exact hne rfl
  refine ⟨hs₁.setEnv p none, answers ++ [(.success, [])], ?_, ?_, ?_⟩
  · unfold shutdown
    rw [hchildren]
    exact trace_append htrace (trace_cons.mpr ⟨_, _, [], hfree, rfl, rfl⟩)
  · intro a ha
    rcases List.mem_append.mp ha with ha | ha
    · exact hsuccess a ha
    · rw [List.mem_singleton.mp ha]
  · constructor
    · exact hgone
    · rintro q d hd rfl
      exact hlinked'.env_ne_none hd hgone
    · exact fun hst => hlinked'.dbc_ne_none hst
    · intro p' hp'
      exact (Function.update_of_ne hp' _ _).trans (hkeeps.envs p' hp')
    · intro q d hd hne
      exact (hkeeps.dbcs q (hother hd hne)).trans hd
    · intro s st d hst hd hne
      exact hkeeps.stmts hst (hother hd hne)

/-- The server takes the logout. -/
def leavingContext : DbcContext :=
  { RetsDBC.acceptingContext with answer := { RetsDBC.accepting with logout := .ok () } }

/-- The environment of an open connection with a statement is released. -/
theorem shutdown_opening : ∃ hs hs' answers, run openingCalls empty = .ok hs ∧
    trace answer (shutdown (fun _ => leavingContext) hs 8) hs = .ok (hs', answers) ∧
    (∀ a ∈ answers, a.1 = .success) ∧ hs.Released 8 hs' := by
  have hreach : run openingCalls empty = .ok _ := rfl
  obtain ⟨hs', answers, hreleased⟩ := @shutdown_of_run _ 8 openingCalls
    (fun _ => leavingContext) _ fresh_openingCalls hreach rfl ⟨rfl, rfl, rfl⟩ fun _ => rfl
  exact ⟨_, hs', answers, hreach, hreleased⟩

end DriverCall

end EzRets
