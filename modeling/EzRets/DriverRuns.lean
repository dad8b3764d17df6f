import EzRets.Driver
import EzRets.OpenConnection

/-!
# EzRets.DriverRuns — one statement among all calls of a driver

The calls on one statement, taken out of a run of the whole driver, are answered as if the
application had made no other call, as long as its connection has a session and the debug log, which
the connections of an environment share, is off.  The session lasts: a connection that lists a
statement refuses to disconnect, and an open one refuses to connect.
-/

namespace EzRets

open FaultRun

/-! ## The calls that reach one handle only -/

theorem RetsENV.call_children {c : EnvCall} {env : RetsENV} {r : RetsENV.Returned}
    (hc : c.isLocal = true) (h : env.call c = .ok r) :
    r.env.mDatabaseConnections = env.mDatabaseConnections := by
  cases c with
  | allocConnect _ _ | freeEnv | freeConnect _ _ => cases hc
  | allocUnsupported _ | freeUnsupported _ | stub _ =>
    rw [← Except.ok.inj h]
    rfl
  | getEnvAttr attr value =>
    have hclear : env.clearErrors.mDatabaseConnections = env.mDatabaseConnections := rfl
    change env.sqlGetEnvAttr attr value = .ok r at h
    unfold sqlGetEnvAttr at h
    dsimp only at h
    split at h
    all_goals first | split_ifs at h | skip
    all_goals
      rw [← Except.ok.inj h]
      exact hclear
  | setEnvAttr attr value =>
    rw [← Except.ok.inj h]
    unfold sqlSetEnvAttr
    dsimp only
    split <;> rfl
  | getDiagField _ _ _ | getDiagRec _ _ | error _ =>
    obtain ⟨out, -, rfl⟩ := map_eq_ok.mp h
    rfl

namespace RetsDBC

variable {dbc : RetsDBC}

/-- The connection with other records. -/
def withErrors (dbc : RetsDBC) (mErrors : List Error) : RetsDBC := { dbc with mErrors := mErrors }

theorem sameSession_withErrors (mErrors : List Error) : SameSession dbc (dbc.withErrors mErrors) :=
  ⟨rfl, rfl, rfl⟩

theorem setString_withErrors (length : Int → CValue) (a : InfoArgs) (value : Str) :
    ∃ es, (dbc.setString length a value).dbc = dbc.withErrors es := by
  unfold setString
  dsimp only
  split_ifs <;> exact ⟨_, rfl⟩

/-- **A call that reaches nothing but the connection changes the records at most.** -/
theorem call_withErrors {ctx : DbcContext} {c : DbcCall} {r : Returned} (hc : c.isLocal = true)
    (h : dbc.call ctx c = .ok r) : ∃ es, r.dbc = dbc.withErrors es := by
  cases c with
  | session _ | allocStmt _ _ | freeConnect | freeStmt _ _ => cases hc
  | allocUnsupported _ | freeUnsupported _ | transact | stub _ =>
    rw [← Except.ok.inj h]
    exact ⟨_, rfl⟩
  | getInfo infoType a =>
    rw [← Except.ok.inj h]
    unfold sqlGetInfo
    dsimp only
    split
    · exact ⟨_, rfl⟩
    · exact ⟨_, rfl⟩
    · obtain ⟨es, hes⟩ := @setString_withErrors dbc.clearErrors .smallint a _
      exact ⟨_, by rw [entered, hes]; rfl⟩
    · exact ⟨_, rfl⟩
  | getConnectAttr attr a =>
    obtain ⟨out, hout, rfl⟩ := map_eq_ok.mp h
    unfold sqlGetConnectAttr at hout
    dsimp only at hout
    split at hout
    · obtain ⟨es, hes⟩ := @setString_withErrors dbc.clearErrors .integer a _
      rw [← Except.ok.inj hout]
      exact ⟨_, by rw [entered, hes]; rfl⟩
    · split_ifs at hout
      rw [← Except.ok.inj hout]
      exact ⟨_, rfl⟩
    · split_ifs at hout
      rw [← Except.ok.inj hout]
      exact ⟨_, rfl⟩
    · rw [← Except.ok.inj hout]
      exact ⟨_, rfl⟩
  | getDiagField _ _ _ | getDiagRec _ _ | error _ =>
    obtain ⟨out, -, rfl⟩ := map_eq_ok.mp h
    exact ⟨_, rfl⟩

/-- **An open connection with statements refuses to connect and to disconnect.** -/
theorem uncaught_sameSession {build : Build} {ini : Ini} {answer : ServerAnswer} {c : ConnectCall}
    (hopen : dbc.mRetsSession.isSome) (hlisted : dbc.mStatements ≠ [])
    (hc : ∀ s args, c ≠ .driverConnect s args) :
    SameSession dbc (dbc.uncaught build ini answer c).dbc := by
  cases c with
  | connect dataSource userName authentication =>
    have hrefused : (dbc.uncaught build ini answer (.connect dataSource userName authentication)).dbc
        = dbc.clearErrors.addError "08002" "Connection already open".toList :=
      congrArg DbcOut.dbc (if_pos hopen)
    rw [hrefused]
    exact ⟨rfl, rfl, rfl⟩
  | driverConnect s args => exact absurd rfl (hc s args)
  | disconnect =>
    change SameSession dbc (dbc.sqlDisconnect answer).dbc
    unfold sqlDisconnect
    dsimp only
    have hsome : ¬ dbc.clearErrors.mRetsSession.isNone := by
      simpa [clearErrors, Option.isSome_iff_ne_none] using hopen
    have hnonempty : (!dbc.clearErrors.mStatements.isEmpty) = true := by
      simpa [clearErrors] using hlisted
    rw [if_neg hsome, if_pos hnonempty]
    exact ⟨rfl, rfl, rfl⟩

end RetsDBC

/-! ## What a call does to a live handle -/

namespace Handles

variable {hs hs' : Handles} {out : Outcome} {p q : Ptr}

/-- The statement `p` is as it was. -/
def StmtKept (p : Ptr) (hs hs' : Handles) : Prop :=
  ∀ s, hs.stmts p = some s → hs'.stmts p = some s

/-- The connection `q`, if it has a session and lists a statement, keeps both. -/
def DbcKept (q : Ptr) (hs hs' : Handles) : Prop :=
  ∀ d, hs.dbcs q = some d → d.dbc.mRetsSession.isSome → d.dbc.mStatements ≠ [] →
    ∃ d', hs'.dbcs q = some { d with dbc := d' } ∧ RetsDBC.SameSession d.dbc d'

theorem StmtKept.of_eq (h : hs'.stmts = hs.stmts) : StmtKept p hs hs' := by
  intro s hs
  rw [h, hs]

theorem StmtKept.update {p' : Ptr} {s' : Option LiveStmt} (hne : p' ≠ p) :
    StmtKept p hs (hs.setStmt p' s') := by
  intro s hs
  rw [← hs]
  exact Function.update_of_ne hne.symm _ _

theorem DbcKept.of_eq (h : hs'.dbcs = hs.dbcs) : DbcKept q hs hs' := by
  intro d hd _ _
  exact ⟨d.dbc, by rw [h, hd], .rfl⟩

/-- Another connection changes. -/
theorem DbcKept.update {q' : Ptr} {d' : Option LiveDbc} (hne : q' ≠ q) :
    DbcKept q hs (hs.setDbc q' d') := by
  intro d hd _ _
  exact ⟨d.dbc, (Function.update_of_ne hne.symm _ _).trans hd, .rfl⟩

/-- A connection changes and keeps its session. -/
theorem DbcKept.same {q' : Ptr} {d₁ : LiveDbc} {d' : RetsDBC} (hd₁ : hs.dbcs q' = some d₁)
    (hsame : d₁.dbc.mRetsSession.isSome → d₁.dbc.mStatements ≠ [] →
      RetsDBC.SameSession d₁.dbc d') :
    DbcKept q hs (hs.setDbc q' (some { d₁ with dbc := d' })) := by
  by_cases hq : q' = q
  · subst hq
    intro d hd hopen hlisted
    obtain rfl := Option.some.inj (hd₁.symm.trans hd)
    exact ⟨d', Function.update_self _ _ _, hsame hopen hlisted⟩
  · exact .update hq

theorem sqlAllocEnv_kept {environmentHandle : Ptr} {allocated : Except Str Ptr} :
    StmtKept p hs (hs.sqlAllocEnv environmentHandle allocated).handles ∧
      DbcKept q hs (hs.sqlAllocEnv environmentHandle allocated).handles := by
  unfold sqlAllocEnv
  split_ifs
  · exact ⟨.of_eq rfl, .of_eq rfl⟩
  · rcases allocated with what | p'
    · exact ⟨.of_eq rfl, .of_eq rfl⟩
    · exact ⟨.of_eq rfl, .of_eq rfl⟩

theorem sqlAllocConnect_kept {env connectionHandle : Ptr} {allocated : Except Str Ptr}
    (hfresh : hs.Vacant allocated)
    (h : hs.sqlAllocConnect env connectionHandle allocated = .ok out) :
    StmtKept p hs out.handles ∧ DbcKept q hs out.handles := by
  obtain ⟨e, he, h⟩ := bind_eq_ok.mp h
  rcases hcreated : created connectionHandle allocated with _ | p'
  · rw [hcreated] at h
    rw [← Except.ok.inj h]
    exact ⟨.of_eq rfl, .of_eq rfl⟩
  · rw [hcreated] at h
    rw [← Except.ok.inj h]
    refine ⟨.of_eq rfl, fun d hd => ?_⟩
    have hne : p' ≠ q := by
      rintro rfl
      rw [(hfresh p' (created_eq_some hcreated)).2.1] at hd
      cases hd
    exact DbcKept.update hne d hd

theorem sqlAllocStmt_kept {dbc statementHandle : Ptr} {allocated : Except Str Ptr}
    (hfresh : hs.Vacant allocated) (h : hs.sqlAllocStmt dbc statementHandle allocated = .ok out) :
    StmtKept p hs out.handles ∧ DbcKept q hs out.handles := by
  obtain ⟨d, hd, h⟩ := bind_eq_ok.mp h
  have hdbc : DbcKept q hs (hs.setDbc dbc
      (some { d with dbc := (d.dbc.sqlAllocStmt statementHandle allocated).dbc })) :=
    .same (deref_eq_ok.mp hd) fun _ _ => ⟨rfl, rfl, rfl⟩
  rcases hcreated : created statementHandle allocated with _ | p'
  · rw [hcreated] at h
    rw [← Except.ok.inj h]
    exact ⟨.of_eq rfl, hdbc⟩
  · rw [hcreated] at h
    rw [← Except.ok.inj h]
    refine ⟨fun s hst => ?_, hdbc⟩
    have hne : p' ≠ p := by
      rintro rfl
      rw [(hfresh p' (created_eq_some hcreated)).2.2] at hst
      cases hst
    exact StmtKept.update hne s hst

theorem sqlFreeEnv_kept {env : Ptr} (h : hs.sqlFreeEnv env = .ok out) :
    StmtKept p hs out.handles ∧ DbcKept q hs out.handles := by
  obtain ⟨e, he, h⟩ := bind_eq_ok.mp h
  rw [← Except.ok.inj h]
  dsimp only
  split_ifs
  · exact ⟨.of_eq rfl, .of_eq rfl⟩
  · exact ⟨.of_eq rfl, .of_eq rfl⟩

theorem sqlFreeConnect_kept {dbc : Ptr} (h : hs.sqlFreeConnect dbc = .ok out) :
    StmtKept p hs out.handles ∧ DbcKept q hs out.handles := by
  obtain ⟨d, hd, h⟩ := bind_eq_ok.mp h
  obtain ⟨e, he, h⟩ := bind_eq_ok.mp h
  rw [← Except.ok.inj h]
  dsimp only
  split_ifs with hfree
  · refine ⟨.of_eq rfl, fun d₁ hd₁ hopen => ?_⟩
    have hne : dbc ≠ q := by
      rintro rfl
      obtain rfl := Option.some.inj ((deref_eq_ok.mp hd).symm.trans hd₁)
      have hclosed := (Bool.and_eq_true_iff.mp hfree).1
      rw [Option.isNone_iff_eq_none.mp hclosed] at hopen
      cases hopen
    exact DbcKept.update hne d₁ hd₁ hopen
  · exact ⟨.of_eq rfl, .of_eq rfl⟩

theorem sqlFreeStmt_dbcKept {stmt : Ptr} {option : Nat}
    (h : hs.sqlFreeStmt stmt option = .ok out) : DbcKept q hs out.handles := by
  obtain ⟨s, hst, h⟩ := bind_eq_ok.mp h
  obtain ⟨d, hd, h⟩ := bind_eq_ok.mp h
  have hsame : RetsDBC.SameSession d.dbc (d.dbc.sqlFreeStmt stmt option).dbc := by
    unfold RetsDBC.sqlFreeStmt
    dsimp only
    split_ifs
    · exact ⟨rfl, rfl, rfl⟩
    · exact ⟨rfl, rfl, rfl⟩
  have hdbc : DbcKept q hs (hs.setDbc s.mDbc
      (some { d with dbc := (d.dbc.sqlFreeStmt stmt option).dbc })) :=
    .same (deref_eq_ok.mp hd) fun _ _ => hsame
  by_cases hdrop : option = 1
  · rw [if_pos hdrop] at h
    rw [← Except.ok.inj h]
    exact hdbc
  · rw [if_neg hdrop] at h
    obtain ⟨unbound, -, h⟩ := bind_eq_ok.mp h
    rw [← Except.ok.inj h]
    exact hdbc

theorem sqlFreeStmt_stmtKept {stmt : Ptr} {option : Nat} (hne : stmt ≠ p)
    (h : hs.sqlFreeStmt stmt option = .ok out) : StmtKept p hs out.handles := by
  obtain ⟨s, hst, h⟩ := bind_eq_ok.mp h
  obtain ⟨d, hd, h⟩ := bind_eq_ok.mp h
  by_cases hdrop : option = 1
  · rw [if_pos hdrop] at h
    rw [← Except.ok.inj h]
    exact StmtKept.update hne
  · rw [if_neg hdrop] at h
    obtain ⟨unbound, -, h⟩ := bind_eq_ok.mp h
    rw [← Except.ok.inj h]
    exact StmtKept.update hne

theorem session_stmtKept {dbc : Ptr} {ctx : DbcContext} {c : RetsDBC.ConnectCall}
    (h : hs.session dbc ctx c = .ok out) : StmtKept p hs out.handles := by
  obtain ⟨d, -, h⟩ := bind_eq_ok.mp h
  obtain ⟨e, -, h⟩ := bind_eq_ok.mp h
  obtain ⟨r, -, h⟩ := bind_eq_ok.mp h
  rw [← Except.ok.inj h]
  exact .of_eq rfl

theorem session_dbcKept {dbc : Ptr} {ctx : DbcContext} {c : RetsDBC.ConnectCall}
    (hc : ∀ s args, c = .driverConnect s args → dbc ≠ q) (h : hs.session dbc ctx c = .ok out) :
    DbcKept q hs out.handles := by
  obtain ⟨d, hd, h⟩ := bind_eq_ok.mp h
  obtain ⟨e, -, h⟩ := bind_eq_ok.mp h
  obtain ⟨r, hr, h⟩ := bind_eq_ok.mp h
  rw [← Except.ok.inj h]
  by_cases hq : dbc = q
  · refine .same (deref_eq_ok.mp hd) fun hopen hlisted => ?_
    obtain ⟨h1, h2, h3⟩ := @RetsDBC.uncaught_sameSession d.dbc ctx.build ctx.ini ctx.answer c hopen
      hlisted fun s args hcall => hc s args hcall hq
    rw [← Except.ok.inj (inside_eq_ok.mp hr)]
    exact ⟨h1, h2, h3⟩
  · exact .update hq

theorem onEnv_kept {env : Ptr} {c : EnvCall} (h : hs.onEnv env c = .ok out) :
    StmtKept p hs out.handles ∧ DbcKept q hs out.handles := by
  obtain ⟨e, -, h⟩ := bind_eq_ok.mp h
  obtain ⟨r, -, h⟩ := bind_eq_ok.mp h
  rw [← Except.ok.inj h]
  exact ⟨.of_eq rfl, .of_eq rfl⟩

theorem onDbc_kept {dbc : Ptr} {ctx : DbcContext} {c : DbcCall} (hc : c.isLocal = true)
    (h : hs.onDbc dbc ctx c = .ok out) :
    StmtKept p hs out.handles ∧ DbcKept q hs out.handles := by
  obtain ⟨d, hd, h⟩ := bind_eq_ok.mp h
  obtain ⟨e, -, h⟩ := bind_eq_ok.mp h
  obtain ⟨r, hr, h⟩ := bind_eq_ok.mp h
  rw [← Except.ok.inj h]
  obtain ⟨es, hes⟩ := RetsDBC.call_withErrors hc (inside_eq_ok.mp hr)
  refine ⟨.of_eq rfl, .same (deref_eq_ok.mp hd) fun _ _ => ?_⟩
  rw [hes]
  exact RetsDBC.sameSession_withErrors es

theorem onStmt_dbcKept {stmt : Ptr} {inputs : StmtInputs} {c : StmtEntry}
    (h : hs.onStmt stmt inputs c = .ok out) : DbcKept q hs out.handles := by
  obtain ⟨s, -, h⟩ := bind_eq_ok.mp h
  obtain ⟨d, -, h⟩ := bind_eq_ok.mp h
  obtain ⟨r, -, h⟩ := bind_eq_ok.mp h
  rw [← Except.ok.inj h]
  exact .of_eq rfl

theorem onStmt_stmtKept {stmt : Ptr} {inputs : StmtInputs} {c : StmtEntry} (hne : stmt ≠ p)
    (h : hs.onStmt stmt inputs c = .ok out) : StmtKept p hs out.handles := by
  obtain ⟨s, -, h⟩ := bind_eq_ok.mp h
  obtain ⟨d, -, h⟩ := bind_eq_ok.mp h
  obtain ⟨r, -, h⟩ := bind_eq_ok.mp h
  rw [← Except.ok.inj h]
  exact .update hne

theorem onDesc_dbcKept {stmt : Ptr} {desc : DescriptorType} {c : DescCall}
    (h : hs.onDesc stmt desc c = .ok out) : DbcKept q hs out.handles := by
  obtain ⟨s, -, h⟩ := bind_eq_ok.mp h
  obtain ⟨d, -, h⟩ := bind_eq_ok.mp h
  obtain ⟨r, -, h⟩ := bind_eq_ok.mp h
  rw [← Except.ok.inj h]
  exact .of_eq rfl

theorem onDesc_stmtKept {stmt : Ptr} {desc : DescriptorType} {c : DescCall} (hne : stmt ≠ p)
    (h : hs.onDesc stmt desc c = .ok out) : StmtKept p hs out.handles := by
  obtain ⟨s, -, h⟩ := bind_eq_ok.mp h
  obtain ⟨d, -, h⟩ := bind_eq_ok.mp h
  obtain ⟨r, -, h⟩ := bind_eq_ok.mp h
  rw [← Except.ok.inj h]
  exact .update hne

/-- A call on a null handle changes nothing. -/
theorem checked_eq_ok {x : Except HandleFault Outcome} (h : hs.checked p x = .ok out) :
    out = hs.returns .invalidHandle ∨ x = .ok out := by
  unfold checked at h
  split_ifs at h
  · exact .inl (Except.ok.inj h).symm
  · exact .inr h

theorem returns_kept {result : SqlReturn} :
    StmtKept p hs (hs.returns result).handles ∧ DbcKept q hs (hs.returns result).handles :=
  ⟨.of_eq rfl, .of_eq rfl⟩

/-! ## The handles that others point back to -/

theorem WellLinked.env_ne_none (h : hs.WellLinked) {d : LiveDbc} (hd : hs.dbcs q = some d) :
    hs.envs d.mEnv ≠ none := by
  intro hnone
  obtain ⟨l, hl, -⟩ := h.connections.listed (dbcOwner_of hd)
  rw [envChildren_none hnone] at hl
  cases hl

theorem WellLinked.dbc_ne_none (h : hs.WellLinked) {s : LiveStmt} (hst : hs.stmts p = some s) :
    hs.dbcs s.mDbc ≠ none := by
  intro hnone
  obtain ⟨l, hl, -⟩ := h.statements.listed (stmtOwner_of hst)
  rw [dbcChildren_none hnone] at hl
  cases hl

end Handles

/-! ## The calls on one statement -/

/-- A call on a given statement. -/
inductive StmtOp
  | stmt (inputs : StmtInputs) (c : StmtEntry)
  | desc (desc : DescriptorType) (c : DescCall)
  | freeStmt (option : Nat)

/-- What a statement of the connection `dbc` answers, and the statement after the call. -/
def StmtOp.answer (dbc : RetsDBC) (op : StmtOp) (stmt : RetsSTMT) :
    Except Fault (RetsSTMT × DriverCall.Answer) :=
  match op with
  | .stmt inputs c => (stmt.enter (dbc.context inputs) c).map fun r => (r.stmt, r.result, r.writes)
  | .desc d c => (stmt.enterDesc d c).map fun r => (r.stmt, r.result, r.writes)
  | .freeStmt option => (stmt.sqlFreeStmt option).map fun out => (out.stmt, .success, [])

/-- A statement sees the session of its connection only. -/
theorem StmtOp.answer_congr {dbc dbc' : RetsDBC} (h : RetsDBC.SameSession dbc dbc') (op : StmtOp) :
    op.answer dbc' = op.answer dbc := by
  cases op with
  | stmt inputs c =>
    funext stmt
    rw [StmtOp.answer, StmtOp.answer, h.context_eq]
  | desc d c => rfl
  | freeStmt option => rfl

namespace DriverCall

open Handles

variable {hs hs' : Handles} {out : Outcome} {p q : Ptr}

/-- The call, if it is one on the statement `p`. -/
def own (p : Ptr) : DriverCall → Option StmtOp
  | .stmt p' inputs c => if p' = p then some (.stmt inputs c) else none
  | .desc p' d c => if p' = p then some (.desc d c) else none
  | .freeStmt p' option => if p' = p then some (.freeStmt option) else none
  | _ => none

/-- The call does not drop the statement `p` and is no `SQLDriverConnect` on the connection `q`. -/
def Spares (p q : Ptr) : DriverCall → Prop
  | .freeHandle handleType p' => handleType = 3 → p' ≠ p
  | .freeStmt p' option => p' = p → option ≠ 1
  | .session q' _ c => ∀ s args, c = .driverConnect s args → q' ≠ q
  | _ => True

/-- A call on the environment, a connection or another statement. -/
theorem call_kept {c : DriverCall} (hfresh : c.Fresh hs) (hspares : c.Spares p q)
    (hown : c.own p = none) (h : c.call hs = .ok out) :
    StmtKept p hs out.handles ∧ DbcKept q hs out.handles := by
  cases c with
  | allocHandle handleType input output allocated =>
    change hs.sqlAllocHandle handleType input output allocated = .ok out at h
    unfold sqlAllocHandle at h
    split at h
    · rw [← Except.ok.inj h]
      exact sqlAllocEnv_kept
    · exact sqlAllocConnect_kept hfresh h
    · exact sqlAllocStmt_kept hfresh h
    · rw [← Except.ok.inj h]
      exact returns_kept
  | allocEnv environmentHandle allocated =>
    rw [← Except.ok.inj h]
    exact sqlAllocEnv_kept
  | allocConnect env handle allocated =>
    rcases checked_eq_ok h with rfl | h
    · exact returns_kept
    · exact sqlAllocConnect_kept hfresh h
  | allocStmt dbc handle allocated =>
    rcases checked_eq_ok h with rfl | h
    · exact returns_kept
    · exact sqlAllocStmt_kept hfresh h
  | freeHandle handleType handle =>
    rcases checked_eq_ok h with rfl | h
    · exact returns_kept
    unfold sqlFreeHandle at h
    split at h
    · exact sqlFreeEnv_kept h
    · exact sqlFreeConnect_kept h
    · exact ⟨sqlFreeStmt_stmtKept (hspares rfl) h, sqlFreeStmt_dbcKept h⟩
    · rw [← Except.ok.inj h]
      exact returns_kept
  | freeEnv env =>
    rcases checked_eq_ok h with rfl | h
    · exact returns_kept
    · exact sqlFreeEnv_kept h
  | freeConnect dbc =>
    rcases checked_eq_ok h with rfl | h
    · exact returns_kept
    · exact sqlFreeConnect_kept h
  | freeStmt stmt option =>
    have hne : stmt ≠ p := by
      intro heq
      rw [own, if_pos heq] at hown
      cases hown
    rcases checked_eq_ok h with rfl | h
    · exact returns_kept
    · exact ⟨sqlFreeStmt_stmtKept hne h, sqlFreeStmt_dbcKept h⟩
  | session dbc ctx c =>
    rcases checked_eq_ok h with rfl | h
    · exact returns_kept
    · exact ⟨session_stmtKept h, session_dbcKept hspares h⟩
  | env env c =>
    change (if env = 0 then .ok (hs.returns c.val.nullResult) else hs.onEnv env c) = .ok out at h
    split_ifs at h
    · rw [← Except.ok.inj h]
      exact returns_kept
    · exact onEnv_kept h
  | dbc dbc ctx c =>
    change (if dbc = 0 then .ok (hs.returns c.val.nullResult) else hs.onDbc dbc ctx c) = .ok out at h
    split_ifs at h
    · rw [← Except.ok.inj h]
      exact returns_kept
    · exact onDbc_kept c.property h
  | stmt stmt inputs c =>
    have hne : stmt ≠ p := by
      intro heq
      rw [own, if_pos heq] at hown
      cases hown
    change (if stmt = 0 then .ok (hs.returns c.val.nullResult) else hs.onStmt stmt inputs c)
      = .ok out at h
    split_ifs at h
    · rw [← Except.ok.inj h]
      exact returns_kept
    · exact ⟨onStmt_stmtKept hne h, onStmt_dbcKept h⟩
  | desc stmt d c =>
    have hne : stmt ≠ p := by
      intro heq
      rw [own, if_pos heq] at hown
      cases hown
    exact ⟨onDesc_stmtKept hne h, onDesc_dbcKept h⟩

/-- A call on a statement is one of three. -/
theorem own_cases {c : DriverCall} {op : StmtOp} (h : c.own p = some op) :
    (∃ inputs e, c = .stmt p inputs e ∧ op = .stmt inputs e) ∨
      (∃ d e, c = .desc p d e ∧ op = .desc d e) ∨
      ∃ option, c = .freeStmt p option ∧ op = .freeStmt option := by
  cases c with
  | stmt p' inputs e =>
    simp only [own, Option.ite_none_right_eq_some, Option.some.injEq] at h
    obtain ⟨rfl, rfl⟩ := h
    exact .inl ⟨inputs, e, rfl, rfl⟩
  | desc p' d e =>
    simp only [own, Option.ite_none_right_eq_some, Option.some.injEq] at h
    obtain ⟨rfl, rfl⟩ := h
    exact .inr (.inl ⟨d, e, rfl, rfl⟩)
  | freeStmt p' option =>
    simp only [own, Option.ite_none_right_eq_some, Option.some.injEq] at h
    obtain ⟨rfl, rfl⟩ := h
    exact .inr (.inr ⟨option, rfl, rfl⟩)
  | _ => cases h

/-- **A call on the statement is answered as its connection and the statement alone answer it.**
Only a call on a descriptor comes without the handle of the statement. -/
theorem call_own {c : DriverCall} {op : StmtOp} {s : LiveStmt} {d : LiveDbc}
    (hp : (∀ e c', op ≠ .desc e c') → p ≠ 0) (hspares : c.Spares p q) (hown : c.own p = some op)
    (hst : hs.stmts p = some s) (hd : hs.dbcs s.mDbc = some d) (h : c.call hs = .ok out) :
    ∃ s', op.answer d.dbc s.stmt = .ok (s', out.result, out.writes) ∧
      out.handles.stmts p = some { s with stmt := s' } ∧ DbcKept q hs out.handles := by
  obtain ⟨inputs, c, rfl, rfl⟩ | ⟨e, c, rfl, rfl⟩ | ⟨option, rfl, rfl⟩ := own_cases hown
  · have hne : p ≠ 0 := hp fun _ _ heq => nomatch heq
    have h : hs.onStmt p inputs c = .ok out := (if_neg hne).symm.trans h
    have hkept : DbcKept q hs out.handles := onStmt_dbcKept h
    obtain ⟨s₁, hs₁, h⟩ := bind_eq_ok.mp h
    obtain ⟨d₁, hd₁, h⟩ := bind_eq_ok.mp h
    obtain rfl := Option.some.inj ((deref_eq_ok.mp hs₁).symm.trans hst)
    obtain rfl := Option.some.inj ((deref_eq_ok.mp hd₁).symm.trans hd)
    obtain ⟨r, hr, h⟩ := bind_eq_ok.mp h
    refine ⟨r.stmt, ?_, ?_, hkept⟩
    · rw [StmtOp.answer, inside_eq_ok.mp hr, ← Except.ok.inj h]
      rfl
    · rw [← Except.ok.inj h]
      exact Function.update_self _ _ _
  · have h : hs.onDesc p e c = .ok out := h
    have hkept : DbcKept q hs out.handles := onDesc_dbcKept h
    obtain ⟨s₁, hs₁, h⟩ := bind_eq_ok.mp h
    obtain ⟨d₁, hd₁, h⟩ := bind_eq_ok.mp h
    obtain rfl := Option.some.inj ((deref_eq_ok.mp hs₁).symm.trans hst)
    obtain ⟨r, hr, h⟩ := bind_eq_ok.mp h
    refine ⟨r.stmt, ?_, ?_, hkept⟩
    · rw [StmtOp.answer, inside_eq_ok.mp hr, ← Except.ok.inj h]
      rfl
    · rw [← Except.ok.inj h]
      exact Function.update_self _ _ _
  · have hdrop : option ≠ 1 := hspares rfl
    have hne : p ≠ 0 := hp fun _ _ heq => nomatch heq
    have h : hs.sqlFreeStmt p option = .ok out := (if_neg hne).symm.trans h
    have hkept : DbcKept q hs out.handles := sqlFreeStmt_dbcKept h
    obtain ⟨s₁, hs₁, h⟩ := bind_eq_ok.mp h
    obtain ⟨d₁, hd₁, h⟩ := bind_eq_ok.mp h
    obtain rfl := Option.some.inj ((deref_eq_ok.mp hs₁).symm.trans hst)
    obtain rfl := Option.some.inj ((deref_eq_ok.mp hd₁).symm.trans hd)
    rw [if_neg hdrop] at h
    obtain ⟨unbound, hunbound, h⟩ := bind_eq_ok.mp h
    have hresult : d₁.dbc.sqlFreeStmt p option = d₁.dbc.clearErrors.returns .success :=
      if_neg hdrop
    rw [hresult] at h
    refine ⟨unbound.stmt, ?_, ?_, hkept⟩
    · rw [StmtOp.answer, inside_eq_ok.mp hunbound, ← Except.ok.inj h]
      rfl
    · rw [← Except.ok.inj h]
      exact Function.update_self _ _ _

/-! ## The tree of the handles -/

/-- A statement changes and its connection does not. -/
theorem treeStep_setStmt {s : LiveStmt} {d : LiveDbc} {s' : RetsSTMT} (hst : hs.stmts p = some s)
    (hd : hs.dbcs s.mDbc = some d) : hs.TreeStep (hs.setStmt p (some { s with stmt := s' })) := by
  have hstep : hs.TreeStep ((hs.setDbc s.mDbc (some { d with dbc := d.dbc })).setStmt p
      (some { s with stmt := s' })) := .stmt hst hd rfl
  have hsame : hs.setDbc s.mDbc (some { d with dbc := d.dbc }) = hs := by
    unfold setDbc
    rw [← hd, Function.update_eq_self]
  rw [hsame] at hstep
  exact hstep

/-- **Every call adds a node, drops one, or leaves the lists as they are.** -/
theorem treeStep {c : DriverCall} (hfresh : c.Fresh hs) (h : c.call hs = .ok out) :
    hs.TreeStep out.handles := by
  cases c with
  | allocHandle handleType input output allocated =>
    exact @call_step hs out (.allocHandle _ _ _ _) hfresh h
  | allocEnv environmentHandle allocated => exact @call_step hs out (.allocEnv _ _) hfresh h
  | allocConnect env handle allocated =>
    rcases checked_eq_ok h with rfl | h
    · exact .same
    · exact sqlAllocConnect_step hfresh h
  | allocStmt dbc handle allocated =>
    rcases checked_eq_ok h with rfl | h
    · exact .same
    · exact sqlAllocStmt_step hfresh h
  | freeHandle handleType handle =>
    rcases checked_eq_ok h with rfl | h
    · exact .same
    · exact @call_step hs out (.freeHandle _ _) trivial h
  | freeEnv env =>
    rcases checked_eq_ok h with rfl | h
    · exact .same
    · exact sqlFreeEnv_step h
  | freeConnect dbc =>
    rcases checked_eq_ok h with rfl | h
    · exact .same
    · exact sqlFreeConnect_step h
  | freeStmt stmt option =>
    rcases checked_eq_ok h with rfl | h
    · exact .same
    · exact sqlFreeStmt_step h
  | session dbc ctx c =>
    rcases checked_eq_ok h with rfl | h
    · exact .same
    · exact session_step h
  | env env c =>
    change (if env = 0 then .ok (hs.returns c.val.nullResult) else hs.onEnv env c) = .ok out at h
    split_ifs at h
    · rw [← Except.ok.inj h]
      exact .same
    · obtain ⟨e, he, h⟩ := bind_eq_ok.mp h
      obtain ⟨r, hr, h⟩ := bind_eq_ok.mp h
      rw [← Except.ok.inj h]
      exact .env (deref_eq_ok.mp he) (RetsENV.call_children c.property (inside_eq_ok.mp hr))
  | dbc dbc ctx c =>
    change (if dbc = 0 then .ok (hs.returns c.val.nullResult) else hs.onDbc dbc ctx c) = .ok out at h
    split_ifs at h
    · rw [← Except.ok.inj h]
      exact .same
    · obtain ⟨d, hd, h⟩ := bind_eq_ok.mp h
      obtain ⟨e, -, h⟩ := bind_eq_ok.mp h
      obtain ⟨r, hr, h⟩ := bind_eq_ok.mp h
      obtain ⟨es, hes⟩ := RetsDBC.call_withErrors c.property (inside_eq_ok.mp hr)
      rw [← Except.ok.inj h, hes]
      exact .dbc (deref_eq_ok.mp hd) rfl
  | stmt stmt inputs c =>
    change (if stmt = 0 then .ok (hs.returns c.val.nullResult) else hs.onStmt stmt inputs c)
      = .ok out at h
    split_ifs at h
    · rw [← Except.ok.inj h]
      exact .same
    · obtain ⟨s, hst, h⟩ := bind_eq_ok.mp h
      obtain ⟨d, hd, h⟩ := bind_eq_ok.mp h
      obtain ⟨r, -, h⟩ := bind_eq_ok.mp h
      rw [← Except.ok.inj h]
      exact treeStep_setStmt (deref_eq_ok.mp hst) (deref_eq_ok.mp hd)
  | desc stmt e c =>
    obtain ⟨s, hst, h⟩ := bind_eq_ok.mp h
    obtain ⟨d, hd, h⟩ := bind_eq_ok.mp h
    obtain ⟨r, -, h⟩ := bind_eq_ok.mp h
    rw [← Except.ok.inj h]
    exact treeStep_setStmt (deref_eq_ok.mp hst) (deref_eq_ok.mp hd)

theorem answer_of_call {c : DriverCall} (h : c.call hs = .ok out) :
    answer c hs = .ok (out.handles, out.result, out.writes) := congrArg (Except.map _) h

theorem wellLinked_answer {c : DriverCall} {a : Answer} (hfresh : c.Fresh hs)
    (hlinked : hs.WellLinked) (h : answer c hs = .ok (hs', a)) : hs'.WellLinked := by
  obtain ⟨out, hout, heq⟩ := map_eq_ok.mp h
  obtain ⟨rfl, -⟩ := Prod.ext_iff.mp heq
  exact hlinked.treeStep (treeStep hfresh hout)

/-- The trees that the calls of a driver build. -/
theorem wellLinked_run {calls : List DriverCall} (hfresh : Meets step Fresh calls hs)
    (hlinked : hs.WellLinked) (h : run calls hs = .ok hs') : hs'.WellLinked := by
  refine hfresh.invariant (I := WellLinked) ?_ hlinked h
  intro c _ hs₁ hs₂ hc hlinked hstep
  obtain ⟨⟨hs₂, a⟩, hanswer, rfl⟩ := map_eq_ok.mp hstep
  exact wellLinked_answer hc hlinked hanswer

theorem wellLinked_empty : WellLinked empty := ⟨Ownership.linked_empty, Ownership.linked_empty⟩

/-! ## A statement and its connection in a run -/

/-- The statement `p` is in the state `stmt`, and its connection `q`, which lists it, has the session
of `dbc`. -/
structure Serves (p q : Ptr) (dbc : RetsDBC) (hs : Handles) (stmt : RetsSTMT) : Prop where
  linked : hs.WellLinked
  live : hs.stmts p = some ⟨q, stmt⟩
  connection : ∃ d, hs.dbcs q = some d ∧ RetsDBC.SameSession dbc d.dbc

/-- A connection that has a live statement lists it. -/
theorem listed_of_live {s : LiveStmt} {d : LiveDbc} (hlinked : hs.WellLinked)
    (hst : hs.stmts p = some s) (hd : hs.dbcs s.mDbc = some d) : d.dbc.mStatements ≠ [] := by
  obtain ⟨l, hl, hcount⟩ := hlinked.statements.listed (stmtOwner_of hst)
  obtain rfl := Option.some.inj ((dbcChildren_of hd).symm.trans hl)
  intro hnil
  rw [hnil] at hcount
  cases hcount

/-- The connection of a served statement after a call. -/
theorem Serves.connection_of_kept {dbc : RetsDBC} {stmt : RetsSTMT} (h : Serves p q dbc hs stmt)
    (hopen : dbc.mRetsSession.isSome) (hkept : DbcKept q hs hs') :
    ∃ d, hs'.dbcs q = some d ∧ RetsDBC.SameSession dbc d.dbc := by
  obtain ⟨d, hd, hsame⟩ := h.connection
  have hopen' : d.dbc.mRetsSession.isSome := by rw [hsame.session]; exact hopen
  obtain ⟨d', hd', hsame'⟩ := hkept d hd hopen' (listed_of_live h.linked h.live hd)
  exact ⟨_, hd', hsame'.session.trans hsame.session, hsame'.view.trans hsame.view,
    hsame'.settings.trans hsame.settings⟩

/-- A statement of an open connection is a component of the driver. -/
theorem embeds {dbc : RetsDBC} (hp : p ≠ 0) (hopen : dbc.mRetsSession.isSome) :
    Component.Embeds answer (StmtOp.answer dbc) (own p) (fun c hs => c.Fresh hs ∧ c.Spares p q)
      (Serves p q dbc) where
  owned := by
    intro c hs op stmt hs' r hown hc hserves h
    obtain ⟨out, hout, heq⟩ := map_eq_ok.mp h
    obtain ⟨rfl, rfl⟩ := Prod.ext_iff.mp heq
    obtain ⟨d, hd, hsame⟩ := hserves.connection
    obtain ⟨s', hs', hlive, hkept⟩ := call_own (fun _ => hp) hc.2 hown hserves.live hd hout
    rw [StmtOp.answer_congr hsame] at hs'
    exact ⟨s', hs', hserves.linked.treeStep (treeStep hc.1 hout), hlive,
      hserves.connection_of_kept hopen hkept⟩
  other := by
    intro c hs stmt hs' r hown hc hserves h
    obtain ⟨out, hout, heq⟩ := map_eq_ok.mp h
    obtain ⟨rfl, rfl⟩ := Prod.ext_iff.mp heq
    obtain ⟨hstmt, hdbc⟩ := call_kept (q := q) hc.1 hc.2 hown hout
    exact ⟨hserves.linked.treeStep (treeStep hc.1 hout), hstmt _ hserves.live,
      hserves.connection_of_kept hopen hdbc⟩

/-- **A statement of an open connection answers its calls as if they were the only ones of the
application, and the connection keeps its session**, while no call opens the debug log. -/
theorem answersAlone_of_trace {before calls : List DriverCall} {stmt : RetsSTMT} {d : LiveDbc}
    {rs : List Answer} (hbefore : Meets step (fun c hs => c.Fresh hs ∧ c.Quiet hs) before empty)
    (hreach : run before empty = .ok hs)
    (hp : p ≠ 0) (hst : hs.stmts p = some ⟨q, stmt⟩) (hd : hs.dbcs q = some d)
    (hopen : d.dbc.mRetsSession.isSome)
    (hcalls : Meets step (fun c hs => c.Fresh hs ∧ c.Quiet hs ∧ c.Spares p q) calls hs)
    (htrace : Component.trace answer calls hs = .ok (hs', rs)) :
    ∃ stmt', Component.trace (StmtOp.answer d.dbc) (calls.filterMap (own p)) stmt =
        .ok (stmt', Component.ownAnswers (own p) calls rs) ∧
      hs'.stmts p = some ⟨q, stmt'⟩ ∧
      ∃ d', hs'.dbcs q = some d' ∧ RetsDBC.SameSession d.dbc d'.dbc := by
  have hfresh : Meets step Fresh before empty := hbefore.mono fun _ _ h => h.1
  have hspares : Meets step (fun c hs => c.Fresh hs ∧ c.Spares p q) calls hs :=
    hcalls.mono fun _ _ h => ⟨h.1, h.2.2⟩
  have hlinked : hs.WellLinked := wellLinked_run hfresh wellLinked_empty hreach
  obtain ⟨stmt', hanswers, hserves⟩ :=
    (embeds hp hopen).trace hspares ⟨hlinked, hst, d, hd, .rfl⟩ htrace
  exact ⟨stmt', hanswers, hserves.live, hserves.connection⟩

/-- No table is known to the compiler, and the application's memory is zero. -/
def zeroInputs : StmtInputs where
  sqlToDmql _ := .ok .other
  search _ := .error .unknown
  getObject _ := .error .unknown
  deref _ := 0
  descriptor _ := 0

/-- A connection is opened and gets a statement. -/
def openingCalls : List DriverCall :=
  [.allocEnv 1 (.ok 8), .allocConnect 8 2 (.ok 16),
    .session 16 RetsDBC.acceptingContext (.connect "site".toList none none),
    .allocStmt 16 3 (.ok 24)]

/-- The statement lists the types and fetches one, among the calls on a second statement and an
attempt to disconnect. -/
def mixedCalls : List DriverCall :=
  [.allocStmt 16 4 (.ok 32), .stmt 24 zeroInputs ⟨.call (.getTypeInfo 0), rfl⟩,
    .session 16 RetsDBC.acceptingContext .disconnect,
    .stmt 32 zeroInputs ⟨.call (.numParams 5), rfl⟩, .stmt 24 zeroInputs ⟨.call .fetch, rfl⟩]

theorem vacant_ok {p : Ptr} (henv : hs.envs p = none) (hdbc : hs.dbcs p = none)
    (hstmt : hs.stmts p = none) : hs.Vacant (.ok p) := by
  intro q hq
  obtain rfl := Except.ok.inj hq
  exact ⟨henv, hdbc, hstmt⟩

/-- The settings of the data source ask for no debug log. -/
theorem quiet_openingCalls :
    Meets step (fun c hs => c.Fresh hs ∧ c.Quiet hs) openingCalls empty := by
  refine ⟨⟨vacant_ok rfl rfl rfl, trivial⟩, fun hs₁ h₁ => ?_⟩
  obtain rfl := Except.ok.inj h₁
  refine ⟨⟨vacant_ok rfl rfl rfl, trivial⟩, fun hs₂ h₂ => ?_⟩
  obtain rfl := Except.ok.inj h₂
  refine ⟨⟨trivial, fun d hd _ => ?_⟩, fun hs₃ h₃ => ?_⟩
  · obtain rfl := Option.some.inj hd
    rfl
  obtain rfl := Except.ok.inj h₃
  exact ⟨⟨vacant_ok rfl rfl rfl, trivial⟩, fun _ _ => trivial⟩

theorem fresh_openingCalls : Meets step Fresh openingCalls empty :=
  quiet_openingCalls.mono fun _ _ h => h.1

theorem answersAlone_mixed : ∃ hs d stmt hs' rs stmt',
    run openingCalls empty = .ok hs ∧ hs.dbcs 16 = some d ∧ hs.stmts 24 = some ⟨16, stmt⟩ ∧
      Component.trace answer mixedCalls hs = .ok (hs', rs) ∧
      Component.trace (StmtOp.answer d.dbc) (mixedCalls.filterMap (own 24)) stmt =
        .ok (stmt', Component.ownAnswers (own 24) mixedCalls rs) := by
  have hreach : run openingCalls empty = .ok _ := rfl
  have hcalls : ∀ {hs : Handles}, run openingCalls empty = .ok hs →
      Meets step (fun c hs => c.Fresh hs ∧ c.Quiet hs ∧ c.Spares 24 16) mixedCalls hs := by
    intro hs h
    obtain rfl := Except.ok.inj h
    refine ⟨⟨vacant_ok rfl rfl rfl, trivial, trivial⟩, fun _ _ => ?_⟩
    refine ⟨⟨trivial, trivial, trivial⟩, fun _ _ => ?_⟩
    refine ⟨⟨trivial, fun _ _ hc => absurd rfl hc, fun _ _ hc => nomatch hc⟩, fun _ _ => ?_⟩
    exact ⟨⟨trivial, trivial, trivial⟩, fun _ _ =>
      ⟨⟨trivial, trivial, trivial⟩, fun _ _ => trivial⟩⟩
  obtain ⟨stmt', hanswers, -⟩ :=
    answersAlone_of_trace quiet_openingCalls hreach (by decide) rfl rfl rfl (hcalls hreach) rfl
  exact ⟨_, _, _, _, _, stmt', hreach, rfl, rfl, rfl, hanswers⟩

end DriverCall

end EzRets
