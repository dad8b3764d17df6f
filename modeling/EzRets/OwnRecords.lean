import EzRets.Bindings
import EzRets.HandleCalls
import EzRets.Lib.RecordLog

/-!
# EzRets.OwnRecords — whose records a handle has after a call

Most functions begin with `mErrors.clear()`.  The stubs, the descriptor functions, the handle
functions for unknown types and a few calls that cannot fail do not, and keep the records of the
calls before them.
-/

namespace EzRets

open FaultRun RecordLog

/-! ## The calls that clear the records -/

def EnvCall.clears : EnvCall → Bool
  | .allocConnect _ _ | .getEnvAttr _ _ | .setEnvAttr _ _ => true
  | _ => false

def DbcCall.clears : DbcCall → Bool
  | .session _ | .allocStmt _ _ | .getInfo _ _ | .getConnectAttr _ _ => true
  | _ => false

/-- Of the implemented calls that count, three do not clear. -/
def StmtEntry.clears : StmtEntry → Bool
  | .call (.freeStmt _) | .call .moreResults | .call .cancel => false
  | .call c => StmtEntry.counts (.call c)
  | _ => false

namespace HandleKind

open RetsSTMT (idleContext)

/-- The call begins with `mErrors.clear()`; none on a descriptor does. -/
def Clears : (h : HandleKind) → h.Call → Prop
  | env, c => EnvCall.clears c = true
  | dbc, c => DbcCall.clears c.2 = true
  | stmt, c => StmtEntry.clears c.2 = true
  | desc, _ => False

/-- The records as a log. -/
def log : (h : HandleKind) → Log h.State Error
  | env => ⟨env.mErrors, env.clearErrors, fun _ => rfl⟩
  | dbc => ⟨dbc.mErrors, dbc.clearErrors, fun _ => rfl⟩
  | stmt => ⟨stmt.mErrors, stmt.clearErrors, fun _ => rfl⟩
  | desc => ⟨desc.mErrors, desc.clearErrors, fun _ => rfl⟩

/-- After every call of the sequence that counts, the records of the handle are the ones that this
call raised. -/
def OwnRecords (h : HandleKind) (calls : List h.Call) (s : h.State) : Prop :=
  Meets h.step (fun c s => h.Counts c s → Own h.log h.step c s) calls s

/-! ## Each call clears or appends -/

theorem env_clears (c : EnvCall) (hc : c.clears = true) : RecordLog.Clears env.log env.step c := by
  intro s
  cases c with
  | allocConnect connectionHandle allocated => rfl
  | getEnvAttr attr value => rfl
  | setEnvAttr attr value => rfl
  | _ => cases hc

theorem dbc_clears (p : DbcContext × DbcCall) (hc : p.2.clears = true) :
    RecordLog.Clears dbc.log dbc.step p := by
  obtain ⟨ctx, c⟩ := p
  intro s
  cases c with
  | session c => cases c <;> rfl
  | allocStmt statementHandle allocated => rfl
  | getInfo infoType a => rfl
  | getConnectAttr attr a => rfl
  | _ => cases hc

theorem stmt_clears (p : CallContext × StmtEntry) (hc : p.2.clears = true) :
    RecordLog.Clears stmt.log stmt.step p := by
  obtain ⟨ctx, c⟩ := p
  intro s
  rcases c with c | _ | _ | _
  · cases c with
    | freeStmt option => cases hc
    | moreResults => cases hc
    | cancel => cases hc
    | getDiagField r i a => cases hc
    | getDiagRec r a => cases hc
    | error a => cases hc
    | setDescField d r i v => cases hc
    | _ => rfl
  all_goals cases hc

theorem env_appends (c : EnvCall) (s : RetsENV) (hcounts : c.counts s = true)
    (hc : ¬ c.clears = true) : Appends env.log env.step c := by
  cases c with
  | allocConnect connectionHandle allocated => exact absurd rfl hc
  | getEnvAttr attr value => exact absurd rfl hc
  | setEnvAttr attr value => exact absurd rfl hc
  | getDiagField r i a => cases hcounts
  | getDiagRec r a => cases hcounts
  | error a => cases hcounts
  | freeConnect dbc canBeFreed => cases hcounts
  | stub f =>
    intro s s' hs
    obtain rfl := Except.ok.inj hs
    exact ⟨_, rfl, f.call_snd _⟩
  | _ =>
    refine .of_silent fun s s' hs => ?_
    obtain rfl := Except.ok.inj hs
    exact ⟨rfl, rfl⟩

theorem dbc_appends (p : DbcContext × DbcCall) (s : RetsDBC) (hcounts : p.2.counts s = true)
    (hc : ¬ p.2.clears = true) : Appends dbc.log dbc.step p := by
  obtain ⟨ctx, c⟩ := p
  cases c with
  | session c => exact absurd rfl hc
  | allocStmt statementHandle allocated => exact absurd rfl hc
  | getInfo infoType a => exact absurd rfl hc
  | getConnectAttr attr a => exact absurd rfl hc
  | getDiagField r i a => cases hcounts
  | getDiagRec r a => cases hcounts
  | error a => cases hcounts
  | freeStmt stmt option => cases hcounts
  | stub f =>
    intro s s' hs
    obtain rfl := Except.ok.inj hs
    exact ⟨_, rfl, f.call_snd _⟩
  | _ =>
    refine .of_silent fun s s' hs => ?_
    obtain rfl := Except.ok.inj hs
    exact ⟨rfl, rfl⟩

/-- `SQLFreeStmt` neither reads nor writes the records of the statement. -/
theorem sqlFreeStmt_clearErrors {s : RetsSTMT} {option : Nat} {out : StmtOut}
    (h : s.sqlFreeStmt option = .ok out) :
    s.clearErrors.sqlFreeStmt option = .ok { out with stmt := out.stmt.clearErrors } ∧
      out.stmt.mErrors = s.mErrors := by
  unfold RetsSTMT.sqlFreeStmt at h ⊢
  split_ifs at h ⊢
  · obtain ⟨rs, hrs, rfl⟩ := map_eq_ok.mp h
    have hrs' : s.clearErrors.resultSet = .ok rs := hrs
    rw [hrs']
    exact ⟨rfl, rfl⟩
  · obtain rfl := Except.ok.inj h
    exact ⟨rfl, rfl⟩

theorem stmt_appends (p : CallContext × StmtEntry) (hcounts : p.2.counts = true)
    (hc : ¬ p.2.clears = true) : Appends stmt.log stmt.step p := by
  obtain ⟨ctx, c⟩ := p
  rcases c with c | f | _ | _
  · cases c with
    | freeStmt option =>
      refine .of_silent fun s s' hs => ?_
      obtain ⟨out, hout, rfl⟩ := map_eq_ok.mp hs
      obtain ⟨r, hr, rfl⟩ := map_eq_ok.mp hout
      obtain ⟨o, ho, rfl⟩ := map_eq_ok.mp hr
      obtain ⟨hclear, hsame⟩ := sqlFreeStmt_clearErrors ho
      have hcall : s.clearErrors.uncaught ctx (.freeStmt option) =
          .ok { o with stmt := o.stmt.clearErrors } := hclear
      refine ⟨?_, hsame⟩
      show ((((s.clearErrors.uncaught ctx (.freeStmt option)).map _).map _).map _ :
        Except Fault RetsSTMT) = _
      rw [hcall]
      rfl
    | moreResults =>
      refine .of_silent fun s s' hs => ?_
      obtain rfl := Except.ok.inj hs
      exact ⟨rfl, rfl⟩
    | cancel =>
      refine .of_silent fun s s' hs => ?_
      obtain rfl := Except.ok.inj hs
      exact ⟨rfl, rfl⟩
    | _ => exact absurd hcounts hc
  · intro s s' hs
    obtain rfl := Except.ok.inj hs
    exact ⟨_, rfl, f.call_snd _⟩
  all_goals
    refine .of_silent fun s s' hs => ?_
    obtain rfl := Except.ok.inj hs
    exact ⟨rfl, rfl⟩

/-- `SQLSetDescField` adds its record to those that are there. -/
theorem sqlSetDescField_mErrors (desc : BaseDesc) (recNumber fieldIdentifier : Int) (value : Ptr) :
    (desc.sqlSetDescField recNumber fieldIdentifier value).1.mErrors = desc.mErrors ++
      (desc.clearErrors.sqlSetDescField recNumber fieldIdentifier value).1.mErrors := by
  unfold BaseDesc.sqlSetDescField
  split_ifs
  · rfl
  all_goals first | rfl | exact (List.append_nil _).symm

theorem desc_appends (c : DescCall) (hcounts : c.counts = true) :
    Appends desc.log desc.step c := by
  cases c with
  | setDescField recNumber fieldIdentifier value =>
    intro s s' hs
    obtain rfl := Except.ok.inj hs
    exact ⟨_, rfl, sqlSetDescField_mErrors s recNumber fieldIdentifier value⟩
  | getDescField =>
    intro s s' hs
    obtain rfl := Except.ok.inj hs
    exact ⟨_, rfl, rfl⟩
  | stub f =>
    intro s s' hs
    obtain rfl := Except.ok.inj hs
    exact ⟨_, rfl, f.call_snd _⟩
  | getDiagField r i a => cases hcounts
  | getDiagRec r a => cases hcounts
  | _ =>
    refine .of_silent fun s s' hs => ?_
    obtain rfl := Except.ok.inj hs
    exact ⟨rfl, rfl⟩

/-- The two calls that clear the records a second time have raised none by then. -/
theorem mErrors_between {ctx : CallContext} {s : RetsSTMT} {statementText : SqlText}
    {crow : Nat} {out : StmtOut} (h : s.sqlPrepare ctx statementText = .ok out)
    (hsuccess : out.result = .ok .success) :
    out.stmt.mErrors = [] ∧ (s.sqlSetStmtAttr 22 crow).stmt.mErrors = [] := by
  refine ⟨?_, rfl⟩
  unfold RetsSTMT.sqlPrepare at h
  split at h
  · exact absurd hsuccess (RetsSTMT.fails_keeps h).2.2
  obtain ⟨created, -, rfl⟩ := map_eq_ok.mp h
  rcases created with e | q
  · cases e <;> cases hsuccess
  · rfl

/-! ## Runs -/

/-- **Diagnostics belong to the last call** exactly as long as every call clears the records or
finds none: for every class of handles and every sequence of calls that goes through. -/
theorem ownRecords_iff (h : HandleKind) {calls : List h.Call} {s s' : h.State}
    (hrun : run h.step calls s = .ok s') :
    h.OwnRecords calls s ↔
      Meets h.step (fun c s => h.Counts c s → h.Clears c ∨ h.mErrors s = []) calls s := by
  cases h with
  | env => exact own_run_iff (L := env.log) env_clears env_appends hrun
  | dbc => exact own_run_iff (L := dbc.log) dbc_clears dbc_appends hrun
  | stmt => exact own_run_iff (L := stmt.log) stmt_clears (fun p _ => stmt_appends p) hrun
  | desc =>
    exact own_run_iff (L := desc.log) (fun _ h => h.elim) (fun c _ hc _ => desc_appends c hc) hrun

/-- A first call on a descriptor. -/
theorem ownRecords_setDescField :
    desc.OwnRecords [DescCall.setDescField 1 sqlDescBindType 8] desc.new := by
  have hrun : run desc.step [DescCall.setDescField 1 sqlDescBindType 8] desc.new = .ok _ := rfl
  exact (ownRecords_iff desc hrun).mpr ⟨fun _ => .inr rfl, fun _ _ => trivial⟩

/-- After the second of two stubs the record of the first is still there. -/
theorem not_ownRecords_stubs :
    ¬ stmt.OwnRecords [(idleContext, .stub .bindParameter), (idleContext, .stub .closeCursor)]
      stmt.new := by
  rintro ⟨-, h⟩
  have hown := (h _ rfl).1 rfl
  have hrecords : (Except.ok [Error.of "HY000" "SQLBindParameter not implemented.",
      Error.of "HY000" "SQLCloseCursor not implemented."] : Except Fault (List Error)) =
      .ok [Error.of "HY000" "SQLCloseCursor not implemented."] := hown
  have hlength := congrArg List.length (Except.ok.inj hrecords)
  revert hlength
  decide

end HandleKind

end EzRets
