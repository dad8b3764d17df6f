import EzRets.DriverRuns

/-!
# EzRets.Environments — environments know nothing of each other

An environment with its connections and their statements is a driver of its own: the calls on these
handles are answered as if the application had never made any other, and leave them as it would.
-/

namespace EzRets

open FaultRun Component

namespace Handles

variable {hs : Handles} {out : Outcome} {p q s : Ptr}

/-- The connection at `q` is one of the environment `p`. -/
def dbcUnder (hs : Handles) (p q : Ptr) : Bool := (hs.dbcs q).any fun d => d.mEnv == p

/-- The statement at `s` is one of a connection of the environment `p`. -/
def stmtUnder (hs : Handles) (p s : Ptr) : Bool := (hs.stmts s).any fun st => hs.dbcUnder p st.mDbc

/-- The environment `p` with its connections and their statements. -/
def only (p : Ptr) (hs : Handles) : Handles where
  envs p' := if p' = p then hs.envs p' else none
  dbcs q := (hs.dbcs q).filter fun d => d.mEnv == p
  stmts s := (hs.stmts s).filter fun st => hs.dbcUnder p st.mDbc

theorem only_empty : empty.only p = empty := by
  have henvs : (empty.only p).envs = empty.envs := by
    funext p'
    exact ite_self _
  show Handles.mk (empty.only p).envs _ _ = _
  rw [henvs]
  rfl

theorem dbcUnder_of {d : LiveDbc} (hd : hs.dbcs q = some d) :
    hs.dbcUnder p q = (d.mEnv == p) := by
  rw [dbcUnder, hd]
  rfl

theorem stmtUnder_of {st : LiveStmt} (hst : hs.stmts s = some st) :
    hs.stmtUnder p s = hs.dbcUnder p st.mDbc := by
  rw [stmtUnder, hst]
  rfl

theorem only_envs : (hs.only p).envs p = hs.envs p := if_pos rfl

theorem only_dbcs {d : LiveDbc} (hd : hs.dbcs q = some d) (hmine : hs.dbcUnder p q = true) :
    (hs.only p).dbcs q = some d := by
  rw [dbcUnder_of hd] at hmine
  show (hs.dbcs q).filter _ = _
  rw [hd, Option.filter_some, if_pos hmine]

theorem only_stmts {st : LiveStmt} (hst : hs.stmts s = some st)
    (hmine : hs.stmtUnder p s = true) : (hs.only p).stmts s = some st := by
  rw [stmtUnder_of hst] at hmine
  show (hs.stmts s).filter _ = _
  rw [hst, Option.filter_some, if_pos hmine]

/-! ## A part after an update -/

theorem setDbc_eq_self {d : Option LiveDbc} (hd : hs.dbcs q = d) : hs.setDbc q d = hs := by
  unfold setDbc
  rw [← hd, Function.update_eq_self]

theorem setStmt_eq_self {st : Option LiveStmt} (hst : hs.stmts s = st) : hs.setStmt s st = hs := by
  unfold setStmt
  rw [← hst, Function.update_eq_self]

theorem only_setEnv (e : Option RetsENV) : (hs.setEnv p e).only p = (hs.only p).setEnv p e := by
  have henvs : ((hs.setEnv p e).only p).envs = ((hs.only p).setEnv p e).envs := by
    funext p'
    show (if p' = p then Function.update hs.envs p e p' else none) =
      Function.update (hs.only p).envs p e p'
    by_cases hp : p' = p
    · rw [if_pos hp, hp, Function.update_self, Function.update_self]
    · rw [if_neg hp, Function.update_of_ne hp]
      exact (if_neg hp).symm
  show Handles.mk ((hs.setEnv p e).only p).envs _ _ = _
  rw [henvs]
  rfl

theorem only_setEnv_of_ne {e : Option RetsENV} (hne : q ≠ p) :
    (hs.setEnv q e).only p = hs.only p := by
  have henvs : ((hs.setEnv q e).only p).envs = (hs.only p).envs := by
    funext p'
    show (if p' = p then Function.update hs.envs q e p' else none) =
      if p' = p then hs.envs p' else none
    by_cases hp : p' = p
    · rw [if_pos hp, if_pos hp, hp, Function.update_of_ne hne.symm]
    · rw [if_neg hp, if_neg hp]
  show Handles.mk ((hs.setEnv q e).only p).envs _ _ = _
  rw [henvs]
  rfl

/-- A connection comes, changes or goes, and no live statement changes its environment with it. -/
theorem only_setDbc {d : Option LiveDbc}
    (hstmts : ∀ s st, hs.stmts s = some st →
      (hs.setDbc q d).dbcUnder p st.mDbc = hs.dbcUnder p st.mDbc) :
    (hs.setDbc q d).only p = (hs.only p).setDbc q (d.filter fun d => d.mEnv == p) := by
  have hdbcs : ((hs.setDbc q d).only p).dbcs =
      ((hs.only p).setDbc q (d.filter fun d => d.mEnv == p)).dbcs := by
    funext q'
    show (Function.update hs.dbcs q d q').filter _ = Function.update (hs.only p).dbcs q _ q'
    by_cases hq : q' = q
    · rw [hq, Function.update_self, Function.update_self]
    · rw [Function.update_of_ne hq, Function.update_of_ne hq]
      rfl
  have hstmts' : ((hs.setDbc q d).only p).stmts = (hs.only p).stmts := by
    funext s
    show (hs.stmts s).filter _ = (hs.stmts s).filter _
    rcases hst : hs.stmts s with _ | st
    · rfl
    · rw [Option.filter_some, Option.filter_some, hstmts s st hst]
  show Handles.mk _ ((hs.setDbc q d).only p).dbcs ((hs.setDbc q d).only p).stmts = _
  rw [hdbcs, hstmts']
  rfl

theorem only_setStmt {st : Option LiveStmt} :
    (hs.setStmt s st).only p =
      (hs.only p).setStmt s (st.filter fun st => hs.dbcUnder p st.mDbc) := by
  have hstmts : ((hs.setStmt s st).only p).stmts =
      ((hs.only p).setStmt s (st.filter fun st => hs.dbcUnder p st.mDbc)).stmts := by
    funext s'
    show (Function.update hs.stmts s st s').filter _ = Function.update (hs.only p).stmts s _ s'
    by_cases hs' : s' = s
    · rw [hs', Function.update_self, Function.update_self]
      rfl
    · rw [Function.update_of_ne hs', Function.update_of_ne hs']
      rfl
  show Handles.mk _ _ ((hs.setStmt s st).only p).stmts = _
  rw [hstmts]
  rfl

theorem dbcUnder_setDbc_of_ne {q' : Ptr} {d : Option LiveDbc} (hne : q' ≠ q) :
    (hs.setDbc q d).dbcUnder p q' = hs.dbcUnder p q' := by
  show (Function.update hs.dbcs q d q').any _ = _
  rw [Function.update_of_ne hne]
  rfl

/-- A connection changes and stays with its environment. -/
theorem dbcUnder_update {d : LiveDbc} {d' : RetsDBC} (hd : hs.dbcs q = some d) (q' : Ptr) :
    (hs.setDbc q (some { d with dbc := d' })).dbcUnder p q' = hs.dbcUnder p q' := by
  by_cases hq : q' = q
  · subst hq
    have hnew : (hs.setDbc q' (some { d with dbc := d' })).dbcs q' = some { d with dbc := d' } :=
      Function.update_self _ _ _
    rw [dbcUnder_of hd, dbcUnder_of hnew]
  · exact dbcUnder_setDbc_of_ne hq

theorem only_update_dbc {d : LiveDbc} {d' : RetsDBC} (hd : hs.dbcs q = some d) :
    (hs.setDbc q (some { d with dbc := d' })).only p =
      if hs.dbcUnder p q then (hs.only p).setDbc q (some { d with dbc := d' }) else hs.only p := by
  rw [only_setDbc fun _ _ _ => dbcUnder_update hd _, Option.filter_some, dbcUnder_of hd]
  split_ifs with hmine
  · rfl
  · refine setDbc_eq_self ?_
    show (hs.dbcs q).filter _ = none
    rw [hd, Option.filter_some, if_neg hmine]

theorem only_drop_dbc (hnone : ∀ s st, hs.stmts s = some st → st.mDbc ≠ q) :
    (hs.setDbc q none).only p = (hs.only p).setDbc q none :=
  only_setDbc fun s st hst => dbcUnder_setDbc_of_ne (hnone s st hst)

theorem only_update_stmt {st : LiveStmt} {stmt : RetsSTMT} (hst : hs.stmts s = some st) :
    (hs.setStmt s (some { st with stmt := stmt })).only p =
      if hs.stmtUnder p s then (hs.only p).setStmt s (some { st with stmt := stmt })
      else hs.only p := by
  rw [only_setStmt, Option.filter_some, stmtUnder_of hst]
  dsimp only
  split_ifs with hmine
  · rfl
  · refine setStmt_eq_self ?_
    show (hs.stmts s).filter _ = none
    rw [hst, Option.filter_some, if_neg hmine]

theorem only_drop_stmt : (hs.setStmt s none).only p = (hs.only p).setStmt s none := only_setStmt

/-- What does not belong to `p` is not in its part. -/
theorem only_dbcs_none (hother : hs.dbcUnder p q = false) : (hs.only p).dbcs q = none := by
  show (hs.dbcs q).filter _ = none
  rcases hd : hs.dbcs q with _ | d
  · rfl
  · rw [dbcUnder_of hd] at hother
    rw [Option.filter_some, hother]
    rfl

theorem only_stmts_none (hother : hs.stmtUnder p s = false) : (hs.only p).stmts s = none := by
  show (hs.stmts s).filter _ = none
  rcases hst : hs.stmts s with _ | st
  · rfl
  · rw [stmtUnder_of hst] at hother
    rw [Option.filter_some, hother]
    rfl

/-! ## A call on the whole and on a part -/

def Outcome.only (p : Ptr) (out : Outcome) : Outcome := { out with handles := out.handles.only p }

/-- Where the call reaches the environment `p` it ends there as it does on all handles, and where it
does not it leaves that part alone. -/
structure Projected (p : Ptr) (reaches : Bool) (hs : Handles)
    (f : Handles → Except HandleFault Outcome) (out : Outcome) : Prop where
  reached : reaches = true → f (hs.only p) = .ok (out.only p)
  missed : reaches = false → out.handles.only p = hs.only p

theorem Projected.returns {reaches : Bool} {result : SqlReturn} :
    Projected p reaches hs (fun hs => .ok (hs.returns result)) (hs.returns result) :=
  ⟨fun _ => rfl, fun _ => rfl⟩

/-- The assertion of the entry points, with what each answers for a null handle. -/
theorem Projected.asserted {reaches : Bool} {result : SqlReturn}
    {op : Handles → Except HandleFault Outcome}
    (hop : ∀ out, op hs = .ok out → Projected p reaches hs op out)
    (h : (if q = 0 then .ok (hs.returns result) else op hs) = .ok out) :
    Projected p reaches hs (fun hs => if q = 0 then .ok (hs.returns result) else op hs) out := by
  split_ifs at h ⊢ with hq
  · obtain rfl := Except.ok.inj h
    exact .returns
  · exact hop out h

/-- Whether `new` gives the address of the environment. -/
def isNew (p : Ptr) : Except Str Ptr → Bool
  | .ok p' => p' == p
  | .error _ => false

theorem sqlAllocEnv_projected {environmentHandle : Ptr} {allocated : Except Str Ptr} :
    Projected p (isNew p allocated) hs (fun hs => .ok (hs.sqlAllocEnv environmentHandle allocated))
      (hs.sqlAllocEnv environmentHandle allocated) := by
  unfold sqlAllocEnv
  split_ifs
  · exact .returns
  · rcases allocated with what | p'
    · exact ⟨fun _ => rfl, fun _ => rfl⟩
    · constructor
      · intro hp
        obtain rfl := eq_of_beq hp
        show Except.ok (Outcome.mk _ _ _) = Except.ok (Outcome.mk _ _ _)
        rw [only_setEnv]
      · intro hp
        exact only_setEnv_of_ne (ne_of_beq_false hp)

theorem sqlFreeEnv_projected (h : hs.sqlFreeEnv q = .ok out) :
    Projected p (q == p) hs (fun hs => hs.sqlFreeEnv q) out := by
  obtain ⟨e, he, h⟩ := bind_eq_ok.mp h
  rw [deref_eq_ok] at he
  obtain rfl := Except.ok.inj h
  constructor
  · intro hp
    obtain rfl := eq_of_beq hp
    unfold sqlFreeEnv Outcome.only
    rw [only_envs, he]
    dsimp only [deref, bind, Except.bind, pure, Except.pure]
    split_ifs
    · rw [only_setEnv]
    · rfl
  · intro hp
    dsimp only
    split_ifs
    · exact only_setEnv_of_ne (ne_of_beq_false hp)
    · rfl

theorem onEnv_projected {c : EnvCall} (h : hs.onEnv q c = .ok out) :
    Projected p (q == p) hs (fun hs => hs.onEnv q c) out := by
  obtain ⟨e, he, h⟩ := bind_eq_ok.mp h
  obtain ⟨r, hr, h⟩ := bind_eq_ok.mp h
  rw [deref_eq_ok] at he
  obtain rfl := Except.ok.inj h
  constructor
  · intro hp
    obtain rfl := eq_of_beq hp
    unfold onEnv Outcome.only
    rw [only_envs, he, only_setEnv]
    dsimp only [deref, bind, Except.bind]
    rw [hr]
    rfl
  · intro hp
    exact only_setEnv_of_ne (ne_of_beq_false hp)

theorem onDbc_projected {ctx : DbcContext} {c : DbcCall} (h : hs.onDbc q ctx c = .ok out) :
    Projected p (hs.dbcUnder p q) hs (fun hs => hs.onDbc q ctx c) out := by
  obtain ⟨d, hd, h⟩ := bind_eq_ok.mp h
  obtain ⟨e, he, h⟩ := bind_eq_ok.mp h
  obtain ⟨r, hr, h⟩ := bind_eq_ok.mp h
  rw [deref_eq_ok] at hd he
  obtain rfl := Except.ok.inj h
  constructor
  · intro hmine
    have hp : d.mEnv = p := eq_of_beq ((dbcUnder_of hd).symm.trans hmine)
    subst hp
    unfold onDbc Outcome.only
    rw [only_dbcs hd hmine]
    dsimp only [deref, bind, Except.bind]
    rw [only_envs, he, only_update_dbc hd, if_pos hmine]
    dsimp only
    rw [hr]
    rfl
  · intro hother
    show (hs.setDbc q _).only p = hs.only p
    rw [only_update_dbc hd, hother]
    rfl

/-- A session call is a call on the connection. -/
theorem session_projected {ctx : DbcContext} {c : RetsDBC.ConnectCall}
    (h : hs.session q ctx c = .ok out) :
    Projected p (hs.dbcUnder p q) hs (fun hs => hs.session q ctx c) out :=
  onDbc_projected h

/-- A call on a statement that also reads its connection. -/
def stmtCall (s : Ptr) (f : RetsSTMT → RetsDBC → Except Fault RetsSTMT.Returned) (hs : Handles) :
    Except HandleFault Outcome := do
  let st ← deref .deadHandle (hs.stmts s)
  let d ← deref .deadParent (hs.dbcs st.mDbc)
  let r ← inside (f st.stmt d.dbc)
  return ⟨hs.setStmt s (some { st with stmt := r.stmt }), r.result, r.writes⟩

theorem stmtCall_projected {f : RetsSTMT → RetsDBC → Except Fault RetsSTMT.Returned}
    (h : stmtCall s f hs = .ok out) : Projected p (hs.stmtUnder p s) hs (stmtCall s f) out := by
  obtain ⟨st, hst, h⟩ := bind_eq_ok.mp h
  obtain ⟨d, hd, h⟩ := bind_eq_ok.mp h
  obtain ⟨r, hr, h⟩ := bind_eq_ok.mp h
  rw [deref_eq_ok] at hst hd
  obtain rfl := Except.ok.inj h
  constructor
  · intro hmine
    unfold stmtCall Outcome.only
    rw [only_stmts hst hmine, only_update_stmt hst, if_pos hmine]
    dsimp only [deref, bind, Except.bind]
    rw [only_dbcs hd ((stmtUnder_of hst).symm.trans hmine)]
    dsimp only
    rw [hr]
    rfl
  · intro hother
    show (hs.setStmt s _).only p = hs.only p
    rw [only_update_stmt hst, hother]
    rfl

theorem onStmt_projected {inputs : StmtInputs} {c : StmtEntry} (h : hs.onStmt s inputs c = .ok out) :
    Projected p (hs.stmtUnder p s) hs (fun hs => hs.onStmt s inputs c) out :=
  stmtCall_projected (f := fun stmt dbc => stmt.enter (dbc.context inputs) c) h

theorem onDesc_projected {desc : DescriptorType} {c : DescCall} (h : hs.onDesc s desc c = .ok out) :
    Projected p (hs.stmtUnder p s) hs (fun hs => hs.onDesc s desc c) out :=
  stmtCall_projected (f := fun stmt _ => stmt.enterDesc desc c) h

/-! ## The calls that change the tree -/

/-- A new connection has no statement yet. -/
theorem only_add_dbc {d : LiveDbc}
    (hlive : ∀ s st, hs.stmts s = some st → hs.dbcs st.mDbc ≠ none) (hq : hs.dbcs q = none) :
    (hs.setDbc q (some d)).only p =
      if d.mEnv == p then (hs.only p).setDbc q (some d) else hs.only p := by
  have hstmts : ∀ s st, hs.stmts s = some st →
      (hs.setDbc q (some d)).dbcUnder p st.mDbc = hs.dbcUnder p st.mDbc := by
    intro s st hst
    have hne : st.mDbc ≠ q := by
      intro heq
      exact hlive s st hst (heq ▸ hq)
    exact dbcUnder_setDbc_of_ne hne
  rw [only_setDbc hstmts, Option.filter_some]
  split_ifs with hmine
  · rfl
  · refine setDbc_eq_self ?_
    show (hs.dbcs q).filter _ = none
    rw [hq]
    rfl

theorem sqlAllocConnect_projected {connectionHandle : Ptr} {allocated : Except Str Ptr}
    (hlinked : hs.WellLinked) (hfresh : hs.Vacant allocated)
    (h : hs.sqlAllocConnect q connectionHandle allocated = .ok out) :
    Projected p (q == p) hs (fun hs => hs.sqlAllocConnect q connectionHandle allocated) out := by
  obtain ⟨e, he, h⟩ := bind_eq_ok.mp h
  rw [deref_eq_ok] at he
  rcases hcreated : created connectionHandle allocated with _ | p'
  · rw [hcreated] at h
    obtain rfl := Except.ok.inj h
    constructor
    · intro hp
      obtain rfl := eq_of_beq hp
      unfold sqlAllocConnect Outcome.only
      rw [only_envs, he, only_setEnv, hcreated]
      rfl
    · intro hp
      exact only_setEnv_of_ne (ne_of_beq_false hp)
  · rw [hcreated] at h
    obtain rfl := Except.ok.inj h
    have hvacant : hs.dbcs p' = none := (hfresh p' (created_eq_some hcreated)).2.1
    have hadded : ∀ e', ((hs.setEnv q e').setDbc p' (some ⟨q, RetsDBC.new⟩)).only p =
        if q == p then ((hs.setEnv q e').only p).setDbc p' (some ⟨q, RetsDBC.new⟩)
        else (hs.setEnv q e').only p :=
      fun e' => @only_add_dbc (hs.setEnv q e') p p' _ (fun _ _ hst => hlinked.dbc_ne_none hst)
        hvacant
    constructor
    · intro hp
      unfold sqlAllocConnect Outcome.only
      rw [hadded, if_pos hp]
      obtain rfl := eq_of_beq hp
      rw [only_envs, he, only_setEnv, hcreated]
      rfl
    · intro hp
      show ((hs.setEnv q _).setDbc p' _).only p = hs.only p
      rw [hadded, hp]
      exact only_setEnv_of_ne (ne_of_beq_false hp)

theorem sqlAllocStmt_projected {statementHandle : Ptr} {allocated : Except Str Ptr}
    (hfresh : hs.Vacant allocated)
    (h : hs.sqlAllocStmt q statementHandle allocated = .ok out) :
    Projected p (hs.dbcUnder p q) hs (fun hs => hs.sqlAllocStmt q statementHandle allocated)
      out := by
  obtain ⟨d, hd, h⟩ := bind_eq_ok.mp h
  rw [deref_eq_ok] at hd
  rcases hcreated : created statementHandle allocated with _ | s
  · rw [hcreated] at h
    obtain rfl := Except.ok.inj h
    constructor
    · intro hmine
      unfold sqlAllocStmt Outcome.only
      rw [only_dbcs hd hmine, only_update_dbc hd, if_pos hmine, hcreated]
      rfl
    · intro hother
      show (hs.setDbc q _).only p = hs.only p
      rw [only_update_dbc hd, hother]
      rfl
  · rw [hcreated] at h
    obtain rfl := Except.ok.inj h
    have hvacant : hs.stmts s = none := (hfresh s (created_eq_some hcreated)).2.2
    have hadded : ∀ d', ((hs.setDbc q (some { d with dbc := d' })).setStmt s
        (some ⟨q, RetsSTMT.new⟩)).only p =
          ((hs.setDbc q (some { d with dbc := d' })).only p).setStmt s
            ((some ⟨q, RetsSTMT.new⟩ : Option LiveStmt).filter fun _ => hs.dbcUnder p q) := by
      intro d'
      rw [only_setStmt, Option.filter_some, Option.filter_some, dbcUnder_update hd]
    constructor
    · intro hmine
      unfold sqlAllocStmt Outcome.only
      rw [hadded, only_dbcs hd hmine, only_update_dbc hd, if_pos hmine, hcreated, hmine]
      rfl
    · intro hother
      show ((hs.setDbc q _).setStmt s _).only p = hs.only p
      rw [hadded, only_update_dbc hd, hother]
      refine setStmt_eq_self ?_
      show (hs.stmts s).filter _ = none
      rw [hvacant]
      rfl

theorem sqlFreeConnect_projected (hlinked : hs.WellLinked) (h : hs.sqlFreeConnect q = .ok out) :
    Projected p (hs.dbcUnder p q) hs (fun hs => hs.sqlFreeConnect q) out := by
  obtain ⟨d, hd, h⟩ := bind_eq_ok.mp h
  obtain ⟨e, he, h⟩ := bind_eq_ok.mp h
  rw [deref_eq_ok] at hd he
  obtain rfl := Except.ok.inj h
  -- the connection goes only when no statement points to it
  have hdropped : d.dbc.canBeFreed = true → ∀ e', ((hs.setEnv d.mEnv e').setDbc q none).only p =
      ((hs.setEnv d.mEnv e').only p).setDbc q none := by
    intro hfree e'
    refine only_drop_dbc fun s st hst hmine => ?_
    have hst' : hs.stmts s = some st := hst
    obtain ⟨l, hl, hcount⟩ := hlinked.statements.listed (stmtOwner_of hst')
    rw [hmine, dbcChildren_of hd] at hl
    have hnone : d.dbc.mStatements = [] :=
      List.isEmpty_iff.mp (Bool.and_eq_true_iff.mp hfree).2
    rw [← Option.some.inj hl, hnone] at hcount
    cases hcount
  constructor
  · intro hmine
    have hp : d.mEnv = p := eq_of_beq ((dbcUnder_of hd).symm.trans hmine)
    subst hp
    unfold sqlFreeConnect Outcome.only
    rw [only_dbcs hd hmine]
    dsimp only [deref, bind, Except.bind, pure, Except.pure]
    rw [only_envs, he]
    dsimp only
    split_ifs with hfree
    · rw [hdropped hfree, only_setEnv]
    · rw [only_setEnv]
  · intro hother
    have hne : d.mEnv ≠ p := ne_of_beq_false ((dbcUnder_of hd).symm.trans hother)
    dsimp only
    split_ifs with hfree
    · rw [hdropped hfree, only_setEnv_of_ne hne]
      exact setDbc_eq_self (only_dbcs_none hother)
    · exact only_setEnv_of_ne hne

theorem sqlFreeStmt_projected {option : Nat} (h : hs.sqlFreeStmt s option = .ok out) :
    Projected p (hs.stmtUnder p s) hs (fun hs => hs.sqlFreeStmt s option) out := by
  obtain ⟨st, hst, h⟩ := bind_eq_ok.mp h
  obtain ⟨d, hd, h⟩ := bind_eq_ok.mp h
  rw [deref_eq_ok] at hst hd
  let d' : LiveDbc := { d with dbc := (d.dbc.sqlFreeStmt s option).dbc }
  have hupdated : (hs.setDbc st.mDbc (some d')).only p =
      if hs.stmtUnder p s then (hs.only p).setDbc st.mDbc (some d') else hs.only p := by
    rw [stmtUnder_of hst]
    exact only_update_dbc hd
  have hst' : (hs.setDbc st.mDbc (some d')).stmts s = some st := hst
  have hunder : (hs.setDbc st.mDbc (some d')).stmtUnder p s = hs.stmtUnder p s := by
    rw [stmtUnder_of hst', stmtUnder_of hst]
    exact dbcUnder_update hd _
  by_cases hdrop : option = 1
  · rw [if_pos hdrop] at h
    obtain rfl := Except.ok.inj h
    constructor
    · intro hmine
      unfold sqlFreeStmt Outcome.only
      rw [only_stmts hst hmine]
      dsimp only [deref, bind, Except.bind]
      rw [only_dbcs hd ((stmtUnder_of hst).symm.trans hmine)]
      dsimp only
      rw [if_pos hdrop, only_drop_stmt, hupdated, if_pos hmine]
      rfl
    · intro hother
      show ((hs.setDbc st.mDbc (some d')).setStmt s none).only p = hs.only p
      rw [only_drop_stmt, hupdated, hother]
      exact setStmt_eq_self (only_stmts_none hother)
  · rw [if_neg hdrop] at h
    obtain ⟨unbound, hunbound, h⟩ := bind_eq_ok.mp h
    obtain rfl := Except.ok.inj h
    have hboth : ((hs.setDbc st.mDbc (some d')).setStmt s
        (some { st with stmt := unbound.stmt })).only p =
          if hs.stmtUnder p s then ((hs.only p).setDbc st.mDbc (some d')).setStmt s
            (some { st with stmt := unbound.stmt }) else hs.only p := by
      rw [only_update_stmt hst', hunder, hupdated]
      split_ifs <;> rfl
    constructor
    · intro hmine
      unfold sqlFreeStmt Outcome.only
      rw [only_stmts hst hmine]
      dsimp only [deref, bind, Except.bind]
      rw [only_dbcs hd ((stmtUnder_of hst).symm.trans hmine)]
      dsimp only
      rw [if_neg hdrop, hboth, if_pos hmine, hunbound]
      rfl
    · intro hother
      show ((hs.setDbc st.mDbc (some d')).setStmt s _).only p = hs.only p
      rw [hboth, hother]
      rfl

end Handles

namespace DriverCall

open Handles

variable {hs hs' : Handles} {out : Outcome} {p : Ptr}

/-- The call is made on the environment `p`, on one of its connections or on a statement of these, or
it allocates this environment. -/
def reaches (p : Ptr) (c : DriverCall) (hs : Handles) : Bool :=
  match c with
  | .allocHandle 1 _ _ allocated | .allocEnv _ allocated => isNew p allocated
  | .allocHandle 2 q _ _ | .allocConnect q _ _ | .freeHandle 1 q | .freeEnv q | .env q _ => q == p
  | .allocHandle 3 q _ _ | .allocStmt q _ _ | .freeHandle 2 q | .freeConnect q | .session q _ _
  | .dbc q _ _ => hs.dbcUnder p q
  | .freeHandle 3 q | .freeStmt q _ | .stmt q _ _ | .desc q _ _ => hs.stmtUnder p q
  | .allocHandle _ _ _ _ | .freeHandle _ _ => false

theorem sqlAllocHandle_projected {handleType : Int} {inputHandle outputHandlePtr : Ptr}
    {allocated : Except Str Ptr} (hlinked : hs.WellLinked) (hfresh : hs.Vacant allocated)
    (h : hs.sqlAllocHandle handleType inputHandle outputHandlePtr allocated = .ok out) :
    Projected p ((allocHandle handleType inputHandle outputHandlePtr allocated).reaches p hs) hs
      (fun hs => hs.sqlAllocHandle handleType inputHandle outputHandlePtr allocated) out := by
  unfold sqlAllocHandle at h ⊢
  split at h
  · rw [← Except.ok.inj h]
    exact sqlAllocEnv_projected
  · exact sqlAllocConnect_projected hlinked hfresh h
  · exact sqlAllocStmt_projected hfresh h
  · obtain rfl := Except.ok.inj h
    exact .returns

theorem sqlFreeHandle_projected {handleType : Int} {handle : Ptr} (hlinked : hs.WellLinked)
    (h : hs.sqlFreeHandle handleType handle = .ok out) :
    Projected p ((freeHandle handleType handle).reaches p hs) hs
      (fun hs => hs.sqlFreeHandle handleType handle) out := by
  unfold sqlFreeHandle at h ⊢
  split at h
  · exact sqlFreeEnv_projected h
  · exact sqlFreeConnect_projected hlinked h
  · exact sqlFreeStmt_projected h
  · obtain rfl := Except.ok.inj h
    exact .returns

/-- **A call reaches one environment and does there what it would do without the others.** -/
theorem call_projected {c : DriverCall} (hlinked : hs.WellLinked) (hfresh : c.Fresh hs)
    (h : c.call hs = .ok out) : Projected p (c.reaches p hs) hs c.call out := by
  cases c with
  | allocHandle handleType input output allocated =>
    exact sqlAllocHandle_projected hlinked hfresh h
  | allocEnv environmentHandle allocated =>
    rw [← Except.ok.inj h]
    exact sqlAllocEnv_projected
  | allocConnect env handle allocated =>
    exact .asserted (fun _ h => sqlAllocConnect_projected hlinked hfresh h) h
  | allocStmt dbc handle allocated => exact .asserted (fun _ h => sqlAllocStmt_projected hfresh h) h
  | freeHandle handleType handle => exact .asserted (fun _ h => sqlFreeHandle_projected hlinked h) h
  | freeEnv env => exact .asserted (fun _ h => sqlFreeEnv_projected h) h
  | freeConnect dbc => exact .asserted (fun _ h => sqlFreeConnect_projected hlinked h) h
  | freeStmt stmt option => exact .asserted (fun _ h => sqlFreeStmt_projected h) h
  | session dbc ctx c => exact .asserted (fun _ h => session_projected h) h
  | env env c => exact .asserted (fun _ h => onEnv_projected h) h
  | dbc dbc ctx c => exact .asserted (fun _ h => onDbc_projected h) h
  | stmt stmt inputs c => exact .asserted (fun _ h => onStmt_projected h) h
  | desc stmt d c => exact onDesc_projected h

/-- An environment is a part of the driver that answers by itself. -/
theorem projects : Component.Projects answer Fresh (reaches p) (Handles.only p) WellLinked where
  keeps hlinked hfresh h := wellLinked_answer hfresh hlinked h
  reached := by
    intro c hs hs' r hreaches hlinked hfresh h
    obtain ⟨out, hout, heq⟩ := map_eq_ok.mp h
    obtain ⟨rfl, rfl⟩ := Prod.ext_iff.mp heq
    exact answer_of_call ((call_projected hlinked hfresh hout).reached hreaches)
  missed := by
    intro c hs hs' r hreaches hlinked hfresh h
    obtain ⟨out, hout, heq⟩ := map_eq_ok.mp h
    obtain ⟨rfl, -⟩ := Prod.ext_iff.mp heq
    exact (call_projected hlinked hfresh hout).missed hreaches

/-- **Environments are independent.**  Of any sequence of calls, those that reach one environment are
answered as they are without the others, and leave its handles the same. -/
theorem environment_of_trace {calls : List DriverCall} {answers : List Answer}
    (hfresh : Meets step Fresh calls empty)
    (htrace : Component.trace answer calls empty = .ok (hs', answers)) :
    Component.trace answer ((reaching answer (reaches p) calls empty).map Prod.fst) empty =
      .ok (hs'.only p, (reaching answer (reaches p) calls empty).map Prod.snd) := by
  have hpart := (@projects p).trace hfresh wellLinked_empty htrace
  rw [only_empty] at hpart
  exact hpart

/-- A second environment comes, gets a connection and fails to go, while the first opens one and
gets a statement. -/
def twoEnvironments : List DriverCall :=
  [.allocEnv 1 (.ok 8), .allocEnv 4 (.ok 40), .allocConnect 8 2 (.ok 16),
    .allocConnect 40 5 (.ok 48),
    .session 16 RetsDBC.acceptingContext (.connect "site".toList none none), .freeEnv 40,
    .allocStmt 16 3 (.ok 24)]

theorem environment_first : ∃ hs answers, Component.trace answer twoEnvironments empty =
      .ok (hs, answers) ∧
    Component.trace answer openingCalls empty =
      .ok (hs.only 8, [(.success, [⟨1, .pointer 8⟩]), (.success, [⟨2, .pointer 16⟩]),
        (.success, []), (.success, [⟨3, .pointer 24⟩])]) := by
  have hfresh : Meets step Fresh twoEnvironments empty := by
    refine ⟨vacant_ok rfl rfl rfl, fun hs₁ h₁ => ?_⟩
    obtain rfl := Except.ok.inj h₁
    refine ⟨vacant_ok rfl rfl rfl, fun hs₂ h₂ => ?_⟩
    obtain rfl := Except.ok.inj h₂
    refine ⟨vacant_ok rfl rfl rfl, fun hs₃ h₃ => ?_⟩
    obtain rfl := Except.ok.inj h₃
    refine ⟨vacant_ok rfl rfl rfl, fun hs₄ h₄ => ?_⟩
    obtain rfl := Except.ok.inj h₄
    refine ⟨trivial, fun hs₅ h₅ => ⟨trivial, fun hs₆ h₆ => ?_⟩⟩
    obtain rfl := Except.ok.inj h₅
    obtain rfl := Except.ok.inj h₆
    exact ⟨vacant_ok rfl rfl rfl, fun _ _ => trivial⟩
  have htrace : Component.trace answer twoEnvironments empty = .ok _ := rfl
  have hpart := @environment_of_trace _ 8 _ _ hfresh htrace
  exact ⟨_, _, htrace, hpart⟩

end DriverCall

end EzRets
