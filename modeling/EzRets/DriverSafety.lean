import EzRets.CarefulCalls
import EzRets.DriverRuns

/-!
# EzRets.DriverSafety — the runs that no call breaks off

A careful application calls with handles that are live, gives the outputs that are stored unchecked,
lends what it says it lends, asks for what the connection lists, and has the debug log off.  The
driver keeps the rest by itself: the objects that a handle points back to are live, a prepared query
can be executed on its connection, and a statement stores into lent memory only.
-/

namespace EzRets

open FaultRun Handles

/-- What a call on a statement relies on besides the live handles. -/
def StmtOp.Careful (dbc : RetsDBC) (stmt : RetsSTMT) : StmtOp → Prop
  | .stmt inputs c => c.Careful (dbc.context inputs) stmt
  | .desc _ c => c.OutputsGiven
  | .freeStmt option => option = RetsSTMT.sqlUnbind → stmt.mQuery.kind ≠ .null

namespace Handles

/-- The statement `p` and its connection are live, and the call relies on nothing that they lack. -/
def CarefulOn (hs : Handles) (p : Ptr) (op : StmtOp) : Prop :=
  ∃ s d, hs.stmts p = some s ∧ hs.dbcs s.mDbc = some d ∧ op.Careful d.dbc s.stmt

/-- The query of the statement `p` can be executed on the connection, and the lengths of its bound
columns are true. -/
def QueryReady (hs : Handles) (p : Ptr) : Prop :=
  ∀ s d, hs.stmts p = some s → hs.dbcs s.mDbc = some d →
    s.stmt.mQuery.WellFormed ∧ s.stmt.BindsHonestly ∧
      ∀ inputs, s.stmt.mQuery.Ready (d.dbc.connection inputs)

/-- Handles as a careful application leaves them. -/
structure Sane (hs : Handles) : Prop where
  linked : hs.WellLinked
  queries : ∀ p, hs.QueryReady p

end Handles

/-- The call is made on live handles, and relies on nothing that they lack; `SQLDriverConnect` is
called without a session.  A null handle is answered, except where `SQLAllocHandle` takes it. -/
def DriverCall.Careful (c : DriverCall) (hs : Handles) : Prop :=
  match c with
  | .allocHandle 2 q _ _ => hs.envs q ≠ none
  | .allocHandle 3 q _ _ => hs.dbcs q ≠ none
  | .allocHandle _ _ _ _ | .allocEnv _ _ => True
  | .allocConnect q _ _ | .freeEnv q | .freeHandle 1 q => q ≠ 0 → hs.envs q ≠ none
  | .allocStmt q _ _ | .freeConnect q | .freeHandle 2 q => q ≠ 0 → hs.dbcs q ≠ none
  | .freeHandle 3 p => p ≠ 0 → hs.stmts p ≠ none
  | .freeHandle _ _ => True
  | .freeStmt p option => p ≠ 0 → hs.CarefulOn p (.freeStmt option)
  | .session q _ c => q ≠ 0 → ∃ d, hs.dbcs q = some d ∧
      ∀ s args, c = .driverConnect s args → d.dbc.mRetsSession = none
  | .env q c => q ≠ 0 → hs.envs q ≠ none ∧ c.val.OutputsGiven
  | .dbc q _ c => q ≠ 0 → hs.dbcs q ≠ none ∧ c.val.OutputsGiven
  | .stmt p inputs c => p ≠ 0 → hs.CarefulOn p (.stmt inputs c)
  | .desc p d c => hs.CarefulOn p (.desc d c)

/-- A statement sees the same connection with any inputs. -/
theorem Query.Ready.inputs {q : Query} {dbc : RetsDBC} {inputs inputs' : StmtInputs}
    (h : q.Ready (dbc.connection inputs)) : q.Ready (dbc.connection inputs') := by
  refine h.imp_right ?_
  rintro ⟨v, hshows, hexecutable⟩
  refine ⟨v, ⟨hshows.view, ?_⟩, hexecutable⟩
  have hsession := hshows.session
  unfold RetsDBC.connection at hsession ⊢
  rw [Option.isSome_map] at hsession ⊢
  exact hsession

/-- A query that needs a session has one. -/
theorem Query.Ready.session {q : Query} {dbc : RetsDBC} {inputs : StmtInputs}
    (h : q.Ready (dbc.connection inputs)) (hkind : q.kind ≠ .null) : dbc.mRetsSession.isSome := by
  obtain hnull | ⟨v, hshows, -⟩ := h
  · exact absurd hnull hkind
  · have hsession := hshows.session
    unfold RetsDBC.connection at hsession
    rw [Option.isSome_map] at hsession
    exact hsession

namespace Handles

variable {hs hs' : Handles} {out : Outcome} {p q : Ptr}

theorem returns_deref {α : Type} {f : HandleFault} {x : Option α} (h : x ≠ none) :
    Returns (fun a => x = some a) (deref f x) := by
  obtain ⟨a, rfl⟩ := Option.ne_none_iff_exists'.mp h
  exact returns_ok rfl

/-- A handle that is known to be live. -/
theorem returns_deref_bind {α β : Type} {P : β → Prop} {f : HandleFault} {x : Option α} {a : α}
    {g : α → Except HandleFault β} (hx : x = some a) (h : Returns P (g a)) :
    Returns P (deref f x >>= g) := by
  rw [hx]
  exact h

theorem returns_inside {α : Type} {P : α → Prop} {x : Except Fault α} (h : Returns P x) :
    Returns P (inside x) := by
  obtain ⟨a, rfl, ha⟩ := h
  exact returns_ok ha

/-- A call on a null handle returns at once. -/
theorem returns_checked {x : Except HandleFault Outcome}
    (h : p ≠ 0 → Returns (fun _ => True) x) : Returns (fun _ => True) (hs.checked p x) := by
  unfold checked
  split_ifs with hnull
  · exact returns_ok trivial
  · exact h hnull

theorem returns_sqlAllocConnect {handle : Ptr} {allocated : Except Str Ptr}
    (h : hs.envs q ≠ none) :
    Returns (fun _ => True) (hs.sqlAllocConnect q handle allocated) := by
  refine (returns_deref h).bind fun e _ _ => ?_
  dsimp only
  split <;> exact returns_ok trivial

theorem returns_sqlAllocStmt {handle : Ptr} {allocated : Except Str Ptr}
    (h : hs.dbcs q ≠ none) :
    Returns (fun _ => True) (hs.sqlAllocStmt q handle allocated) := by
  refine (returns_deref h).bind fun d _ _ => ?_
  dsimp only
  split <;> exact returns_ok trivial

theorem returns_sqlFreeEnv (h : hs.envs q ≠ none) : Returns (fun _ => True) (hs.sqlFreeEnv q) :=
  (returns_deref h).bind fun _ _ _ => returns_ok trivial

theorem returns_sqlFreeConnect (hlinked : hs.WellLinked) (h : hs.dbcs q ≠ none) :
    Returns (fun _ => True) (hs.sqlFreeConnect q) := by
  refine (returns_deref h).bind fun d _ hd => ?_
  exact (returns_deref (hlinked.env_ne_none hd)).bind fun _ _ _ => returns_ok trivial

theorem returns_drop (hlinked : hs.WellLinked) (h : hs.stmts p ≠ none) :
    Returns (fun _ => True) (hs.sqlFreeStmt p 1) := by
  refine (returns_deref h).bind fun s _ hst => ?_
  exact (returns_deref (hlinked.dbc_ne_none hst)).bind fun _ _ _ => returns_ok trivial

/-- A connection has its environment, so that a call which returns within it returns. -/
theorem returns_onDbc (hlinked : hs.WellLinked) {ctx : DbcContext} {c : DbcCall}
    (h : hs.dbcs q ≠ none) (hc : c.OutputsGiven) :
    Returns (fun _ => True) (hs.onDbc q ctx c) := by
  refine (returns_deref h).bind fun d _ hd => ?_
  refine (returns_deref (hlinked.env_ne_none hd)).bind fun _ _ _ => ?_
  exact (returns_inside (RetsDBC.returns_call hc)).bind fun _ _ _ => returns_ok trivial

theorem returns_onEnv {c : EnvCall} (h : hs.envs q ≠ none) (hc : c.OutputsGiven) :
    Returns (fun _ => True) (hs.onEnv q c) := by
  refine (returns_deref h).bind fun e _ _ => ?_
  exact (returns_inside (RetsENV.returns_call hc)).bind fun _ _ _ => returns_ok trivial

theorem Sane.returns_onStmt {inputs : StmtInputs} {c : StmtEntry} (hsane : hs.Sane)
    (h : hs.CarefulOn p (.stmt inputs c)) : Returns (fun _ => True) (hs.onStmt p inputs c) := by
  obtain ⟨s, d, hst, hd, hop⟩ := h
  obtain ⟨hq, hb, hready⟩ := hsane.queries p s d hst hd
  have henter := RetsSTMT.returns_enter hq hb (hready inputs) hop
  refine returns_deref_bind hst (returns_deref_bind hd ?_)
  exact (returns_inside henter).bind fun _ _ _ => returns_ok trivial

theorem returns_onDesc {e : DescriptorType} {c : DescCall} (h : hs.CarefulOn p (.desc e c)) :
    Returns (fun _ => True) (hs.onDesc p e c) := by
  obtain ⟨s, d, hst, hd, hop⟩ := h
  have henter : Returns (fun _ => True) (s.stmt.enterDesc e c) :=
    (BaseDesc.returns_call hop).map fun _ _ _ => trivial
  refine returns_deref_bind hst (returns_deref_bind hd ?_)
  exact (returns_inside henter).bind fun _ _ _ => returns_ok trivial

theorem Sane.returns_sqlFreeStmt {option : Nat} (hsane : hs.Sane)
    (h : hs.CarefulOn p (.freeStmt option)) :
    Returns (fun _ => True) (hs.sqlFreeStmt p option) := by
  obtain ⟨s, d, hst, hd, hop⟩ := h
  have hunbind := RetsSTMT.returns_sqlFreeStmt (hsane.queries p s d hst hd).1 hop
  refine returns_deref_bind hst (returns_deref_bind hd ?_)
  dsimp only
  split_ifs
  · exact returns_ok trivial
  · exact (returns_inside hunbind).bind fun _ _ _ => returns_ok trivial

end Handles

namespace DriverCall

variable {hs hs' : Handles} {out : Outcome} {p q : Ptr} {c : DriverCall}

/-- **A careful call returns.** -/
theorem returns_call (hsane : hs.Sane) (hc : c.Careful hs) :
    Returns (fun _ => True) (c.call hs) := by
  cases c with
  | allocHandle handleType input output allocated =>
    show Returns _ (hs.sqlAllocHandle handleType input output allocated)
    unfold sqlAllocHandle
    split
    · exact returns_ok trivial
    · exact returns_sqlAllocConnect hc
    · exact returns_sqlAllocStmt hc
    · exact returns_ok trivial
  | allocEnv environmentHandle allocated => exact returns_ok trivial
  | allocConnect q handle allocated =>
    exact returns_checked fun hne => returns_sqlAllocConnect (hc hne)
  | allocStmt q handle allocated =>
    exact returns_checked fun hne => returns_sqlAllocStmt (hc hne)
  | freeHandle handleType handle =>
    refine returns_checked fun hne => ?_
    unfold sqlFreeHandle
    split
    · exact returns_sqlFreeEnv (hc hne)
    · exact returns_sqlFreeConnect hsane.linked (hc hne)
    · exact returns_drop hsane.linked (hc hne)
    · exact returns_ok trivial
  | freeEnv q => exact returns_checked fun hne => returns_sqlFreeEnv (hc hne)
  | freeConnect q =>
    exact returns_checked fun hne => returns_sqlFreeConnect hsane.linked (hc hne)
  | freeStmt p option => exact returns_checked fun hne => hsane.returns_sqlFreeStmt (hc hne)
  | session q ctx c =>
    refine returns_checked fun hne => ?_
    obtain ⟨d, hd, -⟩ := hc hne
    have hlive : hs.dbcs q ≠ none := Option.ne_none_iff_exists'.mpr ⟨d, hd⟩
    exact @returns_onDbc hs q hsane.linked ctx (.session c) hlive trivial
  | env q c =>
    show Returns _ (if q = 0 then .ok (hs.returns c.val.nullResult) else hs.onEnv q c)
    split_ifs with hnull
    · exact returns_ok trivial
    · exact returns_onEnv (hc hnull).1 (hc hnull).2
  | dbc q ctx c =>
    show Returns _ (if q = 0 then .ok (hs.returns c.val.nullResult) else hs.onDbc q ctx c)
    split_ifs with hnull
    · exact returns_ok trivial
    · exact returns_onDbc hsane.linked (hc hnull).1 (hc hnull).2
  | stmt p inputs c =>
    show Returns _ (if p = 0 then .ok (hs.returns c.val.nullResult) else hs.onStmt p inputs c)
    split_ifs with hnull
    · exact returns_ok trivial
    · exact hsane.returns_onStmt (hc hnull)
  | desc p e c => exact returns_onDesc hc

/-! ## What a careful call leaves -/

end DriverCall

end EzRets
