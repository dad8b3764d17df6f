import EzRets.BulkCursor

/-!
# EzRets.ObjectRows — the rows of an object query

`OnDemandObjectResultSet::hasNext` asks the response for one object after the other.  Objects that
the server does not have are skipped, fatal reply codes become exceptions, and what is left is a
row, whose map is filled from the object's descriptor alone.
-/

namespace EzRets

open FaultRun

/-! ## What a response amounts to -/

/-- The reply code ends the fetch with an exception. -/
def ObjectDescriptor.IsFatal (d : ObjectDescriptor) : Prop := d.getRetsReplyCode ∈ objectErrorCodes

instance (d : ObjectDescriptor) : Decidable d.IsFatal :=
  inferInstanceAs (Decidable (d.getRetsReplyCode ∈ objectErrorCodes))

/-- `No Object Found`. -/
def ObjectDescriptor.IsMissing (d : ObjectDescriptor) : Prop := d.getRetsReplyCode = 20403

instance (d : ObjectDescriptor) : Decidable d.IsMissing :=
  inferInstanceAs (Decidable (d.getRetsReplyCode = 20403))

/-- The object's data stream can be read to its end. -/
def ObjectDescriptor.Readable (d : ObjectDescriptor) : Prop := ∃ obj, d.getData = .ok obj

/-- What a descriptor makes of a fetch. -/
inductive ObjectEvent
  | row (d : ObjectDescriptor)
  | failure (d : ObjectDescriptor)

/-- A fatal code fails the fetch, a missing object is skipped, every other one is a row. -/
def objectEvent (d : ObjectDescriptor) : Option ObjectEvent :=
  if d.IsFatal then some (.failure d) else if d.IsMissing then none else some (.row d)

/-- The answers to the fetches of a response. -/
def objectEvents (ds : List ObjectDescriptor) : List ObjectEvent := ds.filterMap objectEvent

def ObjectEvent.row? : ObjectEvent → Option ObjectDescriptor
  | row d => some d
  | failure _ => none

def ObjectEvent.failure? : ObjectEvent → Option ObjectDescriptor
  | row _ => none
  | failure d => some d

/-- The values of the row of a descriptor. -/
def objectRow (d : ObjectDescriptor) : Str → Str :=
  Function.update (objectFields d) "raw_data".toList
    (match d.getData with
    | .ok obj => obj
    | .error _ => [])

theorem objectEvents_cons (d : ObjectDescriptor) (ds : List ObjectDescriptor) :
    objectEvents (d :: ds) =
      if d.IsFatal then .failure d :: objectEvents ds
      else if d.IsMissing then objectEvents ds
      else .row d :: objectEvents ds := by
  unfold objectEvents
  rw [List.filterMap_cons]
  unfold objectEvent
  split_ifs <;> rfl

/-- The events of one kind are the descriptors of one kind, in order. -/
theorem filterMap_objectEvents {f : ObjectEvent → Option ObjectDescriptor}
    {p : ObjectDescriptor → Bool} (h : ∀ d, (objectEvent d).bind f = Option.guard p d)
    (ds : List ObjectDescriptor) : (objectEvents ds).filterMap f = ds.filter p := by
  rw [objectEvents, List.filterMap_filterMap, ← List.filterMap_eq_filter]
  apply List.filterMap_congr
  intro d _
  exact h d

/-- The rows are the descriptors that are neither fatal nor missing, in order. -/
theorem objectEvents_rows (ds : List ObjectDescriptor) :
    (objectEvents ds).filterMap ObjectEvent.row? =
      ds.filter fun d => ¬ d.IsFatal ∧ ¬ d.IsMissing := by
  apply filterMap_objectEvents
  intro d
  unfold objectEvent
  by_cases hfatal : d.IsFatal
  · simp [hfatal, ObjectEvent.row?, Option.guard]
  · by_cases hmissing : d.IsMissing <;> simp [hfatal, hmissing, ObjectEvent.row?, Option.guard]

/-- The failures are the fatal descriptors, in order. -/
theorem objectEvents_failures (ds : List ObjectDescriptor) :
    (objectEvents ds).filterMap ObjectEvent.failure? = ds.filter fun d => d.IsFatal := by
  apply filterMap_objectEvents
  intro d
  unfold objectEvent
  by_cases hfatal : d.IsFatal
  · simp [hfatal, ObjectEvent.failure?, Option.guard]
  · by_cases hmissing : d.IsMissing <;> simp [hfatal, hmissing, ObjectEvent.failure?, Option.guard]

/-! ## `hasNext` on a response -/

/-- What `hasNext` leaves of a response with the next event `event`, and the events after it. -/
def HasNextAnswers (map : Str → Str) (ds : List ObjectDescriptor) : List ObjectEvent → Prop
  | [] => objectHasNext map (ds.map .ok) = (.ok false, [], map)
  | .failure d :: es => ∃ ds', objectHasNext map (ds.map .ok) =
      (.error (.getObject d.getRetsReplyText), ds'.map .ok, map) ∧ objectEvents ds' = es ∧ ds' ⊆ ds
  | .row d :: es => ∃ ds', objectHasNext map (ds.map .ok) = (.ok true, ds'.map .ok, objectRow d) ∧
      objectEvents ds' = es ∧ ds' ⊆ ds

/-- **`hasNext` goes on to the next event**, however many missing objects stand before it. -/
theorem objectHasNext_events (map : Str → Str) {ds : List ObjectDescriptor}
    (hreadable : ∀ d ∈ ds, d.Readable) : HasNextAnswers map ds (objectEvents ds) := by
  induction ds with
  | nil => rfl
  | cons d ds ih =>
    have ih' := ih fun d' hd' => hreadable d' (by simp [hd'])
    have hsub : ds ⊆ d :: ds := fun d' hd' => by simp [hd']
    have hnext := objectHasNext_ok map d (ds.map .ok)
    rw [objectEvents_cons]
    by_cases hfatal : d.IsFatal
    · rw [if_pos hfatal]
      refine ⟨ds, ?_, rfl, hsub⟩
      exact hnext.trans (if_pos hfatal)
    rw [if_neg hfatal]
    by_cases hmissing : d.IsMissing
    · have hskip : objectHasNext map ((d :: ds).map .ok) = objectHasNext map (ds.map .ok) :=
        hnext.trans ((if_neg hfatal).trans (if_pos hmissing))
      rw [if_pos hmissing]
      rcases hevents : objectEvents ds with _ | ⟨event | event, es⟩
      all_goals
        rw [hevents] at ih'
        unfold HasNextAnswers at ih' ⊢
        rw [hskip]
      · exact ih'
      · obtain ⟨ds', h1, h2, h3⟩ := ih'
        exact ⟨ds', h1, h2, fun d' hd' => hsub (h3 hd')⟩
      · obtain ⟨ds', h1, h2, h3⟩ := ih'
        exact ⟨ds', h1, h2, fun d' hd' => hsub (h3 hd')⟩
    · rw [if_neg hmissing]
      refine ⟨ds, ?_, rfl, hsub⟩
      obtain ⟨obj, hobj⟩ := hreadable d (by simp)
      refine hnext.trans ((if_neg hfatal).trans ((if_neg hmissing).trans ?_))
      simp only [hobj, objectRow]

/-- Executing an object query puts the server's response into its result set. -/
theorem Query.execute_object {conn : Connection} {q : GetObjectQuery} {rs : ResultSet}
    {response : GetObjectResponse} (h : OnDemandObjectQuery.response conn q = .ok (.ok response)) :
    ∃ map, execute conn ⟨.onDemandObject q, some rs⟩ =
      .ok ⟨⟨.onDemandObject q, some { rs with rows := .onDemandObject (some response) map }⟩, [],
        .ok .success⟩ := by
  refine ⟨execute.objectMap ⟨.onDemandObject q, some rs⟩, ?_⟩
  unfold execute
  dsimp only
  rw [h]
  rfl

/-- The columns of an object row receive its values. -/
theorem columnCells_object (map : Str → Str) (cols : List Column) :
    columnCells (fun name => .ok (map name)) cols =
      ⟨cols.zip (cols.map fun col => map col.mName), none⟩ := by
  induction cols with
  | nil => rfl
  | cons col cols ih => simp [columnCells, ih]

namespace RetsSTMT

variable {ctx : CallContext} {stmt : RetsSTMT}

/-! ## Fetching the rows -/

/-- The statement has an object response whose events are still to come. -/
def AwaitsEvents (events : List ObjectEvent) (stmt : RetsSTMT) : Prop :=
  ∃ rs ds map, stmt.mQuery.mResultSet = some rs ∧
    rs.rows = .onDemandObject (some (ds.map .ok)) map ∧ (∀ d ∈ ds, d.Readable) ∧
    objectEvents ds = events

/-- The fetch has moved to the row of `d`, which is what `SQLGetData` reads from now on, and has
delivered the values of `d`: it succeeds iff no bound column fails to convert. -/
def PresentsRow (ctx : CallContext) (stmt : RetsSTMT) (d : ObjectDescriptor) (r : Returned) :
    Prop :=
  ∃ rs rs', stmt.mQuery.mResultSet = some rs ∧ r.stmt.mQuery.mResultSet = some rs' ∧
    rs'.rows.current = .ok (.object (objectRow d)) ∧
    Delivers ctx stmt (rs.mColumns.map fun col => objectRow d col.mName) r

/-- What a fetch answers for an event: it presents the row, it fails with the reply text and without
a row, or there is no more data. -/
def AnswersEvent (ctx : CallContext) (stmt : RetsSTMT) (r : Returned) : Option ObjectEvent → Prop
  | some (.row d) => PresentsRow ctx stmt d r
  | some (.failure d) => r.result = .error ∧ r.writes = [] ∧
      r.stmt.mErrors = [⟨"HY000".toList, d.getRetsReplyText⟩] ∧
      r.stmt.mQuery.mResultSet.map (·.rows.current) = stmt.mQuery.mResultSet.map (·.rows.current)
  | none => r.result = .noData ∧ r.writes = []

/-- **One fetch** answers the first of the events. -/
theorem fetch_event (ctx : CallContext) {events : List ObjectEvent}
    (hawaits : AwaitsEvents events stmt) :
    ∃ r, stmt.call ctx .fetch = .ok r ∧ AnswersEvent ctx stmt r events.head? ∧
      AwaitsEvents events.tail r.stmt := by
  obtain ⟨rs, ds, map, hrs, hrows, hreadable, rfl⟩ := hawaits
  have hempty : rs.rows.isEmpty = false := by
    rw [hrows]
    rfl
  have hnext : rs.rows.hasNext = ((objectHasNext map (ds.map .ok)).1,
      .onDemandObject (some (objectHasNext map (ds.map .ok)).2.1)
        (objectHasNext map (ds.map .ok)).2.2) := by
    rw [hrows]
    rfl
  have hfetch := sqlFetch_of_hasNext ctx hrs hempty
  have hanswers := objectHasNext_events map hreadable
  rcases hevents : objectEvents ds with _ | ⟨event | event, es⟩
  all_goals
    rw [hevents] at hanswers
    unfold HasNextAnswers at hanswers
  · rw [hanswers] at hnext
    rw [hnext] at hfetch
    refine ⟨entered _, call_of_uncaught rfl hfetch, ⟨rfl, rfl⟩, _, [], map, rfl, rfl, by simp, rfl⟩
  · obtain ⟨ds', hmoved, rfl, hsub⟩ := hanswers
    rw [hmoved] at hnext
    have hadvance : (RowSource.onDemandObject (some (ds'.map .ok)) (objectRow event)).advance =
        .ok (.object (objectRow event),
          .onDemandObject (some (ds'.map .ok)) (objectRow event)) := rfl
    obtain ⟨out, hout, hvisited, hends⟩ :=
      sqlFetch_ends ctx hrs ⟨hempty, _, _, hnext, hadvance, rfl⟩
    have hrs' := hvisited.resultSet
    have hcells : (RowData.object (objectRow event)).cells rs.mColumns =
        ⟨rs.mColumns.zip (rs.mColumns.map fun col => objectRow event col.mName), none⟩ :=
      columnCells_object _ _
    have hdelivers := hvisited.delivers hrs (congrArg Cells.cells hcells)
      (fun _ => congrArg Cells.thrown hcells) hends (List.forall_mem_nil Write.IsStatus)
    rw [List.append_nil] at hdelivers
    exact ⟨entered out, call_of_uncaught rfl hout, ⟨rs, _, hrs, hrs', rfl, hdelivers⟩,
      _, ds', objectRow event, hrs', rfl, fun d hd => hreadable d (hsub hd), rfl⟩
  · obtain ⟨ds', hmoved, rfl, hsub⟩ := hanswers
    rw [hmoved] at hnext
    rw [hnext] at hfetch
    refine ⟨entered _, call_of_uncaught rfl hfetch, ⟨rfl, rfl, rfl, ?_⟩, _, ds', map, rfl, rfl,
      fun d hd => hreadable d (hsub hd), rfl⟩
    rw [hrs]
    show some (RowSource.current _) = some rs.rows.current
    rw [hrows]
    rfl

/-- Fetches answer the events one after the other. -/
theorem fetches_events {fetches : List (CallContext × StmtCall)}
    (hfetches : ∀ p ∈ fetches, p.2 = .fetch) {events : List ObjectEvent}
    (hawaits : AwaitsEvents events stmt) :
    ∃ stmt', run fetches stmt = .ok stmt' ∧ AwaitsEvents (events.drop fetches.length) stmt' := by
  induction fetches generalizing stmt events with
  | nil => exact ⟨stmt, rfl, hawaits⟩
  | cons p fetches ih =>
    obtain ⟨ctx, c⟩ := p
    have hc : c = .fetch := hfetches (ctx, c) (by simp)
    subst hc
    obtain ⟨r, hr, -, htail⟩ := fetch_event ctx hawaits
    obtain ⟨stmt', hrun, hawaits'⟩ := ih (fun p hp => hfetches p (by simp [hp])) htail
    refine ⟨stmt', ?_, ?_⟩
    · show (step (ctx, .fetch) stmt >>= run fetches) = .ok stmt'
      have hstep : step (ctx, .fetch) stmt = .ok r.stmt := by
        unfold step
        rw [hr]
        rfl
      rw [hstep]
      exact hrun
    · rw [List.drop_tail] at hawaits'
      exact hawaits'

/-- **Object rows are exactly the delivered objects**: of any number of fetches each answers the
event at its place, and the events are the fatal and the delivered descriptors in order. -/
theorem answersEvents_of_fetches {rs : ResultSet} {ds : List ObjectDescriptor} {map : Str → Str}
    (hrs : stmt.mQuery.mResultSet = some rs)
    (hrows : rs.rows = .onDemandObject (some (ds.map .ok)) map)
    (hreadable : ∀ d ∈ ds, d.Readable) {fetches : List (CallContext × StmtCall)}
    (hfetches : ∀ p ∈ fetches, p.2 = .fetch) (ctx : CallContext) :
    (∃ stmt' r, run fetches stmt = .ok stmt' ∧ stmt'.call ctx .fetch = .ok r ∧
      AnswersEvent ctx stmt' r (objectEvents ds)[fetches.length]?) ∧
    ((objectEvents ds).filterMap ObjectEvent.row? =
      ds.filter fun d => ¬ d.IsFatal ∧ ¬ d.IsMissing) ∧
    (objectEvents ds).filterMap ObjectEvent.failure? = ds.filter fun d => d.IsFatal := by
  refine ⟨?_, objectEvents_rows ds, objectEvents_failures ds⟩
  obtain ⟨stmt', hrun, hawaits⟩ :=
    fetches_events hfetches ⟨rs, ds, map, hrs, hrows, hreadable, rfl⟩
  obtain ⟨r, hr, hanswers, -⟩ := fetch_event ctx hawaits
  rw [List.head?_drop] at hanswers
  exact ⟨stmt', r, hrun, hr, hanswers⟩

/-- An object with the key `L1` and the reply code `code`. -/
def object (code : Int) : ObjectDescriptor :=
  ⟨code, "Reply".toList, "L1".toList, 1, "image/jpeg".toList, [], [], .ok "JPEG".toList⟩

/-- A statement that waits for the objects of a response. -/
def objectStatement (ds : List ObjectDescriptor) : RetsSTMT :=
  new.setQuery ⟨.onDemandObject ⟨"Property".toList, "Photo".toList, false, ["L1".toList]⟩,
    some ⟨.default, OnDemandObjectQuery.columns, .onDemandObject (some (ds.map .ok)) fun _ => []⟩⟩

/-- A missing object is skipped, the next one is the row of the first fetch and the access that the
server denies fails the second. -/
theorem answersEvents_denied :
    ∃ stmt' r, run [(idleContext, .fetch)] (objectStatement [object 20403, object 0, object 20407]) =
        .ok stmt' ∧ stmt'.call idleContext .fetch = .ok r ∧
      AnswersEvent idleContext stmt' r (some (.failure (object 20407))) := by
  have hreadable : ∀ d ∈ [object 20403, object 0, object 20407], d.Readable := by
    intro d hd
    have hdata : d.getData = .ok "JPEG".toList := by
      simp only [List.mem_cons, List.not_mem_nil, or_false] at hd
      rcases hd with rfl | rfl | rfl <;> rfl
    exact ⟨_, hdata⟩
  have hfetches : ∀ p ∈ [(idleContext, StmtCall.fetch)], p.2 = .fetch := by
    intro p hp
    rw [List.mem_singleton.mp hp]
  have hevent : (objectEvents [object 20403, object 0, object 20407])[1]? =
      some (.failure (object 20407)) := rfl
  have hrs : (objectStatement [object 20403, object 0, object 20407]).mQuery.mResultSet = some
      ⟨.default, OnDemandObjectQuery.columns, .onDemandObject
        (some ([object 20403, object 0, object 20407].map .ok)) fun _ => []⟩ := rfl
  obtain ⟨hanswer, -, -⟩ := answersEvents_of_fetches hrs rfl hreadable hfetches idleContext
  rw [← hevent]
  exact hanswer

end RetsSTMT

end EzRets
