import EzRets.Bindings
import EzRets.ReExecution
import EzRets.Lib.TwoRuns

/-!
# EzRets.Requests — the searches and object requests of a statement

The connection hands every call a session with which it could search the server and ask for objects.
A statement does so only when it executes a query, and then sends one such request at most, which
the query and the settings determine.  So two servers that answer these requests alike are the same
to an application.  The metadata is taken as it is on the server: the requests that librets sends for
it, by default whenever a part of it is first looked at, are none of those here.
-/

namespace EzRets

open FaultRun TwoRuns

/-- The server, as a session reaches it for searches and objects. -/
structure Server where
  search : SearchRequest → Except Exn SearchResultSet
  getObject : GetObjectRequest → Except Exn GetObjectResponse

/-- A search or an object request. -/
inductive ServerRequest
  | search (request : SearchRequest)
  | getObject (request : GetObjectRequest)
  deriving DecidableEq, Repr

/-- The servers answer the request, if there is one, alike. -/
def Server.AgreeAt (server server' : Server) : Option ServerRequest → Prop
  | none => True
  | some (.search request) => server.search request = server'.search request
  | some (.getObject request) => server.getObject request = server'.getObject request

/-- The connection, with its session to that server. -/
def Connection.withServer (conn : Connection) (server : Server) : Connection :=
  { conn with getRetsSession := conn.getRetsSession.map fun session =>
      ⟨session.getLoginUrl, server.search, server.getObject⟩ }

/-- The search or object request that an execution sends. -/
def QueryKind.request (conn : Connection) : QueryKind → Option ServerRequest
  | .dataCount q =>
    if searches conn q then some (.search (DataCountQuery.searchRequest conn q)) else none
  | .onDemandData _ q =>
    if searches conn q then
      q.getFields.map fun fields => .search (OnDemandDataQuery.searchRequest conn q fields)
    else none
  | .onDemandObject q =>
    match q.getObjectKeys.mapM OnDemandObjectQuery.requestEntry with
    | .ok objects => some (.getObject ⟨q.getResource, q.getType, q.getUseLocation, objects⟩)
    | .error _ => none
  | _ => none

namespace Query

variable {conn : Connection} {server server' : Server}

/-- Preparing sends none. -/
theorem prepareResultSet_withServer (conn : Connection) (server : Server) (kind : QueryKind) :
    prepareResultSet (conn.withServer server) kind = prepareResultSet conn kind := by
  cases kind <;> rfl

theorem createSqlQuery_withServer (conn : Connection) (server : Server) (statement : Str) :
    createSqlQuery (conn.withServer server) statement = createSqlQuery conn statement := by
  unfold createSqlQuery
  simp only [prepareResultSet_withServer]
  rfl

theorem session_withServer (conn : Connection) (server : Server) :
    (conn.withServer server).session = conn.session.map fun session =>
      ⟨session.getLoginUrl, server.search, server.getObject⟩ := by
  unfold Connection.session Connection.withServer
  cases conn.getRetsSession <;> rfl

theorem searches_withServer (conn : Connection) (server : Server) (q : DmqlQuery) :
    searches (conn.withServer server) q = searches conn q := rfl

theorem dataCount_withServer {q : DmqlQuery}
    (h : server.AgreeAt server' ((QueryKind.dataCount q).request conn)) :
    DataCountQuery.execute (conn.withServer server) q =
      DataCountQuery.execute (conn.withServer server') q := by
  unfold DataCountQuery.execute
  rw [searches_withServer, searches_withServer]
  by_cases hsend : searches conn q = true
  · simp only [QueryKind.request, if_pos hsend] at h
    have hrequest : ∀ server, DataCountQuery.searchRequest (conn.withServer server) q =
        DataCountQuery.searchRequest conn q := fun _ => rfl
    have hanswer : server.search (DataCountQuery.searchRequest conn q) =
      server'.search (DataCountQuery.searchRequest conn q) := h
    rw [if_pos hsend, if_pos hsend, session_withServer, session_withServer]
    rcases conn.session with fault | session
    · rfl
    · simp only [Except.map, bind, Except.bind, hrequest, hanswer]
  · rw [if_neg hsend, if_neg hsend]

theorem doRetsQuery_withServer {useCompactFormat : Bool} {q : DmqlQuery}
    (hsend : searches conn q = true)
    (h : server.AgreeAt server' ((QueryKind.onDemandData useCompactFormat q).request conn)) :
    OnDemandDataQuery.doRetsQuery (conn.withServer server) q =
      OnDemandDataQuery.doRetsQuery (conn.withServer server') q := by
  simp only [QueryKind.request, if_pos hsend] at h
  unfold OnDemandDataQuery.doRetsQuery
  rcases hfields : q.getFields with _ | fields
  · rfl
  · rw [hfields] at h
    have hanswer : server.search (OnDemandDataQuery.searchRequest conn q fields) =
      server'.search (OnDemandDataQuery.searchRequest conn q fields) := h
    dsimp only
    rw [session_withServer, session_withServer]
    rcases conn.session with fault | session
    · rfl
    · exact congrArg Except.ok hanswer

theorem response_withServer {q : GetObjectQuery}
    (h : server.AgreeAt server' ((QueryKind.onDemandObject q).request conn)) :
    OnDemandObjectQuery.response (conn.withServer server) q =
      OnDemandObjectQuery.response (conn.withServer server') q := by
  unfold OnDemandObjectQuery.response
  rcases hobjects : q.getObjectKeys.mapM OnDemandObjectQuery.requestEntry with e | objects
  · rfl
  · simp only [QueryKind.request, hobjects] at h
    have hanswer : server.getObject ⟨q.getResource, q.getType, q.getUseLocation, objects⟩ =
      server'.getObject ⟨q.getResource, q.getType, q.getUseLocation, objects⟩ := h
    dsimp only
    rw [session_withServer, session_withServer]
    rcases conn.session with fault | session
    · rfl
    · exact congrArg Except.ok hanswer

/-- The listing of tables reads the login URL of the session, and nothing else of it. -/
theorem tableMetadata_withServer (conn : Connection) (server server' : Server)
    (mCatalog mSchema mTable mTableType : Str) :
    TableMetadataQuery.execute (conn.withServer server) mCatalog mSchema mTable mTableType =
      TableMetadataQuery.execute (conn.withServer server') mCatalog mSchema mTable mTableType := by
  unfold TableMetadataQuery.execute
  rw [session_withServer, session_withServer]
  rcases conn.session with fault | session
  · rfl
  · rfl

theorem bulkExecution_withServer {stored : Nat} {kind : QueryKind}
    (h : server.AgreeAt server' (kind.request conn)) :
    bulkExecution (conn.withServer server) stored kind =
      bulkExecution (conn.withServer server') stored kind := by
  cases kind with
  | dataCount q => exact congrArg some (dataCount_withServer h)
  | tableMetadata catalog schema table tableType =>
    exact congrArg some (tableMetadata_withServer conn server server' _ _ _ _)
  | _ => rfl

/-- **An execution sends its request and asks nothing else.** -/
theorem execute_withServer {q : Query} (h : server.AgreeAt server' (q.kind.request conn)) :
    execute (conn.withServer server) q = execute (conn.withServer server') q := by
  have hbulk : ∀ {stored}, bulkExecution (conn.withServer server) stored q.kind =
      bulkExecution (conn.withServer server') stored q.kind := bulkExecution_withServer h
  obtain ⟨kind, rs⟩ := q
  cases kind with
  | null => rfl
  | onDemandData useCompactFormat q =>
    unfold execute
    dsimp only
    rw [searches_withServer, searches_withServer]
    by_cases hsend : searches conn q = true
    · rw [if_pos hsend, if_pos hsend, doRetsQuery_withServer hsend h]
    · rw [if_neg hsend, if_neg hsend]
  | onDemandObject q =>
    unfold execute
    dsimp only
    rw [response_withServer h]
  | dataCount _ | lookup _ | lookupColumns _ | tableMetadata _ _ _ _ | columnMetadata _ _
  | typeInfo _ | specialColumns _ _ _ _ | statistics | primaryKeys _ =>
    unfold execute
    dsimp only
    split
    · rw [hbulk]
    · rfl

end Query

/-- A catalog query searches nothing. -/
theorem Query.request_of_listsCatalog {conn : Connection} {kind : QueryKind}
    (h : RetsSTMT.QueryKind.listsCatalog kind = true) : kind.request conn = none := by
  cases kind with
  | tableMetadata _ _ _ _ | columnMetadata _ _ | typeInfo _ | specialColumns _ _ _ _ | statistics
  | primaryKeys _ => rfl
  | _ => cases h

/-- The context of a call whose session reaches that server. -/
def CallContext.withServer (ctx : CallContext) (server : Server) : CallContext :=
  { ctx with conn := ctx.conn.withServer server }

/-- The search or object request that a call sends: that of the prepared query, or of the query that
`SQLExecDirect` compiles. -/
def StmtCall.request (ctx : CallContext) (stmt : RetsSTMT) : StmtCall → Option ServerRequest
  | .execute => stmt.mQuery.kind.request ctx.conn
  | .execDirect statementText =>
    match statementText.statement with
    | .error _ => none
    | .ok statement =>
      match Query.createSqlQuery ctx.conn statement with
      | .ok (.ok q) => q.kind.request ctx.conn
      | _ => none
  | _ => none

namespace RetsSTMT

variable {ctx : CallContext} {stmt : RetsSTMT} {server server' : Server} {c : StmtCall}

theorem sqlExecute_withServer
    (h : server.AgreeAt server' (stmt.mQuery.kind.request ctx.conn)) :
    stmt.sqlExecute (ctx.withServer server) = stmt.sqlExecute (ctx.withServer server') := by
  have hexecute : stmt.mQuery.execute (ctx.conn.withServer server) =
      stmt.mQuery.execute (ctx.conn.withServer server') := Query.execute_withServer h
  exact congrArg (Except.map _) hexecute

/-- A catalog query is executed without the server. -/
theorem runCatalog_withServer {kind : QueryKind} (hkind : kind.request ctx.conn = none)
    (caught : Exn → Option Error) :
    stmt.runCatalog (ctx.withServer server) kind caught =
      stmt.runCatalog (ctx.withServer server') kind caught := by
  have hexecute : ∀ rs, Query.execute (ctx.conn.withServer server) ⟨kind, some rs⟩ =
      Query.execute (ctx.conn.withServer server') ⟨kind, some rs⟩ := by
    refine fun rs => Query.execute_withServer ?_
    rw [hkind]
    trivial
  unfold runCatalog CallContext.withServer
  simp only [Query.prepareResultSet_withServer, hexecute]

theorem sqlPrepare_withServer (ctx : CallContext) (server : Server) (stmt : RetsSTMT)
    (text : SqlText) : stmt.sqlPrepare (ctx.withServer server) text = stmt.sqlPrepare ctx text := by
  unfold sqlPrepare prepareStatement CallContext.withServer
  simp only [Query.createSqlQuery_withServer]

theorem sqlExecDirect_withServer {text : SqlText}
    (h : server.AgreeAt server' ((StmtCall.execDirect text).request ctx stmt)) :
    stmt.sqlExecDirect (ctx.withServer server) text =
      stmt.sqlExecDirect (ctx.withServer server') text := by
  unfold sqlExecDirect
  rw [sqlPrepare_withServer, sqlPrepare_withServer]
  rcases hprepare : stmt.clearErrors.sqlPrepare ctx text with fault | out
  · rfl
  · simp only [bind, Except.bind]
    split
    · -- the text has been compiled, and the query is the one that is executed
      rename_i hsuccess
      refine sqlExecute_withServer ?_
      obtain ⟨statement, q, hstatement, hcreated, rfl, -⟩ | ⟨-, -, hresult⟩ :=
        sqlPrepare_cases hprepare
      · have hcreated : Query.createSqlQuery ctx.conn statement = .ok (.ok out.stmt.mQuery) :=
          hcreated
        simp only [StmtCall.request, hstatement, hcreated] at h
        exact h
      · exact absurd hsuccess hresult
    · rfl

/-- **A call depends on the server through its request.** -/
theorem call_withServer (h : server.AgreeAt server' (c.request ctx stmt)) :
    stmt.call (ctx.withServer server) c = stmt.call (ctx.withServer server') c := by
  have hcatalog : ∀ {arguments : Except ArgumentFailure QueryKind},
      c.catalogArguments = some arguments →
      stmt.uncaught (ctx.withServer server) c = stmt.uncaught (ctx.withServer server') c := by
    intro arguments hc
    obtain ⟨caught, hcall⟩ := uncaught_catalog hc
    rw [hcall, hcall]
    cases arguments with
    | error failure => rfl
    | ok kind =>
      have hlists := listsCatalog_of_catalogArguments hc
      exact runCatalog_withServer (Query.request_of_listsCatalog hlists) caught
  have huncaught : stmt.uncaught (ctx.withServer server) c =
      stmt.uncaught (ctx.withServer server') c := by
    cases c with
    | execute => exact sqlExecute_withServer h
    | execDirect text => exact sqlExecDirect_withServer h
    | prepare text =>
      exact (sqlPrepare_withServer ctx server stmt text).trans
        (sqlPrepare_withServer ctx server' stmt text).symm
    | tables catalog schema table type => exact hcatalog rfl
    | columns catalog table column => exact hcatalog rfl
    | getTypeInfo dataType => exact hcatalog rfl
    | specialColumns identifierType catalog table scope nullable => exact hcatalog rfl
    | statistics catalog schema => exact hcatalog rfl
    | primaryKeys catalog schema table => exact hcatalog rfl
    | _ => rfl
  exact congrArg (Except.map _) huncaught

/-- A call that two servers may answer. -/
structure Exchange where
  ctx : CallContext
  call : StmtCall
  server : Server
  server' : Server

/-- The servers answer what the call asks alike. -/
def Exchange.Agrees (e : Exchange) (stmt : RetsSTMT) : Prop :=
  e.server.AgreeAt e.server' (e.call.request e.ctx stmt)

/-- **Searches and object requests are those of the executions and no others.**  A run whose servers
are replaced by others, which have the same metadata and answer these requests alike, goes the same
way. -/
theorem trace_eq_of_agrees {exchanges : List Exchange} (h : Meets (fun e stmt =>
      Component.next answer (e.ctx.withServer e.server, e.call) stmt) Exchange.Agrees
      exchanges stmt) :
    Component.trace answer (exchanges.map fun e => (e.ctx.withServer e.server, e.call)) stmt =
      Component.trace answer (exchanges.map fun e => (e.ctx.withServer e.server', e.call)) stmt := by
  refine trace_map_congr (fun e stmt hagrees => ?_) h
  unfold answer
  rw [call_withServer hagrees]

/-- The request of a count of listings. -/
def countRequest : SearchRequest :=
  ⟨"Property".toList, "RES".toList, "(ListPrice=1+)".toList, true, none, none, none, false⟩

/-- A server with `n` listings. -/
def countServer (n : Int) : Server := ⟨fun _ => .ok ⟨n, fun _ => .ok [], []⟩, fun _ => .ok []⟩

/-- A server that answers nothing but the count. -/
def countedServer (n : Int) : Server where
  search request :=
    if request = countRequest then .ok ⟨n, fun _ => .ok [], []⟩ else .error .unknown
  getObject _ := .error .unknown

/-- The calls of a count, each with both servers. -/
def countExchanges : List Exchange :=
  [.prepare countText, .execute, .bindCol 1 nameBinding, .fetch].map
    fun c => ⟨countContext 5, c, countServer 5, countedServer 5⟩

theorem trace_eq_of_agrees_count :
    Component.trace answer (countExchanges.map fun e => (e.ctx.withServer e.server, e.call)) new =
      Component.trace answer
        (countExchanges.map fun e => (e.ctx.withServer e.server', e.call)) new := by
  refine trace_eq_of_agrees ⟨trivial, fun stmt₁ h₁ => ?_⟩
  obtain rfl := Except.ok.inj h₁
  refine ⟨?_, fun _ _ => ⟨trivial, fun _ _ => ⟨trivial, fun _ _ => trivial⟩⟩⟩
  have hcounted : (countServer 5).search countRequest = (countedServer 5).search countRequest := by
    simp [countServer, countedServer]
  exact hcounted

end RetsSTMT

end EzRets
