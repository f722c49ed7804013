import RealtimePlatform.Backend.Steps

/-!
# What one step does to a connection and to the router
-/

namespace RealtimePlatform.Backend
open Library UseCases Server

namespace Server

@[simp] theorem setConnection_ctx (s : SessionId) (c : Connection) (server : Server) :
    (server.setConnection s c).ctx = server.ctx := rfl

@[simp] theorem setConnection_redis (s : SessionId) (c : Connection) (server : Server) :
    (server.setConnection s c).redis = server.redis := rfl

@[simp] theorem setCtx_ctx (ctx : RealtimeContext) (server : Server) :
    (server.setCtx ctx).ctx = ctx := rfl

@[simp] theorem setCtx_redis (ctx : RealtimeContext) (server : Server) :
    (server.setCtx ctx).redis = server.redis := rfl

@[simp] theorem setCtx_connections (ctx : RealtimeContext) (server : Server) :
    (server.setCtx ctx).connections = server.connections := rfl

theorem connections_setConnection (s s' : SessionId) (c : Connection) (server : Server) :
    (server.setConnection s c).connections s' = if s' = s then some c else server.connections s' :=
  Function.update_apply server.connections s (some c) s'

theorem connections_setConnection_self (s : SessionId) (c : Connection) (server : Server) :
    (server.setConnection s c).connections s = some c :=
  (connections_setConnection s s c server).trans (if_pos rfl)

theorem setConnection_setConnection (s : SessionId) (c c' : Connection) (server : Server) :
    (server.setConnection s c).setConnection s c' = server.setConnection s c' := by
  unfold setConnection
  rw [Function.update_idem]

theorem connections_dropTask (s : SessionId) (seq : Nat) (task : RelayTask) (c : Connection)
    (server : Server) : (server.dropTask s seq task c).connections s =
      some { c with tasks := AList.erase seq c.tasks } :=
  connections_setConnection_self s _ _

theorem waiting_eq_some {server : Server} {s : SessionId} {c : Connection}
    (found : server.waiting s = some c) :
    server.connections s = some c ∧ c.isOpen = true ∧ c.replaying = [] := by
  obtain ⟨there, ready⟩ := Option.filter_eq_some_iff.mp found
  rw [Bool.and_eq_true, List.isEmpty_iff] at ready
  exact ⟨there, ready⟩

structure Admitted (server : Server) (s : SessionId) (bytes : List UInt8) (now : Clock) (c : Connection)
    (frame : Frame) : Prop where
  ready : server.waiting s = some c
  parsed : parseInbound c.transport bytes = some (.ok frame)
  allowed : (server.ctx.rateLimiter.check s frame.tenantId now.instant).1 = true

structure Handles (env : Env) (server : Server) (s : SessionId) (bytes : List UInt8) (now : Clock)
    (c : Connection) (frame : Frame) (command : FrameCommand) (tenant : Option TenantId)
    (ctx : RealtimeContext) : Prop extends Admitted server s bytes now c frame where
  executed : executeInner env.codec server.redis s ⟨s, c.spawned⟩ c.authenticatedTenant frame now
    (charged s frame now server.ctx) = (command, tenant, ctx)

theorem Handles.dispatched {env : Env} {server : Server} {s : SessionId} {bytes : List UInt8}
    {now : Clock} {c : Connection} {frame : Frame} {command : FrameCommand} {tenant : Option TenantId}
    {ctx : RealtimeContext} (handles : Handles env server s bytes now c frame command tenant ctx) :
    Dispatched env.codec server.redis s ⟨s, c.spawned⟩ c.authenticatedTenant frame now
      (charged s frame now server.ctx) command tenant ctx := by
  have dispatched := executeInner_dispatched env.codec server.redis s ⟨s, c.spawned⟩
    c.authenticatedTenant frame now (charged s frame now server.ctx)
  rwa [handles.executed] at dispatched

/-- The connection when the dispatcher has returned. -/
def returned (env : Env) (server : Server) (s : SessionId) (now : Clock) (c : Connection)
    (frame : Frame) (tenant : Option TenantId) : Connection :=
  afterDispatch env frame now tenant (charged s frame now server.ctx) c

theorem acceptedClaims_eq_some {env : Env} {frame : Frame} {now : Clock} {ctx : RealtimeContext}
    {claims : Claims} : acceptedClaims env frame now ctx = some claims ↔ frame.opcode = .auth ∧
      ctx.auth.validate env.codec now.unixSecs frame.tenantId frame.payload = .ok claims := by
  unfold acceptedClaims
  by_cases opcode : frame.opcode = .auth
  · rcases error_or_ok (ctx.auth.validate env.codec now.unixSecs frame.tenantId frame.payload) with
      ⟨err, invalid⟩ | ⟨found, valid⟩
    · simp [opcode, invalid, Except.toOption]
    · simp [opcode, valid, Except.toOption]
  · simp [opcode]

def identified (tenantId : TenantId) (sub : String) (c : Connection) : Connection :=
  { c with
    authenticatedTenant := some tenantId
    identity := some (tenantId, sub) }

theorem returned_accepted {env : Env} {server : Server} {s : SessionId} {now : Clock} {c : Connection}
    {frame : Frame} {claims : Claims} (accepted : acceptedClaims env frame now server.ctx = some claims) :
    returned env server s now c frame (some frame.tenantId) =
      identified frame.tenantId claims.sub c := by
  show afterDispatch env frame now _ server.ctx c = _
  simp only [afterDispatch, accepted, identified]

theorem returned_refused {env : Env} {server : Server} {s : SessionId} {now : Clock} {c : Connection}
    {frame : Frame} (refused : acceptedClaims env frame now server.ctx = none) :
    returned env server s now c frame c.authenticatedTenant = c := by
  show afterDispatch env frame now _ server.ctx c = _
  simp only [afterDispatch, refused]

theorem returned_eq {env : Env} {server : Server} {s : SessionId} {now : Clock} {c : Connection}
    {frame : Frame} (opcode : frame.opcode ≠ .auth) :
    returned env server s now c frame c.authenticatedTenant = c :=
  returned_refused (if_neg opcode)

theorem opcode_of_publishKey {frame : Frame} {key : ChannelKey} (named : publishKey frame = some key) :
    frame.opcode ≠ .auth := by
  intro opcode
  simp [publishKey, opcode] at named

def settled (s : SessionId) (now : Clock) (c : Connection) (frame : Frame) (command : FrameCommand)
    (ctx : RealtimeContext) : RealtimeContext :=
  let recorded := { ctx with metrics := ctx.metrics.recordFrame frame.tenantId frame.opcode.label }
  match command with
  | .closeAuthFailed => leave s c now recorded
  | _ => recorded

theorem handleFrame_eq {env : Env} {s : SessionId} {c : Connection} {frame : Frame} {now : Clock}
    (server : Server) {command : FrameCommand} {tenant : Option TenantId} {ctx : RealtimeContext}
    (executed : executeInner env.codec server.redis s ⟨s, c.spawned⟩ c.authenticatedTenant frame now
      server.ctx = (command, tenant, ctx)) :
    let c' := afterDispatch env frame now tenant server.ctx c
    handleFrame env s c frame now server =
      (server.setCtx (settled s now c' frame command ctx)).setConnection s
        (react frame command c') := by
  unfold handleFrame dispatchFrame
  rw [executed]
  rfl

theorem inbound_cases {env : Env} {server server' : Server} {s : SessionId} {bytes : List UInt8}
    {now : Clock} (taken : server.inboundStep env s bytes now = some server') :
    ∃ c, server.waiting s = some c ∧
      ((∃ err, parseInbound c.transport bytes = some (.error err) ∧ server' = server) ∨
        ∃ frame, parseInbound c.transport bytes = some (.ok frame) ∧
          (((server.ctx.rateLimiter.check s frame.tenantId now.instant).1 = false ∧
              server' = server.setCtx { charged s frame now server.ctx with
                metrics := server.ctx.metrics.recordRateLimited frame.tenantId }) ∨
            ∃ command tenant ctx, Handles env server s bytes now c frame command tenant ctx ∧
              server' = (server.setCtx (settled s now (returned env server s now c frame tenant) frame
                command ctx)).setConnection s
                  (react frame command (returned env server s now c frame tenant)))) := by
  obtain ⟨c, ready, parsed⟩ := Option.bind_eq_some_iff.mp taken
  refine ⟨c, ready, ?_⟩
  obtain ⟨result, read, outcome⟩ := Option.map_eq_some_iff.mp parsed
  cases result with
  | error err => exact Or.inl ⟨err, read, outcome.symm⟩
  | ok frame =>
      refine Or.inr ⟨frame, read, ?_⟩
      change server.takeFrame env s c frame now = server' at outcome
      unfold takeFrame at outcome
      by_cases allowed : (server.ctx.rateLimiter.check s frame.tenantId now.instant).1 = true
      · right
        simp only [allowed, if_true] at outcome
        rcases executed : executeInner env.codec server.redis s ⟨s, c.spawned⟩ c.authenticatedTenant
          frame now (charged s frame now server.ctx) with ⟨command, tenant, ctx⟩
        have handled := handleFrame_eq (server.setCtx (charged s frame now server.ctx)) executed
        exact ⟨command, tenant, ctx, ⟨⟨ready, read, allowed⟩, executed⟩, outcome.symm.trans handled⟩
      · left
        have stopped : (server.ctx.rateLimiter.check s frame.tenantId now.instant).1 = false :=
          Bool.eq_false_iff.mpr allowed
        simp only [stopped, Bool.false_eq_true, if_false] at outcome
        exact ⟨stopped, outcome.symm⟩

theorem Admitted.handled {env : Env} {server server' : Server} {s : SessionId} {bytes : List UInt8}
    {now : Clock} {c : Connection} {frame : Frame} (admitted : Admitted server s bytes now c frame)
    (taken : step env server (.inbound s bytes now) = some server') :
    ∃ command tenant ctx, Handles env server s bytes now c frame command tenant ctx ∧
      server' = (server.setCtx (settled s now (returned env server s now c frame tenant) frame
        command ctx)).setConnection s
          (react frame command (returned env server s now c frame tenant)) := by
  obtain ⟨c', ready, outcome⟩ := inbound_cases taken
  obtain rfl := Option.some.inj (admitted.ready.symm.trans ready)
  rcases outcome with ⟨err, parsed, _⟩ | ⟨frame', parsed, outcome⟩
  · rw [admitted.parsed] at parsed
    cases parsed
  obtain rfl : frame = frame' := by
    rw [admitted.parsed] at parsed
    exact Except.ok.inj (Option.some.inj parsed)
  rcases outcome with ⟨refused, _⟩ | handled
  · rw [admitted.allowed] at refused
    cases refused
  · exact handled

theorem Handles.accepted {env : Env} {server : Server} {s : SessionId} {bytes : List UInt8}
    {now : Clock} {c : Connection} {frame : Frame} {command : FrameCommand} {tenant : Option TenantId}
    {ctx : RealtimeContext} {claims : Claims}
    (handles : Handles env server s bytes now c frame command tenant ctx)
    (accepted : acceptedClaims env frame now server.ctx = some claims) :
    command = .subscribed (unicastInboxChannel claims.sub) (.channel (inboxKey frame claims.sub)) ∧
      tenant = some frame.tenantId ∧
      ctx = { (charged s frame now server.ctx).handleJoin frame.tenantId s claims.sub now with
        channelRouter := server.ctx.channelRouter.attach (inboxKey frame claims.sub)
          ⟨s, c.spawned⟩ } := by
  obtain ⟨opcode, valid⟩ := acceptedClaims_eq_some.mp accepted
  have executed := executeInner_auth env.codec server.redis s ⟨s, c.spawned⟩ c.authenticatedTenant frame now
    (charged s frame now server.ctx) opcode valid
  rw [handles.executed, Prod.mk.injEq, Prod.mk.injEq] at executed
  exact executed

theorem Admitted.authenticated {env : Env} {server server' : Server} {s : SessionId}
    {bytes : List UInt8} {now : Clock} {c : Connection} {frame : Frame} {claims : Claims}
    (admitted : Admitted server s bytes now c frame)
    (accepted : acceptedClaims env frame now server.ctx = some claims)
    (taken : step env server (.inbound s bytes now) = some server') :
    server'.ctx.presence = server.ctx.presence.register frame.tenantId s claims.sub now ∧
      server'.connections s = some (Connection.spawnRelay (unicastInboxChannel claims.sub)
        (.channel (inboxKey frame claims.sub)) true (identified frame.tenantId claims.sub c)) := by
  obtain ⟨command, tenant, ctx, handles, rfl⟩ := admitted.handled taken
  obtain ⟨rfl, rfl, rfl⟩ := handles.accepted accepted
  refine ⟨rfl, (connections_setConnection s s _ _).trans ((if_pos rfl).trans ?_)⟩
  rw [returned_accepted accepted]
  simp only [react, (acceptedClaims_eq_some.mp accepted).1, decide_true]

def handledFrame (server : Server) (s : SessionId) (bytes : List UInt8) (now : Clock) : Option Frame :=
  (server.waiting s).bind fun c => (parseInbound c.transport bytes).bind fun result =>
    result.toOption.filter fun frame =>
      (server.ctx.rateLimiter.check s frame.tenantId now.instant).1

def publishedText (env : Env) (request : HttpRequest) (now : Clock) (ctx : RealtimeContext) :
    Option String :=
  if request.admissible env.codec ctx.auth now.unixSecs &&
      (ctx.rateLimiter.checkTenant request.tenantId now.instant).1 then request.text
  else none

section
variable {env : Env} {server : Server} {s : SessionId} {bytes : List UInt8} {now : Clock}
  {c : Connection} {frame : Frame}

theorem handledFrame_of_admitted (admitted : Admitted server s bytes now c frame) :
    handledFrame server s bytes now = some frame := by
  simp [handledFrame, admitted.ready, admitted.parsed, Except.toOption, admitted.allowed]

theorem handledFrame_unparsed {err : ProtocolError} (ready : server.waiting s = some c)
    (parsed : parseInbound c.transport bytes = some (.error err)) :
    handledFrame server s bytes now = none := by
  simp [handledFrame, ready, parsed, Except.toOption]

theorem handledFrame_limited (ready : server.waiting s = some c)
    (parsed : parseInbound c.transport bytes = some (.ok frame))
    (refused : (server.ctx.rateLimiter.check s frame.tenantId now.instant).1 = false) :
    handledFrame server s bytes now = none := by
  simp [handledFrame, ready, parsed, Except.toOption, refused]

theorem admitted_of_handledFrame (handled : handledFrame server s bytes now = some frame) :
    ∃ c, Admitted server s bytes now c frame := by
  obtain ⟨c, ready, rest⟩ := Option.bind_eq_some_iff.mp handled
  obtain ⟨result, parsed, passed⟩ := Option.bind_eq_some_iff.mp rest
  obtain ⟨found, allowed⟩ := Option.filter_eq_some_iff.mp passed
  cases result with
  | error err => cases found
  | ok read =>
      obtain rfl := Option.some.inj found
      exact ⟨c, ready, parsed, allowed⟩

theorem httpStep_of_text {request : HttpRequest} {ctx : RealtimeContext} {payload : String}
    (text : publishedText env request now ctx = some payload) :
    httpStep env request now ctx = publishBuilt request.tenantId request.channelId payload now
      (chargedTenant request.tenantId now ctx) := by
  unfold publishedText at text
  split at text
  · rename_i passes
    obtain ⟨admissible, allowed⟩ := Bool.and_eq_true _ _ |>.mp passes
    rw [httpStep_eq, if_pos admissible, if_pos allowed, text]
  · cases text

end

inductive Stepped (env : Env) (server : Server) : Event → Server → Prop
  | connected {s transport} : server.connections s = none →
      Stepped env server (.connect s transport)
        ((server.setCtx { server.ctx with
          metrics := server.ctx.metrics.connectionOpened transport }).setConnection s
            (Connection.new transport))
  | unparsed {s bytes now c err} : server.waiting s = some c →
      parseInbound c.transport bytes = some (.error err) →
      Stepped env server (.inbound s bytes now) server
  | limited {s bytes now c frame} : server.waiting s = some c →
      parseInbound c.transport bytes = some (.ok frame) →
      (server.ctx.rateLimiter.check s frame.tenantId now.instant).1 = false →
      Stepped env server (.inbound s bytes now) (server.setCtx { charged s frame now server.ctx with
        metrics := server.ctx.metrics.recordRateLimited frame.tenantId })
  | handled {s bytes now c frame command tenant ctx} :
      Handles env server s bytes now c frame command tenant ctx →
      Stepped env server (.inbound s bytes now)
        ((server.setCtx (settled s now (returned env server s now c frame tenant) frame command
          ctx)).setConnection s (react frame command (returned env server s now c frame tenant)))
  | received {s seq c task m} : server.connections s = some c → AList.lookup seq c.tasks = some task →
      task.inFlight = none →
      server.ctx.channelRouter.receive task.source ⟨s, seq⟩ task.next = .message m →
      Stepped env server (.relayRecv s seq) (server.setConnection s { c with
        tasks := AList.insert seq { task with next := task.next + 1, inFlight := some m } c.tasks })
  | ended {s seq c task} : server.connections s = some c → AList.lookup seq c.tasks = some task →
      (server.ctx.channelRouter.receive task.source ⟨s, seq⟩ task.next).isOver = true →
      Stepped env server (.relayRecv s seq) (server.dropTask s seq task c)
  | queued {s seq c task m} : server.connections s = some c → AList.lookup seq c.tasks = some task →
      task.inFlight = some m → c.isOpen = true → c.outQueue.length < relayBuffer →
      Stepped env server (.relaySend s seq) (server.setConnection s { c with
        tasks := AList.insert seq { task with inFlight := none } c.tasks
        outQueue := c.outQueue ++ [⟨m, .relay task.source⟩] })
  | orphaned {s seq c task} : server.connections s = some c → AList.lookup seq c.tasks = some task →
      c.isOpen = false → Stepped env server (.relaySend s seq) (server.dropTask s seq task c)
  | replayed {s c m rest} : server.connections s = some c → c.replaying = m :: rest →
      c.isOpen = true → c.outQueue.length < relayBuffer →
      Stepped env server (.replaySend s) (server.setConnection s { c with
        replaying := rest
        outQueue := c.outQueue ++ [⟨m, .replay⟩] })
  | wrote {s c item rest} : server.waiting s = some c → c.outQueue = item :: rest →
      Stepped env server (.writeOut s)
        (server.setConnection s ({ c with outQueue := rest }.write [.relayed item]))
  | closed {s now c} : server.waiting s = some c →
      Stepped env server (.disconnect s now)
        ((server.setCtx (leave s c now server.ctx)).setConnection s c.shut)
  | dropped {s seq c task} : server.connections s = some c → AList.lookup seq c.tasks = some task →
      task.aborted = true → Stepped env server (.taskDrop s seq) (server.dropTask s seq task c)
  | swept {order now} : order.Perm (server.ctx.presence.expired now) →
      Stepped env server (.sweep order now) (server.setCtx (server.ctx.sweep order now))
  | requested {request now} :
      Stepped env server (.http request now) (server.setCtx (httpStep env request now server.ctx))
  | administered {op} : Stepped env server (.admin op) (server.setCtx (adminStep op server.ctx))
  | sent {rest} : Stepped env server .clusterSend (server.setCtx { server.ctx with
      pushFallback := { server.ctx.pushFallback with cluster := some rest } })
  | passed {payload now} : remoteFrame env.instanceId payload = none →
      Stepped env server (.clusterReceive payload now) server
  | reinjected {payload now frame} : remoteFrame env.instanceId payload = some frame →
      Stepped env server (.clusterReceive payload now) (server.setCtx (reinject frame now server.ctx))
  | persisted {id evicted key m rest redis} :
      server.ctx.channelRouter.historyPort = some ⟨(key, m) :: rest⟩ →
      server.redis.xadd env.historyStreamMaxlen evicted key id m = some redis →
      Stepped env server (.historyWrite id evicted) { server with
        redis := redis
        ctx := { server.ctx with
          channelRouter := { server.ctx.channelRouter with historyPort := some ⟨rest⟩ } } }
  | added {key frame id evicted redis} :
      server.redis.xadd env.historyStreamMaxlen evicted key id ⟨frame, key⟩ = some redis →
      Stepped env server (.remoteXadd key frame id evicted) { server with redis := redis }

theorem step_cases {env : Env} {server server' : Server} {e : Event}
    (taken : step env server e = some server') : Stepped env server e server' := by
  cases e with
  | connect s transport =>
      change server.connectStep s transport = some server' at taken
      unfold connectStep at taken
      split at taken
      · cases taken
      · cases taken
        exact .connected ‹_›
  | inbound s bytes now =>
      obtain ⟨c, ready, outcome⟩ := inbound_cases taken
      rcases outcome with ⟨err, parsed, rfl⟩ | ⟨frame, parsed, ⟨refused, rfl⟩ | ⟨_, _, _, handles, rfl⟩⟩
      · exact .unparsed ready parsed
      · exact .limited ready parsed refused
      · exact .handled handles
  | relayRecv s seq =>
      obtain ⟨c, there, rest⟩ := Option.bind_eq_some_iff.mp taken
      obtain ⟨task, running, action⟩ := Option.bind_eq_some_iff.mp rest
      split at action
      · cases action
      rename_i idle
      have free : task.inFlight = none := by simpa using idle
      split at action
      · rename_i m got
        cases action
        exact .received there running free got
      · cases action
      all_goals
        rename_i finished
        cases action
        exact .ended there running (by rw [finished]; rfl)
  | relaySend s seq =>
      obtain ⟨c, there, rest⟩ := Option.bind_eq_some_iff.mp taken
      obtain ⟨task, running, rest⟩ := Option.bind_eq_some_iff.mp rest
      obtain ⟨m, holding, action⟩ := Option.bind_eq_some_iff.mp rest
      split at action
      · rename_i shut
        cases action
        exact .orphaned there running (by simpa using shut)
      rename_i isOpen
      split at action
      · cases action
        exact .queued there running holding (by simpa using isOpen) ‹_›
      · cases action
  | replaySend s =>
      obtain ⟨c, there, action⟩ := Option.bind_eq_some_iff.mp taken
      split at action
      · cases action
      rename_i m rest pending
      split at action
      · rename_i room
        cases action
        rw [Bool.and_eq_true, decide_eq_true_eq] at room
        exact .replayed there pending room.1 room.2
      · cases action
  | writeOut s =>
      obtain ⟨c, ready, action⟩ := Option.bind_eq_some_iff.mp taken
      split at action
      · cases action
      · cases action
        exact .wrote ready ‹_›
  | disconnect s now =>
      obtain ⟨c, ready, rfl⟩ := Option.map_eq_some_iff.mp taken
      exact .closed ready
  | taskDrop s seq =>
      obtain ⟨c, there, rest⟩ := Option.bind_eq_some_iff.mp taken
      obtain ⟨task, running, action⟩ := Option.bind_eq_some_iff.mp rest
      split at action
      · rename_i stopped
        cases action
        exact .dropped there running stopped
      · cases action
  | sweep order now =>
      change server.sweepStep order now = some server' at taken
      unfold sweepStep at taken
      split at taken
      · cases taken
        exact .swept ‹_›
      · cases taken
  | http request now =>
      cases taken
      exact .requested
  | admin op =>
      cases taken
      exact .administered
  | clusterSend =>
      change server.clusterSendStep = some server' at taken
      unfold clusterSendStep at taken
      split at taken
      · cases taken
        exact .sent
      · cases taken
  | clusterReceive payload now =>
      change server.clusterReceiveStep env payload now = some server' at taken
      unfold clusterReceiveStep at taken
      split at taken
      · split at taken
        · cases taken
          exact .passed ‹_›
        · cases taken
          exact .reinjected ‹_›
      · cases taken
  | historyWrite id evicted =>
      change server.historyWriteStep env id evicted = some server' at taken
      unfold historyWriteStep at taken
      split at taken
      · obtain ⟨redis, added, rfl⟩ := Option.map_eq_some_iff.mp taken
        exact .persisted ‹_› added
      · cases taken
  | remoteXadd key frame id evicted =>
      obtain ⟨redis, added, rfl⟩ := Option.map_eq_some_iff.mp taken
      exact .added added

/-- What a step can do to a connection that exists before it. -/
inductive Moved (env : Env) (server : Server) (s : SessionId) : Event → Connection → Connection → Prop
  | still (e c) : Moved env server s e c c
  | handled {bytes now c frame command tenant ctx} :
      Handles env server s bytes now c frame command tenant ctx →
      Moved env server s (.inbound s bytes now) c
        (react frame command (returned env server s now c frame tenant))
  | received {seq c task m} : AList.lookup seq c.tasks = some task → task.inFlight = none →
      server.ctx.channelRouter.receive task.source ⟨s, seq⟩ task.next = .message m →
      Moved env server s (.relayRecv s seq) c { c with
        tasks := AList.insert seq { task with next := task.next + 1, inFlight := some m } c.tasks }
  | ended {e seq c} : Moved env server s e c { c with tasks := AList.erase seq c.tasks }
  | queued {seq c task m} : AList.lookup seq c.tasks = some task → task.inFlight = some m →
      c.isOpen = true → c.outQueue.length < relayBuffer →
      Moved env server s (.relaySend s seq) c { c with
        tasks := AList.insert seq { task with inFlight := none } c.tasks
        outQueue := c.outQueue ++ [⟨m, .relay task.source⟩] }
  | replayed {c m rest} : c.replaying = m :: rest → c.isOpen = true →
      c.outQueue.length < relayBuffer →
      Moved env server s (.replaySend s) c { c with
        replaying := rest
        outQueue := c.outQueue ++ [⟨m, .replay⟩] }
  | wrote {c item rest} : server.waiting s = some c → c.outQueue = item :: rest →
      Moved env server s (.writeOut s) c ({ c with outQueue := rest }.write [.relayed item])
  | closed {c now} : server.waiting s = some c → Moved env server s (.disconnect s now) c c.shut

section
variable {env : Env} {server server' : Server} {s : SessionId} {c' : Connection}

def MovedTo (env : Env) (server : Server) (s : SessionId) (e : Event) (c' : Connection) : Prop :=
  (∃ transport, e = .connect s transport ∧ server.connections s = none ∧
    c' = Connection.new transport) ∨
  ∃ c, server.connections s = some c ∧ Moved env server s e c c'

theorem movedTo_still {e : Event} (found : server.connections s = some c') :
    MovedTo env server s e c' :=
  Or.inr ⟨c', found, .still e c'⟩

theorem movedTo_of_set {e : Event} (ctx : RealtimeContext) {s₀ : SessionId} {c₁ : Connection}
    (own : s = s₀ → MovedTo env server s e c₁)
    (found : ((server.setCtx ctx).setConnection s₀ c₁).connections s = some c') :
    MovedTo env server s e c' := by
  rw [connections_setConnection] at found
  by_cases same : s = s₀
  · rw [if_pos same, Option.some.injEq] at found
    exact found ▸ own same
  · rw [if_neg same, setCtx_connections] at found
    exact movedTo_still found

theorem step_moved {e : Event} (taken : step env server e = some server')
    (found : server'.connections s = some c') : MovedTo env server s e c' := by
  cases step_cases taken with
  | connected fresh =>
      rename_i s₀ transport
      refine movedTo_of_set _ (fun same => Or.inl ⟨transport, ?_, ?_, rfl⟩) found
      · rw [same]
      · rw [same, fresh]
  | handled handles =>
      refine movedTo_of_set _ (fun same => ?_) found
      subst same
      exact Or.inr ⟨_, (waiting_eq_some handles.ready).1, .handled handles⟩
  | received there running free got =>
      refine movedTo_of_set server.ctx (fun same => ?_) found
      subst same
      exact Or.inr ⟨_, there, .received running free got⟩
  | ended there | orphaned there | dropped there =>
      refine movedTo_of_set _ (fun same => ?_) found
      subst same
      exact Or.inr ⟨_, there, .ended⟩
  | queued there running holding isOpen room =>
      refine movedTo_of_set server.ctx (fun same => ?_) found
      subst same
      exact Or.inr ⟨_, there, .queued running holding isOpen room⟩
  | replayed there pending isOpen room =>
      refine movedTo_of_set server.ctx (fun same => ?_) found
      subst same
      exact Or.inr ⟨_, there, .replayed pending isOpen room⟩
  | wrote ready queue =>
      refine movedTo_of_set server.ctx (fun same => ?_) found
      subst same
      exact Or.inr ⟨_, (waiting_eq_some ready).1, .wrote ready queue⟩
  | closed ready =>
      refine movedTo_of_set _ (fun same => ?_) found
      subst same
      exact Or.inr ⟨_, (waiting_eq_some ready).1, .closed ready⟩
  | _ => exact movedTo_still found

theorem connections_kept {c : Connection} {e : Event} (taken : step env server e = some server')
    (there : server.connections s = some c) : ∃ c', server'.connections s = some c' := by
  have set : ∀ (ctx : RealtimeContext) (q : SessionId) (d : Connection),
      ∃ c', ((server.setCtx ctx).setConnection q d).connections s = some c' := by
    intro ctx q d
    rw [connections_setConnection]
    by_cases same : s = q
    · exact ⟨d, if_pos same⟩
    · rw [if_neg same]
      exact ⟨c, there⟩
  cases step_cases taken with
  | connected | handled | ended | orphaned | dropped | closed => exact set _ _ _
  | received | queued | replayed | wrote => exact set server.ctx _ _
  | _ => exact ⟨c, there⟩

end

theorem leave_broadcasts (s : SessionId) (c : Connection) (now : Clock) (ctx : RealtimeContext) :
    Broadcasts ctx.channelRouter (leave s c now ctx).channelRouter := by
  unfold leave
  simp only
  split
  · exact RealtimeContext.handleLeave_broadcasts s now { ctx with
      rateLimiter := ctx.rateLimiter.dropSession s
      metrics := ctx.metrics.connectionClosed c.transport }
  · exact .refl _

theorem settled_broadcasts (s : SessionId) (now : Clock) (c : Connection) (frame : Frame)
    (command : FrameCommand) (ctx : RealtimeContext) :
    Broadcasts ctx.channelRouter (settled s now c frame command ctx).channelRouter := by
  cases command with
  | closeAuthFailed => exact leave_broadcasts s c now { ctx with
      metrics := ctx.metrics.recordFrame frame.tenantId frame.opcode.label }
  | _ => exact .refl _

theorem publishBuilt_broadcasts (tenantId : TenantId) (channelId payload : String) (now : Clock)
    (ctx : RealtimeContext) :
    Broadcasts ctx.channelRouter (publishBuilt tenantId channelId payload now ctx).channelRouter := by
  unfold publishBuilt
  simp only
  split
  · exact .refl _
  · rw [RealtimeContext.channelRouter_publishAndFanout]
    exact .publish _ _ _ _ _

theorem httpStep_broadcasts (env : Env) (request : HttpRequest) (now : Clock) (ctx : RealtimeContext) :
    Broadcasts ctx.channelRouter (httpStep env request now ctx).channelRouter := by
  rw [httpStep_eq]
  split
  · split
    · split
      · exact .refl _
      · exact publishBuilt_broadcasts _ _ _ now (chargedTenant request.tenantId now ctx)
    · exact .refl _
  · exact .refl _

section
variable {env : Env} {server server' : Server}

theorem dropTask_routed (s : SessionId) (seq : Nat) (task : RelayTask) (c : Connection)
    (server : Server) :
    Routed server.ctx.channelRouter (server.dropTask s seq task c).ctx.channelRouter :=
  .detach _ _ _

theorem step_routed {e : Event} (taken : step env server e = some server') :
    Routed server.ctx.channelRouter server'.ctx.channelRouter := by
  cases step_cases taken with
  | handled handles => exact handles.dispatched.routed.trans (settled_broadcasts _ _ _ _ _ _).routed
  | ended | orphaned | dropped => exact dropTask_routed _ _ _ _ server
  | closed => exact (leave_broadcasts _ _ _ server.ctx).routed
  | swept => exact (RealtimeContext.sweep_broadcasts _ _ server.ctx).routed
  | requested => exact (httpStep_broadcasts env _ _ server.ctx).routed
  | administered =>
      rename_i op
      cases op <;> exact .refl _
  | reinjected => exact .publish _ _ _ _ _
  | persisted port => exact .drained port
  | _ => exact .refl _

theorem step_redis {e : Event} (taken : step env server e = some server') :
    server'.redis = server.redis ∨ ∃ key m maxlen evicted id,
      ((∃ frame, m = ⟨frame, key⟩) ∨
        ∃ rest, server.ctx.channelRouter.historyPort = some ⟨(key, m) :: rest⟩) ∧
      server.redis.xadd maxlen evicted key id m = some server'.redis := by
  cases step_cases taken with
  | persisted port added => exact Or.inr ⟨_, _, _, _, _, Or.inr ⟨_, port⟩, added⟩
  | added added => exact Or.inr ⟨_, _, _, _, _, Or.inl ⟨_, rfl⟩, added⟩
  | _ => exact Or.inl rfl

end

end Server
end RealtimePlatform.Backend
