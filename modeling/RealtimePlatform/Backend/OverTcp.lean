import RealtimePlatform.Backend.Controllers

/-!
# A session seen over TCP

An instance that serves a session over TCP is seen as the instance that serves it over WebSocket, with the
gauges, the transport and what is written changed. Every function of the server commutes with that view.
-/

namespace RealtimePlatform.Backend
open Library Server UseCases

/-- The gauges with `n` connections counted as TCP instead of WebSocket. -/
def MetricsService.moved (n : Int) (metrics : MetricsService) : MetricsService :=
  { metrics with
    wsConnectionsActive := metrics.wsConnectionsActive - n
    tcpConnectionsActive := metrics.tcpConnectionsActive + n }

def RealtimeContext.moved (n : Int) (ctx : RealtimeContext) : RealtimeContext :=
  { ctx with metrics := ctx.metrics.moved n }

theorem MetricsService.moved_opened (n : Int) (metrics : MetricsService) (transport : Transport) :
    (metrics.moved n).connectionOpened transport = (metrics.connectionOpened transport).moved n := by
  cases transport <;> simp only [moved, connectionOpened] <;> congr 1 <;> omega

theorem MetricsService.moved_closed (n : Int) (metrics : MetricsService) (transport : Transport) :
    (metrics.moved n).connectionClosed transport = (metrics.connectionClosed transport).moved n := by
  cases transport <;> simp only [moved, connectionClosed] <;> congr 1 <;> omega

theorem MetricsService.opened_tcp (metrics : MetricsService) :
    (metrics.moved 0).connectionOpened .tcp = (metrics.connectionOpened .webSocket).moved 1 := by
  simp only [moved, connectionOpened]
  congr 1 <;> omega

theorem MetricsService.closed_tcp (metrics : MetricsService) :
    (metrics.moved 1).connectionClosed .tcp = (metrics.connectionClosed .webSocket).moved 0 := by
  simp only [moved, connectionClosed]
  congr 1 <;> omega

namespace RealtimeContext
variable (n : Int) (ctx : RealtimeContext)

theorem departFrom_moved (s : SessionId) (event : PresenceEvent) (tenantId : TenantId) (now : Clock)
    (channelId : String) : departFrom s event tenantId now (ctx.moved n) channelId =
      (departFrom s event tenantId now ctx channelId).moved n := rfl

theorem departAll_moved (s : SessionId) (event : PresenceEvent) (now : Clock) (entry : PresenceEntry) :
    departAll s event now entry (ctx.moved n) = (departAll s event now entry ctx).moved n :=
  List.foldl_hom (moved n) fun ctx channelId => departFrom_moved n ctx s event entry.tenantId now channelId

theorem handleLeave_moved (s : SessionId) (now : Clock) :
    (ctx.moved n).handleLeave s now = (ctx.handleLeave s now).moved n := by
  have same : (ctx.moved n).presence = ctx.presence := rfl
  unfold handleLeave
  rw [same]
  cases AList.lookup s ctx.presence.sessions with
  | none => rfl
  | some entry => exact departAll_moved n { ctx with presence := ctx.presence.remove s } s .leave now entry

theorem sweep_moved (order : List SessionId) (now : Clock) :
    (ctx.moved n).sweep order now = (ctx.sweep order now).moved n := by
  let depart := fun ctx (entry : PresenceEntry) => departAll entry.sessionId .timeout now entry ctx
  have each : ∀ ctx entry, depart (ctx.moved n) entry = (depart ctx entry).moved n :=
    fun ctx entry => departAll_moved n ctx entry.sessionId .timeout now entry
  exact @List.foldl_hom _ _ _ (moved n) depart depart
    (order.filterMap fun id => AList.lookup id ctx.presence.sessions)
    { ctx with
      channelRouter := ctx.channelRouter.pruneDeadWildcards
      presence := order.foldl (fun p id => p.remove id) ctx.presence } each

theorem publishAndFanout_moved (tenantId : TenantId) (key : ChannelKey) (frame : Frame) (now : Clock) :
    (ctx.moved n).publishAndFanout tenantId key frame now =
      (ctx.publishAndFanout tenantId key frame now).moved n := by
  have same : (ctx.moved n).channelRouter = ctx.channelRouter := rfl
  unfold publishAndFanout
  rw [same]
  split
  · rfl
  · dsimp only
    split <;> rfl

end RealtimeContext

section
variable (n : Int) (ctx : RealtimeContext)

theorem executeInner_moved (codec : TokenCodec) (redis : RedisStreams Message) (s : SessionId)
    (rx : ReceiverId) (tenant : Option TenantId) (frame : Frame) (now : Clock) :
    executeInner codec redis s rx tenant frame now (ctx.moved n) =
      ((executeInner codec redis s rx tenant frame now ctx).1,
        (executeInner codec redis s rx tenant frame now ctx).2.1,
        (executeInner codec redis s rx tenant frame now ctx).2.2.moved n) := by
  have auth : (ctx.moved n).auth = ctx.auth := rfl
  have router : (ctx.moved n).channelRouter = ctx.channelRouter := rfl
  cases opcode : frame.opcode with
  | auth =>
      cases valid : ctx.auth.validate codec now.unixSecs frame.tenantId frame.payload with
      | error err => simp only [executeInner, opcode, authenticateSession, auth, valid]
      | ok claims =>
          rw [executeInner_auth codec redis s rx tenant frame now ctx opcode valid,
            executeInner_auth codec redis s rx tenant frame now (ctx.moved n) opcode valid]
          rfl
  | ping =>
      simp only [executeInner, opcode, heartbeat]
      split <;> rfl
  | subscribe =>
      simp only [executeInner, opcode, subscribeChannel]
      cases ownTenant tenant frame with
      | none => rfl
      | some tenantId =>
          simp only [router]
          split
          · rfl
          · split <;> rfl
  | unsub =>
      simp only [executeInner, opcode, unsubscribeChannel]
      cases ownTenant tenant frame with
      | none => rfl
      | some tenantId =>
          dsimp only
          split <;> rfl
  | publish =>
      simp only [executeInner, opcode, publishMessage]
      cases ownTenant tenant frame with
      | none => rfl
      | some tenantId => simp only [RealtimeContext.publishAndFanout_moved]
  | unicast =>
      simp only [executeInner, opcode, unicastMessage]
      cases ownTenant tenant frame with
      | none => rfl
      | some tenantId => simp only [RealtimeContext.publishAndFanout_moved]
  | replay =>
      simp only [executeInner, opcode, replayHistory, router]
      cases ownTenant tenant frame with
      | none => rfl
      | some tenantId =>
          dsimp only
          split
          · rfl
          · split <;> rfl
  | message => simp only [executeInner, opcode]
  | presence => simp only [executeInner, opcode]

theorem dispatchFrame_moved (codec : TokenCodec) (redis : RedisStreams Message) (s : SessionId)
    (rx : ReceiverId) (tenant : Option TenantId) (frame : Frame) (now : Clock) :
    dispatchFrame codec redis s rx tenant frame now (ctx.moved n) =
      ((dispatchFrame codec redis s rx tenant frame now ctx).1,
        (dispatchFrame codec redis s rx tenant frame now ctx).2.1,
        (dispatchFrame codec redis s rx tenant frame now ctx).2.2.moved n) := by
  unfold dispatchFrame
  rw [executeInner_moved]
  rfl

theorem publishBuilt_moved (tenantId : TenantId) (channelId payload : String) (now : Clock) :
    publishBuilt tenantId channelId payload now (ctx.moved n) =
      (publishBuilt tenantId channelId payload now ctx).moved n := by
  unfold publishBuilt
  dsimp only
  split
  · rfl
  · rw [RealtimeContext.publishAndFanout_moved]
    rfl

theorem httpStep_moved (env : Env) (request : HttpRequest) (now : Clock) :
    httpStep env request now (ctx.moved n) = (httpStep env request now ctx).moved n := by
  have charges : chargedTenant request.tenantId now (ctx.moved n) =
    (chargedTenant request.tenantId now ctx).moved n := rfl
  have auth : (ctx.moved n).auth = ctx.auth := rfl
  have limiter : (ctx.moved n).rateLimiter = ctx.rateLimiter := rfl
  rw [httpStep_eq, httpStep_eq, auth, limiter, charges]
  split
  · split
    · cases request.text with
      | none => rfl
      | some payload => exact publishBuilt_moved n _ _ _ _ now
    · rfl
  · rfl

theorem adminStep_moved (op : AdminOp) : adminStep op (ctx.moved n) = (adminStep op ctx).moved n := by
  cases op <;> rfl

theorem leave_moved (s : SessionId) (c : Connection) (now : Clock) :
    leave s c now (ctx.moved n) = (leave s c now ctx).moved n := by
  have closed : ({ ctx.moved n with
      rateLimiter := (ctx.moved n).rateLimiter.dropSession s
      metrics := (ctx.moved n).metrics.connectionClosed c.transport } : RealtimeContext) =
    RealtimeContext.moved n { ctx with
      rateLimiter := ctx.rateLimiter.dropSession s
      metrics := ctx.metrics.connectionClosed c.transport } :=
    congrArg (fun metrics => ({ ctx with
      rateLimiter := ctx.rateLimiter.dropSession s, metrics } : RealtimeContext))
      (MetricsService.moved_closed n ctx.metrics c.transport)
  simp only [leave, closed]
  split
  · exact RealtimeContext.handleLeave_moved n _ s now
  · rfl

end
/-- The connection as one over TCP that has written `out`. -/
def Connection.asTcp (out : List Outgoing) (c : Connection) : Connection :=
  { c with transport := .tcp, written := out }

/-- A connection of `q` where that of `s` is over TCP. -/
def Connection.seen (s : SessionId) (out : List Outgoing) (q : SessionId) (c : Connection) : Connection :=
  if q = s then c.asTcp out else c

/-- The instance with the session `s` over TCP. -/
def Server.asTcp (s : SessionId) (n : Int) (out : List Outgoing) (server : Server) : Server where
  ctx := server.ctx.moved n
  redis := server.redis
  connections q := (server.connections q).map (Connection.seen s out q)

namespace Connection
variable (s : SessionId) (out : List Outgoing) (q : SessionId) (c : Connection)

theorem seen_self : seen s out s c = c.asTcp out := if_pos rfl

theorem seen_ne {q : SessionId} (apart : q ≠ s) : seen s out q c = c := if_neg apart

theorem tasks_seen : (seen s out q c).tasks = c.tasks := by
  unfold seen
  split <;> rfl

theorem outQueue_seen : (seen s out q c).outQueue = c.outQueue := by
  unfold seen
  split <;> rfl

theorem replaying_seen : (seen s out q c).replaying = c.replaying := by
  unfold seen
  split <;> rfl

theorem isOpen_seen : (seen s out q c).isOpen = c.isOpen := by
  unfold seen
  split <;> rfl

end Connection

theorem leave_asTcp {c : Connection} (own : c.transport = .webSocket) (s : SessionId) (out : List Outgoing)
    (now : Clock) (ctx : RealtimeContext) :
    leave s (c.asTcp out) now (ctx.moved 1) = (leave s c now ctx).moved 0 := by
  have closed : ({ ctx.moved 1 with
      rateLimiter := (ctx.moved 1).rateLimiter.dropSession s
      metrics := (ctx.moved 1).metrics.connectionClosed .tcp } : RealtimeContext) =
    RealtimeContext.moved 0 { ctx with
      rateLimiter := ctx.rateLimiter.dropSession s
      metrics := ctx.metrics.connectionClosed .webSocket } :=
    congrArg (fun metrics => ({ ctx with
      rateLimiter := ctx.rateLimiter.dropSession s, metrics } : RealtimeContext))
      (MetricsService.closed_tcp ctx.metrics)
  simp only [leave, Connection.asTcp, own, closed]
  split
  · exact RealtimeContext.handleLeave_moved 0 _ s now
  · rfl

namespace Server
open Connection
variable (env : Env) (s : SessionId) (n : Int) (out : List Outgoing) (server : Server) (q : SessionId)

theorem connections_asTcp :
    (server.asTcp s n out).connections q = (server.connections q).map (seen s out q) := rfl

theorem setCtx_asTcp (m : Int) (ctx : RealtimeContext) :
    (server.asTcp s n out).setCtx (ctx.moved m) = (server.setCtx ctx).asTcp s m out := rfl

theorem setConnection_asTcp (c : Connection) :
    (server.asTcp s n out).setConnection q (seen s out q c) = (server.setConnection q c).asTcp s n out := by
  have same : (fun p => if p = q then some (seen s out q c) else (server.connections p).map (seen s out p)) =
      fun p => (if p = q then some c else server.connections p).map (seen s out p) := by
    funext p
    split
    · rename_i here
      rw [here]
      rfl
    · rfl
  simp only [setConnection, asTcp, Function.update_apply, Server.mk.injEq, true_and]
  funext p
  rw [Function.update_apply]
  exact congrFun same p

theorem setConnection_asTcp_self (c : Connection) (out' : List Outgoing) :
    (server.asTcp s n out).setConnection s (c.asTcp out') = (server.setConnection s c).asTcp s n out' := by
  simp only [setConnection, asTcp, Server.mk.injEq, true_and]
  funext p
  rw [Function.update_apply, Function.update_apply]
  split
  · rename_i here
    rw [here, Option.map_some, seen_self]
  · rename_i apart
    cases server.connections p with
    | none => rfl
    | some d => rw [Option.map_some, Option.map_some, seen_ne s out d apart, seen_ne s out' d apart]

theorem waiting_asTcp : (server.asTcp s n out).waiting q = (server.waiting q).map (seen s out q) := by
  unfold waiting
  rw [connections_asTcp]
  cases server.connections q with
  | none => rfl
  | some c =>
      rw [Option.map_some, Option.filter_some, Option.filter_some, isOpen_seen, replaying_seen]
      split <;> rfl

theorem set_asTcp {c d : Connection} (same : d = seen s out q c) :
    (server.asTcp s n out).setConnection q d = (server.setConnection q c).asTcp s n out := by
  rw [same, setConnection_asTcp]

theorem dropTask_asTcp (seq : Nat) (task : RelayTask) (c : Connection) :
    (server.asTcp s n out).dropTask q seq task (seen s out q c) =
      (server.dropTask q seq task c).asTcp s n out := by
  refine set_asTcp s n out (server.setCtx { server.ctx with
    channelRouter := server.ctx.channelRouter.detach task.source ⟨q, seq⟩ }) q ?_
  unfold seen
  split <;> rfl

theorem relayRecvStep_asTcp (seq : Nat) : (server.asTcp s n out).relayRecvStep q seq =
    (server.relayRecvStep q seq).map (asTcp s n out) := by
  unfold relayRecvStep
  rw [connections_asTcp]
  cases server.connections q with
  | none => rfl
  | some c =>
      rw [Option.map_some, Option.bind_some, Option.bind_some, tasks_seen]
      cases AList.lookup seq c.tasks with
      | none => rfl
      | some task =>
          have router : (server.asTcp s n out).ctx.channelRouter = server.ctx.channelRouter := rfl
          rw [Option.bind_some, Option.bind_some, router]
          split
          · rfl
          · cases server.ctx.channelRouter.receive task.source ⟨q, seq⟩ task.next with
            | message m =>
                refine congrArg some (set_asTcp s n out server q ?_)
                unfold seen
                split <;> rfl
            | empty => rfl
            | lagged => exact congrArg some (dropTask_asTcp s n out server q seq task c)
            | closed => exact congrArg some (dropTask_asTcp s n out server q seq task c)

theorem relaySendStep_asTcp (seq : Nat) : (server.asTcp s n out).relaySendStep q seq =
    (server.relaySendStep q seq).map (asTcp s n out) := by
  unfold relaySendStep
  rw [connections_asTcp]
  cases server.connections q with
  | none => rfl
  | some c =>
      rw [Option.map_some, Option.bind_some, Option.bind_some, tasks_seen]
      cases AList.lookup seq c.tasks with
      | none => rfl
      | some task =>
          rw [Option.bind_some, Option.bind_some]
          cases task.inFlight with
          | none => rfl
          | some m =>
              rw [Option.bind_some, Option.bind_some, isOpen_seen, outQueue_seen]
              split
              · exact congrArg some (dropTask_asTcp s n out server q seq task c)
              · split
                · refine congrArg some (set_asTcp s n out server q ?_)
                  unfold seen
                  split <;> rfl
                · rfl

theorem replaySendStep_asTcp : (server.asTcp s n out).replaySendStep q =
    (server.replaySendStep q).map (asTcp s n out) := by
  unfold replaySendStep
  rw [connections_asTcp]
  cases server.connections q with
  | none => rfl
  | some c =>
      rw [Option.map_some, Option.bind_some, Option.bind_some, replaying_seen]
      cases c.replaying with
      | nil => rfl
      | cons m rest =>
          rw [isOpen_seen, outQueue_seen]
          dsimp only
          split
          · refine congrArg some (set_asTcp s n out server q ?_)
            unfold seen
            split <;> rfl
          · rfl

theorem taskDropStep_asTcp (seq : Nat) : (server.asTcp s n out).taskDropStep q seq =
    (server.taskDropStep q seq).map (asTcp s n out) := by
  unfold taskDropStep
  rw [connections_asTcp]
  cases server.connections q with
  | none => rfl
  | some c =>
      rw [Option.map_some, Option.bind_some, Option.bind_some, tasks_seen]
      cases AList.lookup seq c.tasks with
      | none => rfl
      | some task =>
          rw [Option.bind_some, Option.bind_some]
          split
          · exact congrArg some (dropTask_asTcp s n out server q seq task c)
          · rfl

theorem perform_asTcp {q : SessionId} (apart : q ≠ s) (frame : Frame) (now : Clock)
    (command : FrameCommand) (c : Connection) :
    (server.asTcp s n out).perform q frame now command c =
      (server.perform q frame now command c).asTcp s n out := by
  have set : ∀ ctx, ((server.setCtx ctx).asTcp s n out).setConnection q (react frame command c) =
      ((server.setCtx ctx).setConnection q (react frame command c)).asTcp s n out :=
    fun ctx => set_asTcp s n out _ q (seen_ne s out _ apart).symm
  cases command with
  | closeAuthFailed =>
      show ((server.asTcp s n out).setCtx (leave q c now (server.ctx.moved n))).setConnection q _ = _
      rw [leave_moved, setCtx_asTcp]
      exact set _
  | _ => exact set server.ctx

theorem dispatched_asTcp (c : Connection) (frame : Frame) (now : Clock) :
    dispatchFrame env.codec (server.asTcp s n out).redis q ⟨q, c.spawned⟩ c.authenticatedTenant frame now
        (server.asTcp s n out).ctx =
      ((dispatchFrame env.codec server.redis q ⟨q, c.spawned⟩ c.authenticatedTenant frame now server.ctx).1,
        (dispatchFrame env.codec server.redis q ⟨q, c.spawned⟩ c.authenticatedTenant frame now server.ctx).2.1,
        (dispatchFrame env.codec server.redis q ⟨q, c.spawned⟩ c.authenticatedTenant frame now
          server.ctx).2.2.moved n) :=
  dispatchFrame_moved n server.ctx _ _ _ _ _ _ _

theorem handleFrame_asTcp {q : SessionId} (apart : q ≠ s) (c : Connection) (frame : Frame) (now : Clock) :
    (server.asTcp s n out).handleFrame env q c frame now =
      (server.handleFrame env q c frame now).asTcp s n out := by
  unfold handleFrame
  rw [dispatched_asTcp]
  exact perform_asTcp s n out (server.setCtx (dispatchFrame env.codec server.redis q ⟨q, c.spawned⟩
    c.authenticatedTenant frame now server.ctx).2.2) apart frame now _ _

theorem takeFrame_asTcp {q : SessionId} (apart : q ≠ s) (c : Connection) (frame : Frame) (now : Clock) :
    (server.asTcp s n out).takeFrame env q c frame now =
      (server.takeFrame env q c frame now).asTcp s n out := by
  have limiter : (server.asTcp s n out).ctx.rateLimiter = server.ctx.rateLimiter := rfl
  unfold takeFrame
  rw [limiter]
  split
  · exact handleFrame_asTcp env s n out (server.setCtx (charged q frame now server.ctx)) apart c frame now
  · rfl

def Quiet (s : SessionId) : Event → Prop
  | .connect q _ | .inbound q _ _ | .writeOut q | .disconnect q _ => q ≠ s
  | _ => True

theorem step_asTcp {e : Event} (quiet : Quiet s e) :
    step env (server.asTcp s n out) e = (step env server e).map (asTcp s n out) := by
  cases e with
  | connect q transport =>
      show (server.asTcp s n out).connectStep q transport = (server.connectStep q transport).map _
      unfold connectStep
      rw [connections_asTcp]
      cases server.connections q with
      | some c => rfl
      | none =>
          have gauges := MetricsService.moved_opened n server.ctx.metrics transport
          have ctx : ({ (server.asTcp s n out).ctx with
              metrics := (server.asTcp s n out).ctx.metrics.connectionOpened transport } : RealtimeContext) =
            RealtimeContext.moved n { server.ctx with
              metrics := server.ctx.metrics.connectionOpened transport } :=
            congrArg (fun metrics => ({ server.ctx with metrics } : RealtimeContext)) gauges
          refine congrArg some ?_
          rw [ctx, setCtx_asTcp]
          exact set_asTcp s n out _ q (seen_ne s out _ quiet).symm
  | inbound q bytes now =>
      show (server.asTcp s n out).inboundStep env q bytes now = (server.inboundStep env q bytes now).map _
      unfold inboundStep
      rw [waiting_asTcp]
      cases server.waiting q with
      | none => rfl
      | some c =>
          rw [Option.map_some, Option.bind_some, Option.bind_some, seen_ne s out c quiet]
          cases parseInbound c.transport bytes with
          | none => rfl
          | some parsed =>
              cases parsed with
              | error err => rfl
              | ok frame => exact congrArg some (takeFrame_asTcp env s n out server quiet c frame now)
  | relayRecv q seq => exact relayRecvStep_asTcp s n out server q seq
  | relaySend q seq => exact relaySendStep_asTcp s n out server q seq
  | replaySend q => exact replaySendStep_asTcp s n out server q
  | taskDrop q seq => exact taskDropStep_asTcp s n out server q seq
  | writeOut q =>
      show (server.asTcp s n out).writeOutStep q = (server.writeOutStep q).map _
      unfold writeOutStep
      rw [waiting_asTcp]
      cases server.waiting q with
      | none => rfl
      | some c =>
          rw [Option.map_some, Option.bind_some, Option.bind_some, seen_ne s out c quiet]
          cases c.outQueue with
          | nil => rfl
          | cons item rest => exact congrArg some (set_asTcp s n out server q (seen_ne s out _ quiet).symm)
  | disconnect q now =>
      show (server.asTcp s n out).disconnectStep q now = (server.disconnectStep q now).map _
      unfold disconnectStep
      rw [waiting_asTcp]
      cases server.waiting q with
      | none => rfl
      | some c =>
          rw [Option.map_some, Option.map_some, Option.map_some, seen_ne s out c quiet]
          refine congrArg some ?_
          have ctx : leave q c now (server.asTcp s n out).ctx = (leave q c now server.ctx).moved n :=
            leave_moved n server.ctx q c now
          rw [ctx, setCtx_asTcp]
          exact set_asTcp s n out _ q (seen_ne s out _ quiet).symm
  | sweep order now =>
      show (server.asTcp s n out).sweepStep order now = (server.sweepStep order now).map _
      have presence : (server.asTcp s n out).ctx.presence = server.ctx.presence := rfl
      have swept : (server.asTcp s n out).ctx.sweep order now = (server.ctx.sweep order now).moved n :=
        RealtimeContext.sweep_moved n server.ctx order now
      unfold sweepStep
      rw [presence, swept]
      split <;> rfl
  | http request now =>
      have requested : httpStep env request now (server.asTcp s n out).ctx =
        (httpStep env request now server.ctx).moved n := httpStep_moved n server.ctx env request now
      show some ((server.asTcp s n out).setCtx _) = _
      rw [requested]
      rfl
  | admin op =>
      have administered : adminStep op (server.asTcp s n out).ctx = (adminStep op server.ctx).moved n :=
        adminStep_moved n server.ctx op
      show some ((server.asTcp s n out).setCtx _) = _
      rw [administered]
      rfl
  | clusterSend =>
      show (server.asTcp s n out).clusterSendStep = server.clusterSendStep.map _
      have push : (server.asTcp s n out).ctx.pushFallback = server.ctx.pushFallback := rfl
      unfold clusterSendStep
      rw [push]
      split <;> rfl
  | clusterReceive payload now =>
      show (server.asTcp s n out).clusterReceiveStep env payload now =
        (server.clusterReceiveStep env payload now).map _
      have push : (server.asTcp s n out).ctx.pushFallback = server.ctx.pushFallback := rfl
      unfold clusterReceiveStep
      rw [push]
      split
      · cases remoteFrame env.instanceId payload <;> rfl
      · rfl
  | historyWrite id evicted =>
      show (server.asTcp s n out).historyWriteStep env id evicted =
        (server.historyWriteStep env id evicted).map _
      have port : (server.asTcp s n out).ctx.channelRouter = server.ctx.channelRouter := rfl
      have redis : (server.asTcp s n out).redis = server.redis := rfl
      unfold historyWriteStep
      rw [port, redis]
      split
      · rw [Option.map_map]
        rfl
      · rfl
  | remoteXadd key frame id evicted =>
      show (server.asTcp s n out).remoteXaddStep env key frame id evicted =
        (server.remoteXaddStep env key frame id evicted).map _
      have redis : (server.asTcp s n out).redis = server.redis := rfl
      unfold remoteXaddStep
      rw [redis, Option.map_map]
      rfl

end Server
end RealtimePlatform.Backend
