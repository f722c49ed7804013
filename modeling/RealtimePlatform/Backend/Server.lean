import RealtimePlatform.Backend.Realtime
import RealtimePlatform.Library.Transition

/-!
# One instance and its connections

The step relation of an instance: what a connection task, a relay task, the sweeper, an HTTP handler or
a Redis task does between two points where it yields. A frame is handled in one step. Which task runs
next is the choice of the events, so a run is any interleaving. Redis starts empty: what it held before
is what `remoteXadd` puts there first.

Ghost fields: the key of a message, the origin of a queued frame, `automatic` and `identity`, and the
frames `written` so far.
-/

namespace RealtimePlatform.Backend
open Library

def relayBuffer : Nat := 256
def wsCloseCodeAuthFailed : Nat := 4001

/-- A task that forwards the messages of one receiver: `next` of them taken so far, one of them waiting
for room in the relay queue. `automatic` marks the inbox subscribed by an AUTH. -/
structure RelayTask where
  source : Source
  automatic : Bool
  next : Nat
  inFlight : Option Message
  aborted : Bool

/-- How a frame came to the relay queue of a session. -/
inductive Via where
  | relay (source : Source)
  | replay
  deriving DecidableEq

structure Queued where
  message : Message
  via : Via
  deriving DecidableEq

inductive Outgoing where
  | relayed (item : Queued)
  | pong (frame : RawFrame)
  | close (code : Nat) (reason : String)

structure Connection where
  transport : Transport
  authenticatedTenant : Option TenantId
  identity : Option (TenantId × String)
  relayTasks : Table String Nat
  tasks : Table Nat RelayTask
  spawned : Nat
  outQueue : List Queued
  replaying : List Message
  isOpen : Bool
  written : List Outgoing

namespace Connection

def new (transport : Transport) : Connection :=
  ⟨transport, none, none, ∅, ∅, 0, [], [], true, []⟩

/-- The task at a key of `relay_tasks`, as long as it holds its receiver. -/
def relayAt (c : Connection) (key : String) : Option RelayTask :=
  (AList.lookup key c.relayTasks).bind fun seq => AList.lookup seq c.tasks

def abortTask (seq : Nat) (tasks : Table Nat RelayTask) : Table Nat RelayTask :=
  Table.adjust seq (fun task => { task with aborted := true }) tasks

def abortAt (key : String) (c : Connection) : Connection :=
  { c with tasks := (AList.lookup key c.relayTasks).elim c.tasks fun seq => abortTask seq c.tasks }

def spawnRelay (key : String) (source : Source) (automatic : Bool) (c : Connection) : Connection :=
  let cleared := c.abortAt key
  { cleared with
    relayTasks := AList.insert key c.spawned cleared.relayTasks
    tasks := AList.insert c.spawned ⟨source, automatic, 0, none, false⟩ cleared.tasks
    spawned := c.spawned + 1 }

def unsubscribe (key : String) (c : Connection) : Connection :=
  let cleared := c.abortAt key
  { cleared with relayTasks := AList.erase key cleared.relayTasks }

def write (out : List Outgoing) (c : Connection) : Connection := { c with written := c.written ++ out }

/-- The end of `handle_connection`: every relay task aborted, the receiving end of the queue gone. -/
def shut (c : Connection) : Connection :=
  { c with
    tasks := Table.rewrite
      (fun seq task => if c.relayTasks.entries.any (·.2 == seq) then { task with aborted := true }
        else task) c.tasks
    outQueue := []
    isOpen := false }

end Connection

/-- What one instance takes from outside: the libraries behind tokens, the stream cap it was configured
with and its id on the cluster bus. -/
structure Env where
  codec : TokenCodec
  historyStreamMaxlen : Nat
  instanceId : Uuid

structure Server where
  ctx : RealtimeContext
  redis : RedisStreams Message
  connections : SessionId → Option Connection

namespace Server

def setConnection (s : SessionId) (c : Connection) (server : Server) : Server :=
  { server with connections := Function.update server.connections s (some c) }

def setCtx (ctx : RealtimeContext) (server : Server) : Server := { server with ctx := ctx }

def leave (s : SessionId) (c : Connection) (now : Clock) (ctx : RealtimeContext) : RealtimeContext :=
  let closed := { ctx with
    rateLimiter := ctx.rateLimiter.dropSession s
    metrics := ctx.metrics.connectionClosed c.transport }
  if c.authenticatedTenant.isSome then closed.handleLeave s now else closed

/-- What the buffer handed to the loop parses to; `none` where the transport never hands it over. -/
def parseInbound (transport : Transport) (bytes : List UInt8) : Option (Except ProtocolError Frame) :=
  match transport with
  | .webSocket => some (Frame.parseSlice bytes)
  | .tcp => if sized : bytes.length = frameSize then some (Frame.parse ⟨bytes, sized⟩) else none

/-- The claims of an AUTH frame that `authenticateSession` accepts. -/
def acceptedClaims (env : Env) (frame : Frame) (now : Clock) (ctx : RealtimeContext) : Option Claims :=
  if frame.opcode = .auth then
    (ctx.auth.validate env.codec now.unixSecs frame.tenantId frame.payload).toOption
  else none

def afterDispatch (env : Env) (frame : Frame) (now : Clock) (tenant : Option TenantId)
    (ctx : RealtimeContext) (c : Connection) : Connection :=
  { c with
    authenticatedTenant := tenant
    identity := match acceptedClaims env frame now ctx with
      | some claims => some (frame.tenantId, claims.sub)
      | none => c.identity }

def farewell : Transport → List Outgoing
  | .webSocket => [.close wsCloseCodeAuthFailed "authentication failed"]
  | .tcp => []

def pong (transport : Transport) (frame : Frame) (tenant : Option TenantId) : List Outgoing :=
  if transport = .tcp ∧ frame.opcode = .ping ∧ tenant.isSome then
    [.pong (FrameBuilder.build { opcode := .ping, tenantId := frame.tenantId })]
  else []

def react (frame : Frame) (command : FrameCommand) (c : Connection) : Connection :=
  match command with
  | .subscribed key source => c.spawnRelay key source (frame.opcode = .auth)
  | .unsubscribed key => c.unsubscribe key
  | .replayed frames => { c with replaying := frames }
  | .closeAuthFailed => (c.write (farewell c.transport)).shut
  | .none => c.write (pong c.transport frame c.authenticatedTenant)

def perform (s : SessionId) (frame : Frame) (now : Clock) (command : FrameCommand) (c : Connection)
    (server : Server) : Server :=
  let ctx := match command with
    | .closeAuthFailed => leave s c now server.ctx
    | _ => server.ctx
  (server.setCtx ctx).setConnection s (react frame command c)

def handleFrame (env : Env) (s : SessionId) (c : Connection) (frame : Frame) (now : Clock)
    (server : Server) : Server :=
  let result := UseCases.dispatchFrame env.codec server.redis s ⟨s, c.spawned⟩ c.authenticatedTenant
    frame now server.ctx
  perform s frame now result.1 (afterDispatch env frame now result.2.1 server.ctx c)
    (server.setCtx result.2.2)

def charged (s : SessionId) (frame : Frame) (now : Clock) (ctx : RealtimeContext) : RealtimeContext :=
  { ctx with rateLimiter := (ctx.rateLimiter.check s frame.tenantId now.instant).2 }

def takeFrame (env : Env) (s : SessionId) (c : Connection) (frame : Frame) (now : Clock)
    (server : Server) : Server :=
  let ctx := charged s frame now server.ctx
  if (server.ctx.rateLimiter.check s frame.tenantId now.instant).1 then
    handleFrame env s c frame now (server.setCtx ctx)
  else server.setCtx { ctx with metrics := ctx.metrics.recordRateLimited frame.tenantId }

def dropTask (s : SessionId) (seq : Nat) (task : RelayTask) (c : Connection) (server : Server) :
    Server :=
  (server.setCtx { server.ctx with
      channelRouter := server.ctx.channelRouter.detach task.source ⟨s, seq⟩ }).setConnection s
    { c with tasks := AList.erase seq c.tasks }

end Server

def originLen : Nat := 16
def envelopeLen : Nat := originLen + frameSize

def encodeEnvelope (origin : Uuid) (frame : RawFrame) : List UInt8 := origin.toList ++ frame.toList

def decodeEnvelope (bytes : List UInt8) : Option (Uuid × RawFrame) :=
  if sized : bytes.length = envelopeLen then
    some (⟨bytes.take originLen, by simp [sized, originLen, envelopeLen, frameSize]⟩,
      ⟨bytes.drop originLen, by simp [sized, originLen, envelopeLen, frameSize]⟩)
  else none

def remoteFrame (instanceId : Uuid) (payload : List UInt8) : Option Frame :=
  match decodeEnvelope payload with
  | none => none
  | some (origin, raw) => if origin = instanceId then none else (Frame.parse raw).toOption

/-- The key under which the subscriber task publishes a remote frame. -/
def remoteKey (frame : Frame) : ChannelKey := ⟨frame.tenantId, frame.channelId⟩

inductive HttpRequest where
  | message (dto : UseCases.PublishMessageDto) (token : String)
  | template (tenantId : TenantId) (channelId token : String) (rendered : Option String)
  | broadcast (tenantId : TenantId) (channelId payload : String)

inductive AdminOp where
  | registerTenant (tenantId : TenantId) (secret : List UInt8)
  | revokeTenant (tenantId : TenantId)
  | addExtraKey (tenantId : TenantId) (publicKey : String) (secret : List UInt8)
  | revokeExtraKey (tenantId : TenantId) (publicKey : String)
  | setTenantLimits (tenantId : TenantId) (config : RateLimitConfig)
  | clearTenantLimits (tenantId : TenantId)

inductive Event where
  | connect (s : SessionId) (transport : Transport)
  | inbound (s : SessionId) (bytes : List UInt8) (now : Clock)
  | relayRecv (s : SessionId) (seq : Nat)
  | relaySend (s : SessionId) (seq : Nat)
  | replaySend (s : SessionId)
  | writeOut (s : SessionId)
  | disconnect (s : SessionId) (now : Clock)
  | taskDrop (s : SessionId) (seq : Nat)
  | sweep (order : List SessionId) (now : Clock)
  | http (request : HttpRequest) (now : Clock)
  | admin (op : AdminOp)
  | clusterSend
  | clusterReceive (payload : List UInt8) (now : Clock)
  | historyWrite (id : Nat × Nat) (evicted : Nat)
  | remoteXadd (key : ChannelKey) (frame : RawFrame) (id : Nat × Nat) (evicted : Nat)

namespace Server

def httpStep (env : Env) (request : HttpRequest) (now : Clock) (ctx : RealtimeContext) :
    RealtimeContext :=
  match request with
  | .message dto token => (UseCases.publishMessageHttp env.codec dto token now ctx).2
  | .template tenantId channelId token rendered =>
    (UseCases.publishTemplateHttp env.codec tenantId channelId token rendered now ctx).2
  | .broadcast tenantId channelId payload =>
    (UseCases.broadcastMessage tenantId channelId payload now ctx).2

def adminStep (op : AdminOp) (ctx : RealtimeContext) : RealtimeContext :=
  match op with
  | .registerTenant tenantId secret => { ctx with auth := ctx.auth.registerTenant tenantId secret }
  | .revokeTenant tenantId => { ctx with auth := ctx.auth.revokeTenant tenantId }
  | .addExtraKey tenantId publicKey secret =>
    { ctx with auth := ctx.auth.addExtraKey tenantId publicKey secret }
  | .revokeExtraKey tenantId publicKey =>
    { ctx with auth := (ctx.auth.revokeExtraKey tenantId publicKey).2 }
  | .setTenantLimits tenantId config =>
    { ctx with rateLimiter := ctx.rateLimiter.setTenantLimits tenantId config }
  | .clearTenantLimits tenantId =>
    { ctx with rateLimiter := ctx.rateLimiter.clearTenantLimits tenantId }

/-- A connection whose task waits in its `select!`. -/
def waiting (server : Server) (s : SessionId) : Option Connection :=
  (server.connections s).filter fun c => c.isOpen && c.replaying.isEmpty

def connectStep (s : SessionId) (transport : Transport) (server : Server) : Option Server :=
  match server.connections s with
  | some _ => none
  | none =>
    let ctx := { server.ctx with metrics := server.ctx.metrics.connectionOpened transport }
    some ((server.setCtx ctx).setConnection s (Connection.new transport))

def inboundStep (env : Env) (s : SessionId) (bytes : List UInt8) (now : Clock) (server : Server) :
    Option Server :=
  (server.waiting s).bind fun c => (parseInbound c.transport bytes).map fun
    | .error _ => server
    | .ok frame => server.takeFrame env s c frame now

-- The loop of a relay task ends on `Lagged` as it does on `Closed`.
def relayRecvStep (s : SessionId) (seq : Nat) (server : Server) : Option Server :=
  (server.connections s).bind fun c => (AList.lookup seq c.tasks).bind fun task =>
    if task.inFlight.isSome then none
    else match server.ctx.channelRouter.receive task.source ⟨s, seq⟩ task.next with
      | .message m => some (server.setConnection s { c with
          tasks := AList.insert seq { task with next := task.next + 1, inFlight := some m } c.tasks })
      | .empty => none
      | .lagged | .closed => some (server.dropTask s seq task c)

def relaySendStep (s : SessionId) (seq : Nat) (server : Server) : Option Server :=
  (server.connections s).bind fun c => (AList.lookup seq c.tasks).bind fun task =>
    task.inFlight.bind fun m =>
      if !c.isOpen then some (server.dropTask s seq task c)
      else if c.outQueue.length < relayBuffer then some (server.setConnection s { c with
        tasks := AList.insert seq { task with inFlight := none } c.tasks
        outQueue := c.outQueue ++ [⟨m, .relay task.source⟩] })
      else none

def replaySendStep (s : SessionId) (server : Server) : Option Server :=
  (server.connections s).bind fun c =>
    match c.replaying with
    | [] => none
    | m :: rest =>
      if c.isOpen && c.outQueue.length < relayBuffer then some (server.setConnection s { c with
        replaying := rest
        outQueue := c.outQueue ++ [⟨m, .replay⟩] })
      else none

def writeOutStep (s : SessionId) (server : Server) : Option Server :=
  (server.waiting s).bind fun c =>
    match c.outQueue with
    | [] => none
    | item :: rest =>
      some (server.setConnection s ({ c with outQueue := rest }.write [.relayed item]))

def disconnectStep (s : SessionId) (now : Clock) (server : Server) : Option Server :=
  (server.waiting s).map fun c => (server.setCtx (leave s c now server.ctx)).setConnection s c.shut

def taskDropStep (s : SessionId) (seq : Nat) (server : Server) : Option Server :=
  (server.connections s).bind fun c => (AList.lookup seq c.tasks).bind fun task =>
    if task.aborted then some (server.dropTask s seq task c) else none

def sweepStep (order : List SessionId) (now : Clock) (server : Server) : Option Server :=
  if order.Perm (server.ctx.presence.expired now) then some (server.setCtx (server.ctx.sweep order now))
  else none

def clusterSendStep (server : Server) : Option Server :=
  match server.ctx.pushFallback.cluster with
  | some (_ :: rest) => some (server.setCtx { server.ctx with
      pushFallback := { server.ctx.pushFallback with cluster := some rest } })
  | _ => none

def reinject (frame : Frame) (now : Clock) (ctx : RealtimeContext) : RealtimeContext :=
  { ctx with
    channelRouter := (ctx.channelRouter.publish frame.tenantId (remoteKey frame)
      ⟨frame.raw, remoteKey frame⟩ now.unixSecs).2 }

def clusterReceiveStep (env : Env) (payload : List UInt8) (now : Clock) (server : Server) :
    Option Server :=
  if server.ctx.pushFallback.cluster.isSome then
    match remoteFrame env.instanceId payload with
    | none => some server
    | some frame => some (server.setCtx (reinject frame now server.ctx))
  else none

def historyWriteStep (env : Env) (id : Nat × Nat) (evicted : Nat) (server : Server) : Option Server :=
  match server.ctx.channelRouter.historyPort with
  | some ⟨(key, m) :: rest⟩ =>
    (server.redis.xadd env.historyStreamMaxlen evicted key id m).map fun redis =>
      { server with
        redis := redis
        ctx := { server.ctx with
          channelRouter := { server.ctx.channelRouter with historyPort := some ⟨rest⟩ } } }
  | _ => none

def remoteXaddStep (env : Env) (key : ChannelKey) (frame : RawFrame) (id : Nat × Nat) (evicted : Nat)
    (server : Server) : Option Server :=
  (server.redis.xadd env.historyStreamMaxlen evicted key id ⟨frame, key⟩).map fun redis =>
    { server with redis := redis }

def step (env : Env) : Step Server Event
  | server, .connect s transport => server.connectStep s transport
  | server, .inbound s bytes now => server.inboundStep env s bytes now
  | server, .relayRecv s seq => server.relayRecvStep s seq
  | server, .relaySend s seq => server.relaySendStep s seq
  | server, .replaySend s => server.replaySendStep s
  | server, .writeOut s => server.writeOutStep s
  | server, .disconnect s now => server.disconnectStep s now
  | server, .taskDrop s seq => server.taskDropStep s seq
  | server, .sweep order now => server.sweepStep order now
  | server, .http request now => some (server.setCtx (httpStep env request now server.ctx))
  | server, .admin op => some (server.setCtx (adminStep op server.ctx))
  | server, .clusterSend => server.clusterSendStep
  | server, .clusterReceive payload now => server.clusterReceiveStep env payload now
  | server, .historyWrite id evicted => server.historyWriteStep env id evicted
  | server, .remoteXadd key frame id evicted => server.remoteXaddStep env key frame id evicted

/-- An instance as `main` starts it, with the given capabilities. -/
def start (config : RateLimitConfig) (presenceTimeout : Nat) (hasRedis hasWebPush : Bool) : Server where
  ctx :=
    { auth := TokenService.new
      channelRouter := if hasRedis then ChannelRouterService.new.withHistoryPort
        else ChannelRouterService.new
      presence := PresenceService.new presenceTimeout
      pushFallback := ⟨if hasRedis then some [] else none, [], if hasWebPush then some [] else none, []⟩
      rateLimiter := RateLimitService.new config
      metrics := {} }
  redis := fun _ => []
  connections := fun _ => none

end Server
end RealtimePlatform.Backend
