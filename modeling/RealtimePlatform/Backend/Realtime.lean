import RealtimePlatform.Backend.TokenService
import RealtimePlatform.Backend.Admission
import RealtimePlatform.Backend.ChannelRouter

/-!
# Presence, push fallback and the use cases

`RealtimeContext` holds the services one instance shares between its sessions. A message is the raw
frame with, as a ghost, the key it was published on: the router is generic in its messages and every
other function here that handles one only looks at `frame`. Each use case is atomic and has one clock
reading. The presence log `published` is a ghost.
-/

namespace RealtimePlatform.Backend
open Library

structure Message where
  frame : RawFrame
  key : ChannelKey
  deriving DecidableEq

structure PresenceService where
  sessions : Table SessionId PresenceEntry
  timeout : Nat
  published : List (ChannelKey × SessionId × PresenceEvent)

structure PushJob where
  tenantId : TenantId
  channelId : String
  payload : String
  targetTokens : List String

inductive NotificationDelivery where
  | realtime | push
  deriving DecidableEq

structure Notification where
  tenantId : TenantId
  channelId : String
  payload : String
  delivery : NotificationDelivery

structure WebPushLookup where
  tenantId : TenantId
  channelId : String
  payload : String

/-- `cluster` is the outbound queue of the cluster adapter, `webPush` the subscription lookups
spawned so far; either is absent when the capability is not configured. -/
structure PushFallbackService where
  cluster : Option (List RawFrame)
  push : List PushJob
  webPush : Option (List WebPushLookup)
  notifications : List Notification

structure RealtimeContext where
  auth : TokenService
  channelRouter : ChannelRouterService Message
  presence : PresenceService
  pushFallback : PushFallbackService
  rateLimiter : RateLimitService
  metrics : MetricsService

namespace PresenceService

def new (timeout : Nat) : PresenceService := ⟨∅, timeout, []⟩

def register (tenantId : TenantId) (sessionId : SessionId) (sub : String) (now : Clock)
    (p : PresenceService) : PresenceService :=
  { p with
    sessions := AList.insert sessionId ⟨tenantId, sessionId, sub, [], now.instant, now.system⟩
      p.sessions }

def heartbeat (sessionId : SessionId) (now : Clock) (p : PresenceService) : PresenceService :=
  { p with
    sessions := Table.adjust sessionId (fun entry => { entry with lastSeen := now.instant })
      p.sessions }

def trackChannel (sessionId : SessionId) (channelId : String) (p : PresenceService) :
    PresenceService :=
  { p with
    sessions := Table.adjust sessionId
      (fun entry => { entry with channels := entry.channels ++ [channelId] }) p.sessions }

def untrackChannel (sessionId : SessionId) (channelId : String) (p : PresenceService) :
    PresenceService :=
  { p with
    sessions := Table.adjust sessionId
      (fun entry => { entry with channels := entry.channels.filter (· != channelId) }) p.sessions }

def remove (sessionId : SessionId) (p : PresenceService) : PresenceService :=
  { p with sessions := AList.erase sessionId p.sessions }

def isExpired (now : Clock) (timeout : Nat) (entry : PresenceEntry) : Bool :=
  timeout < now.instant - entry.lastSeen

def expired (now : Clock) (p : PresenceService) : List SessionId :=
  (p.sessions.entries.filter fun e => isExpired now p.timeout e.2).map (·.1)

end PresenceService

namespace RealtimeContext

def publishPresenceEvent (tenantId : TenantId) (channelId : String) (sessionId : SessionId)
    (event : PresenceEvent) (now : Clock) (ctx : RealtimeContext) : RealtimeContext :=
  let key := (ChannelKey.mk tenantId channelId).presenceKey
  let frame := FrameBuilder.build
    { opcode := .presence, tenantId := tenantId, channelId := key.channelId
      payload := event.asStr ++ ":" ++ String.ofList sessionId.toText }
  { ctx with
    channelRouter := (ctx.channelRouter.publish tenantId key ⟨frame, key⟩ now.unixSecs).2
    presence := { ctx.presence with
      published := ctx.presence.published ++ [(key, sessionId, event)] } }

def handleJoin (tenantId : TenantId) (sessionId : SessionId) (sub : String) (now : Clock)
    (ctx : RealtimeContext) : RealtimeContext :=
  { ctx with presence := ctx.presence.register tenantId sessionId sub now }

def heartbeat (sessionId : SessionId) (now : Clock) (ctx : RealtimeContext) : RealtimeContext :=
  { ctx with presence := ctx.presence.heartbeat sessionId now }

def handleSubscribe (tenantId : TenantId) (sessionId : SessionId) (channelId : String) (now : Clock)
    (ctx : RealtimeContext) : RealtimeContext :=
  publishPresenceEvent tenantId channelId sessionId .join now
    { ctx with presence := ctx.presence.trackChannel sessionId channelId }

def handleUnsubscribe (tenantId : TenantId) (sessionId : SessionId) (channelId : String) (now : Clock)
    (ctx : RealtimeContext) : RealtimeContext :=
  publishPresenceEvent tenantId channelId sessionId .leave now
    { ctx with presence := ctx.presence.untrackChannel sessionId channelId }

/-- The departure `event` on one channel of a removed entry, which is then pruned. -/
def departFrom (sessionId : SessionId) (event : PresenceEvent) (tenantId : TenantId) (now : Clock)
    (ctx : RealtimeContext) (channelId : String) : RealtimeContext :=
  let announced := publishPresenceEvent tenantId channelId sessionId event now ctx
  { announced with channelRouter := announced.channelRouter.pruneEmpty ⟨tenantId, channelId⟩ }

def departAll (sessionId : SessionId) (event : PresenceEvent) (now : Clock) (entry : PresenceEntry)
    (ctx : RealtimeContext) : RealtimeContext :=
  entry.channels.foldl (departFrom sessionId event entry.tenantId now) ctx

def handleLeave (sessionId : SessionId) (now : Clock) (ctx : RealtimeContext) : RealtimeContext :=
  match AList.lookup sessionId ctx.presence.sessions with
  | none => ctx
  | some entry =>
    departAll sessionId .leave now entry { ctx with presence := ctx.presence.remove sessionId }

/-- One tick of the heartbeat loop; `order` is the order in which the map iterates over the expired
sessions. -/
def sweep (order : List SessionId) (now : Clock) (ctx : RealtimeContext) : RealtimeContext :=
  let entries := order.filterMap fun id => AList.lookup id ctx.presence.sessions
  let removed := order.foldl (fun p id => p.remove id) ctx.presence
  entries.foldl (fun ctx entry => departAll entry.sessionId .timeout now entry ctx)
    { ctx with channelRouter := ctx.channelRouter.pruneDeadWildcards, presence := removed }

def broadcast (frame : RawFrame) (queue : List RawFrame) : List RawFrame :=
  if queue.length < outboundQueueCapacity then queue ++ [frame] else queue

def publishAndFanout (tenantId : TenantId) (key : ChannelKey) (frame : Frame) (now : Clock)
    (ctx : RealtimeContext) : RealtimeContext :=
  match ctx.channelRouter.publish tenantId key ⟨frame.raw, key⟩ now.unixSecs with
  | (.error _, _) => ctx
  | (.ok localSubscribers, router) =>
    let push := ctx.pushFallback
    let delivery := if localSubscribers = 0 then NotificationDelivery.push else .realtime
    let recorded := { push with
      cluster := push.cluster.map (broadcast frame.raw)
      notifications := push.notifications ++ [⟨tenantId, key.channelId, frame.payload, delivery⟩] }
    if localSubscribers = 0 then
      { ctx with
        channelRouter := router
        pushFallback := { recorded with
          push := push.push ++ [⟨tenantId, key.channelId, frame.payload, []⟩]
          webPush := push.webPush.map (· ++ [⟨tenantId, key.channelId, frame.payload⟩]) }
        metrics := ctx.metrics.recordPushFallback tenantId }
    else { ctx with channelRouter := router, pushFallback := recorded }

end RealtimeContext

inductive FrameCommand where
  | subscribed (key : String) (source : Source)
  | unsubscribed (key : String)
  | replayed (frames : List Message)
  | closeAuthFailed
  | none

inductive AuthOutcome where
  | authenticated (tenantId : TenantId) (command : FrameCommand)
  | rejected

/-- The characters `str::trim` removes. -/
def isWhiteSpace (c : Char) : Bool :=
  (9 ≤ c.toNat && c.toNat ≤ 13) || c.toNat = 0x20 || c.toNat = 0x85 || c.toNat = 0xA0 ||
    c.toNat = 0x1680 || (0x2000 ≤ c.toNat && c.toNat ≤ 0x200A) || c.toNat = 0x2028 ||
    c.toNat = 0x2029 || c.toNat = 0x202F || c.toNat = 0x205F || c.toNat = 0x3000

def trim (s : List Char) : List Char := (s.dropWhile isWhiteSpace).rdropWhile isWhiteSpace

/-- `u64::from_str`: an optional plus sign, at least one decimal digit, no overflow. -/
def parseU64 (s : List Char) : Option Nat :=
  let digits := match s with
    | '+' :: rest => rest
    | _ => s
  if digits.isEmpty || !digits.all Char.isDigit then none
  else
    let value := digits.foldl (fun acc c => 10 * acc + (c.toNat - 48)) 0
    if value < 2 ^ 64 then some value else none

def isPattern (channelId : String) : Bool := channelId.toList.contains '*'

namespace UseCases
variable (codec : TokenCodec) (redis : RedisStreams Message)

def authenticateSession (sessionId : SessionId) (rx : ReceiverId) (frame : Frame) (now : Clock)
    (ctx : RealtimeContext) : AuthOutcome × RealtimeContext :=
  match ctx.auth.validate codec now.unixSecs frame.tenantId frame.payload with
  | .error _ => (.rejected, ctx)
  | .ok claims =>
    let joined := ctx.handleJoin frame.tenantId sessionId claims.sub now
    let inbox := ChannelKey.mk frame.tenantId (unicastInboxChannel claims.sub)
    match joined.channelRouter.subscribe frame.tenantId inbox rx with
    | .ok router =>
      (.authenticated frame.tenantId (.subscribed inbox.channelId (.channel inbox)),
        { joined with channelRouter := router })
    | .error _ => (.authenticated frame.tenantId .none, joined)

def heartbeat (sessionId : SessionId) (authenticatedTenant : Option TenantId) (now : Clock)
    (ctx : RealtimeContext) : FrameCommand × RealtimeContext :=
  (.none, if authenticatedTenant.isSome then ctx.heartbeat sessionId now else ctx)

def ownTenant (authenticatedTenant : Option TenantId) (frame : Frame) : Option TenantId :=
  authenticatedTenant.filter (· = frame.tenantId)

def subscribeChannel (sessionId : SessionId) (rx : ReceiverId)
    (authenticatedTenant : Option TenantId) (frame : Frame) (now : Clock) (ctx : RealtimeContext) :
    FrameCommand × RealtimeContext :=
  match ownTenant authenticatedTenant frame with
  | none => (.none, ctx)
  | some tenantId =>
    let channelId := frame.channelId
    if isPattern channelId then
      (.subscribed channelId (.wildcard ⟨tenantId, channelId⟩),
        { ctx with channelRouter := ctx.channelRouter.subscribeWildcard tenantId channelId rx })
    else
      match ctx.channelRouter.subscribe tenantId ⟨tenantId, channelId⟩ rx with
      | .ok router =>
        (.subscribed channelId (.channel ⟨tenantId, channelId⟩),
          RealtimeContext.handleSubscribe tenantId sessionId channelId now
            { ctx with channelRouter := router })
      | .error _ => (.none, ctx)

def unsubscribeChannel (sessionId : SessionId) (authenticatedTenant : Option TenantId) (frame : Frame)
    (now : Clock) (ctx : RealtimeContext) : FrameCommand × RealtimeContext :=
  match ownTenant authenticatedTenant frame with
  | none => (.none, ctx)
  | some tenantId =>
    let channelId := frame.channelId
    (.unsubscribed channelId,
      if isPattern channelId then ctx else ctx.handleUnsubscribe tenantId sessionId channelId now)

def publishMessage (authenticatedTenant : Option TenantId) (frame : Frame) (now : Clock)
    (ctx : RealtimeContext) : FrameCommand × RealtimeContext :=
  match ownTenant authenticatedTenant frame with
  | none => (.none, ctx)
  | some tenantId => (.none, ctx.publishAndFanout tenantId ⟨tenantId, frame.channelId⟩ frame now)

def unicastMessage (authenticatedTenant : Option TenantId) (frame : Frame) (now : Clock)
    (ctx : RealtimeContext) : FrameCommand × RealtimeContext :=
  match ownTenant authenticatedTenant frame with
  | none => (.none, ctx)
  | some tenantId =>
    (.none, ctx.publishAndFanout tenantId ⟨tenantId, unicastInboxChannel frame.channelId⟩ frame now)

def sinceSecs (frame : Frame) : Nat := (parseU64 (trim frame.payload.toList)).getD 0

def replayHistory (authenticatedTenant : Option TenantId) (frame : Frame) (ctx : RealtimeContext) :
    FrameCommand × RealtimeContext :=
  match ownTenant authenticatedTenant frame with
  | none => (.none, ctx)
  | some tenantId =>
    if isPattern frame.channelId then (.none, ctx)
    else
      match ctx.channelRouter.replay redis tenantId ⟨tenantId, frame.channelId⟩ (sinceSecs frame) with
      | (.ok frames, router) => (.replayed frames, { ctx with channelRouter := router })
      | (.error _, _) => (.none, ctx)

def executeInner (sessionId : SessionId) (rx : ReceiverId) (authenticatedTenant : Option TenantId)
    (frame : Frame) (now : Clock) (ctx : RealtimeContext) :
    FrameCommand × Option TenantId × RealtimeContext :=
  match frame.opcode with
  | .auth =>
    match authenticateSession codec sessionId rx frame now ctx with
    | (.authenticated tenantId command, ctx) => (command, some tenantId, ctx)
    | (.rejected, ctx) => (.closeAuthFailed, authenticatedTenant, ctx)
  | .ping =>
    let (command, ctx) := heartbeat sessionId authenticatedTenant now ctx
    (command, authenticatedTenant, ctx)
  | .subscribe =>
    let (command, ctx) := subscribeChannel sessionId rx authenticatedTenant frame now ctx
    (command, authenticatedTenant, ctx)
  | .unsub =>
    let (command, ctx) := unsubscribeChannel sessionId authenticatedTenant frame now ctx
    (command, authenticatedTenant, ctx)
  | .publish =>
    let (command, ctx) := publishMessage authenticatedTenant frame now ctx
    (command, authenticatedTenant, ctx)
  | .unicast =>
    let (command, ctx) := unicastMessage authenticatedTenant frame now ctx
    (command, authenticatedTenant, ctx)
  | .replay =>
    let (command, ctx) := replayHistory redis authenticatedTenant frame ctx
    (command, authenticatedTenant, ctx)
  | .message | .presence => (.none, authenticatedTenant, ctx)

def dispatchFrame (sessionId : SessionId) (rx : ReceiverId) (authenticatedTenant : Option TenantId)
    (frame : Frame) (now : Clock) (ctx : RealtimeContext) :
    FrameCommand × Option TenantId × RealtimeContext :=
  let result := executeInner codec redis sessionId rx authenticatedTenant frame now ctx
  (result.1, result.2.1, { result.2.2 with
    metrics := result.2.2.metrics.recordFrame frame.tenantId frame.opcode.label })

def maxChannelIdBytes : Nat := 24
def maxPayloadBytes : Nat := 211

inductive PublishError where
  | channelIdTooLong
  | payloadTooLarge
  | unauthorized (err : AuthError)
  | templateNotFound
  | rateLimited
  deriving DecidableEq

def publishBuilt (tenantId : TenantId) (channelId payload : String) (now : Clock)
    (ctx : RealtimeContext) : RealtimeContext :=
  let raw := FrameBuilder.build
    { opcode := .publish, tenantId := tenantId, channelId := channelId, payload := payload }
  match Frame.parse raw with
  | .error _ => ctx
  | .ok frame =>
    let sent := ctx.publishAndFanout tenantId ⟨tenantId, channelId⟩ frame now
    { sent with metrics := sent.metrics.recordFrame tenantId Opcode.publish.label }

structure PublishMessageDto where
  tenantId : TenantId
  channelId : String
  payload : String

def publishMessageHttp (dto : PublishMessageDto) (token : String) (now : Clock)
    (ctx : RealtimeContext) : Except PublishError Unit × RealtimeContext :=
  if maxChannelIdBytes < (utf8 dto.channelId).length then (.error .channelIdTooLong, ctx)
  else if maxPayloadBytes < (utf8 dto.payload).length then (.error .payloadTooLarge, ctx)
  else match ctx.auth.validate codec now.unixSecs dto.tenantId token with
  | .error err => (.error (.unauthorized err), ctx)
  | .ok _ =>
    let (allowed, limiter) := ctx.rateLimiter.checkTenant dto.tenantId now.instant
    let ctx := { ctx with rateLimiter := limiter }
    if !allowed then (.error .rateLimited, ctx)
    else (.ok (), publishBuilt dto.tenantId dto.channelId dto.payload now ctx)

/-- `rendered` is the text of the template, `none` where the tenant has no such template. -/
def publishTemplateHttp (tenantId : TenantId) (channelId : String) (token : String)
    (rendered : Option String) (now : Clock) (ctx : RealtimeContext) :
    Except PublishError Unit × RealtimeContext :=
  if maxChannelIdBytes < (utf8 channelId).length then (.error .channelIdTooLong, ctx)
  else match ctx.auth.validate codec now.unixSecs tenantId token with
  | .error err => (.error (.unauthorized err), ctx)
  | .ok _ =>
    let (allowed, limiter) := ctx.rateLimiter.checkTenant tenantId now.instant
    let ctx := { ctx with rateLimiter := limiter }
    if !allowed then (.error .rateLimited, ctx)
    else match rendered with
    | none => (.error .templateNotFound, ctx)
    | some payload =>
      if maxPayloadBytes < (utf8 payload).length then (.error .payloadTooLarge, ctx)
      else (.ok (), publishBuilt tenantId channelId payload now ctx)

/-- `tenantId` is the tenant of the validated portal session. -/
def broadcastMessage (tenantId : TenantId) (channelId payload : String) (now : Clock)
    (ctx : RealtimeContext) : Except PublishError Unit × RealtimeContext :=
  if maxChannelIdBytes < (utf8 channelId).length then (.error .channelIdTooLong, ctx)
  else if maxPayloadBytes < (utf8 payload).length then (.error .payloadTooLarge, ctx)
  else
    let (allowed, limiter) := ctx.rateLimiter.checkTenant tenantId now.instant
    let ctx := { ctx with rateLimiter := limiter }
    if !allowed then (.error .rateLimited, ctx)
    else (.ok (), publishBuilt tenantId channelId payload now ctx)

end UseCases
end RealtimePlatform.Backend
