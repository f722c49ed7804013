import RealtimePlatform.Backend.Server

/-!
# What a step can do

Each function of the server is described once here, and the invariants are derived from these
descriptions: `Dispatched` for the dispatcher, `Routed` for the router, `Moved` for one connection.
-/

namespace RealtimePlatform.Backend
open Library

structure SameServices (ctx ctx' : RealtimeContext) : Prop where
  auth : ctx'.auth = ctx.auth
  pushFallback : ctx'.pushFallback = ctx.pushFallback
  rateLimiter : ctx'.rateLimiter = ctx.rateLimiter
  metrics : ctx'.metrics = ctx.metrics

namespace SameServices

theorem refl (ctx : RealtimeContext) : SameServices ctx ctx := ⟨rfl, rfl, rfl, rfl⟩

theorem trans {a b c : RealtimeContext} (first : SameServices a b) (second : SameServices b c) :
    SameServices a c :=
  ⟨second.auth.trans first.auth, second.pushFallback.trans first.pushFallback,
    second.rateLimiter.trans first.rateLimiter, second.metrics.trans first.metrics⟩

theorem foldl {β : Type} {f : RealtimeContext → β → RealtimeContext}
    (each : ∀ ctx b, SameServices ctx (f ctx b)) (items : List β) (ctx : RealtimeContext) :
    SameServices ctx (items.foldl f ctx) := by
  induction items generalizing ctx with
  | nil => exact refl ctx
  | cons item items ih => exact (each ctx item).trans (ih (f ctx item))

end SameServices

/-- One router reached from another, every publish carrying the key it is made on. -/
inductive Routed : ChannelRouterService Message → ChannelRouterService Message → Prop
  | refl (r) : Routed r r
  | trans {a b c} : Routed a b → Routed b c → Routed a c
  | attach (r key rx) : Routed r (r.attach key rx)
  | subscribeWildcard (r tenantId pattern rx) : Routed r (r.subscribeWildcard tenantId pattern rx)
  | publish (r tenantId key frame nowSecs) :
      Routed r (r.publish tenantId key ⟨frame, key⟩ nowSecs).2
  | replay (r redis tenantId key since) : Routed r (r.replay redis tenantId key since).2
  | pruneEmpty (r key) : Routed r (r.pruneEmpty key)
  | pruneDeadWildcards (r) : Routed r r.pruneDeadWildcards
  | detach (r source rx) : Routed r (r.detach source rx)
  | drained {r key m rest} : r.historyPort = some ⟨(key, m) :: rest⟩ →
      Routed r { r with historyPort := some ⟨rest⟩ }

/-- One router reached from another with every receiver attached to where it was. -/
inductive Broadcasts : ChannelRouterService Message → ChannelRouterService Message → Prop
  | refl (r) : Broadcasts r r
  | trans {a b c} : Broadcasts a b → Broadcasts b c → Broadcasts a c
  | publish (r tenantId key frame nowSecs) :
      Broadcasts r (r.publish tenantId key ⟨frame, key⟩ nowSecs).2
  | replay (r redis tenantId key since) : Broadcasts r (r.replay redis tenantId key since).2
  | pruneEmpty (r key) : Broadcasts r (r.pruneEmpty key)
  | pruneDeadWildcards (r) : Broadcasts r r.pruneDeadWildcards
  | drained {r key m rest} : r.historyPort = some ⟨(key, m) :: rest⟩ →
      Broadcasts r { r with historyPort := some ⟨rest⟩ }

namespace Broadcasts

theorem routed {r r' : ChannelRouterService Message} (broadcasts : Broadcasts r r') : Routed r r' := by
  induction broadcasts with
  | refl => exact .refl _
  | trans _ _ first second => exact .trans first second
  | publish => exact .publish _ _ _ _ _
  | replay => exact .replay _ _ _ _ _
  | pruneEmpty => exact .pruneEmpty _ _
  | pruneDeadWildcards => exact .pruneDeadWildcards _
  | drained port => exact .drained port

theorem foldl {β : Type} {f : RealtimeContext → β → RealtimeContext}
    (each : ∀ ctx b, Broadcasts ctx.channelRouter (f ctx b).channelRouter) (items : List β)
    (ctx : RealtimeContext) : Broadcasts ctx.channelRouter (items.foldl f ctx).channelRouter := by
  induction items generalizing ctx with
  | nil => exact .refl _
  | cons item items ih => exact (each ctx item).trans (ih (f ctx item))

end Broadcasts

namespace RealtimeContext

theorem departFrom_same (s : SessionId) (event : PresenceEvent) (tenantId : TenantId) (now : Clock)
    (ctx : RealtimeContext) (channelId : String) :
    SameServices ctx (departFrom s event tenantId now ctx channelId) := ⟨rfl, rfl, rfl, rfl⟩

theorem departFrom_broadcasts (s : SessionId) (event : PresenceEvent) (tenantId : TenantId) (now : Clock)
    (ctx : RealtimeContext) (channelId : String) :
    Broadcasts ctx.channelRouter (departFrom s event tenantId now ctx channelId).channelRouter :=
  (Broadcasts.publish _ _ _ _ _).trans (.pruneEmpty _ _)

theorem departAll_same (s : SessionId) (event : PresenceEvent) (now : Clock) (entry : PresenceEntry)
    (ctx : RealtimeContext) : SameServices ctx (departAll s event now entry ctx) :=
  SameServices.foldl (departFrom_same s event entry.tenantId now) _ _

theorem departAll_broadcasts (s : SessionId) (event : PresenceEvent) (now : Clock) (entry : PresenceEntry)
    (ctx : RealtimeContext) : Broadcasts ctx.channelRouter (departAll s event now entry ctx).channelRouter :=
  Broadcasts.foldl (departFrom_broadcasts s event entry.tenantId now) _ _

theorem handleLeave_same (s : SessionId) (now : Clock) (ctx : RealtimeContext) :
    SameServices ctx (ctx.handleLeave s now) := by
  unfold handleLeave
  split
  · exact SameServices.refl ctx
  · have removed : SameServices ctx { ctx with presence := ctx.presence.remove s } :=
      ⟨rfl, rfl, rfl, rfl⟩
    exact removed.trans (departAll_same s .leave now _ _)

theorem handleLeave_broadcasts (s : SessionId) (now : Clock) (ctx : RealtimeContext) :
    Broadcasts ctx.channelRouter (ctx.handleLeave s now).channelRouter := by
  unfold handleLeave
  split
  · exact .refl _
  · exact departAll_broadcasts s .leave now _ { ctx with presence := ctx.presence.remove s }

theorem sweep_same (order : List SessionId) (now : Clock) (ctx : RealtimeContext) :
    SameServices ctx (ctx.sweep order now) := by
  have each := SameServices.foldl
    (fun ctx (entry : PresenceEntry) => departAll_same entry.sessionId .timeout now entry ctx)
    (order.filterMap fun id => AList.lookup id ctx.presence.sessions)
    { ctx with
      channelRouter := ctx.channelRouter.pruneDeadWildcards
      presence := order.foldl (fun p id => p.remove id) ctx.presence }
  exact ⟨each.auth, each.pushFallback, each.rateLimiter, each.metrics⟩

theorem sweep_broadcasts (order : List SessionId) (now : Clock) (ctx : RealtimeContext) :
    Broadcasts ctx.channelRouter (ctx.sweep order now).channelRouter :=
  (Broadcasts.pruneDeadWildcards _).trans (Broadcasts.foldl
    (fun ctx (entry : PresenceEntry) => departAll_broadcasts entry.sessionId .timeout now entry ctx)
    (order.filterMap fun id => AList.lookup id ctx.presence.sessions)
    { ctx with
      channelRouter := ctx.channelRouter.pruneDeadWildcards
      presence := order.foldl (fun p id => p.remove id) ctx.presence })

section PublishAndFanout
variable (tenantId : TenantId) (key : ChannelKey) (frame : Frame) (now : Clock) (ctx : RealtimeContext)

theorem channelRouter_publishAndFanout : (ctx.publishAndFanout tenantId key frame now).channelRouter =
    (ctx.channelRouter.publish tenantId key ⟨frame.raw, key⟩ now.unixSecs).2 := by
  unfold publishAndFanout
  by_cases own : tenantId = key.tenantId
  · simp only [ChannelRouterService.publish, own, ne_eq, not_true_eq_false, if_false]
    split <;> rfl
  · simp [ChannelRouterService.publish, own]

theorem auth_publishAndFanout : (ctx.publishAndFanout tenantId key frame now).auth = ctx.auth := by
  unfold publishAndFanout
  split
  · rfl
  · dsimp only
    split <;> rfl

theorem presence_publishAndFanout :
    (ctx.publishAndFanout tenantId key frame now).presence = ctx.presence := by
  unfold publishAndFanout
  split
  · rfl
  · dsimp only
    split <;> rfl

theorem rateLimiter_publishAndFanout :
    (ctx.publishAndFanout tenantId key frame now).rateLimiter = ctx.rateLimiter := by
  unfold publishAndFanout
  split
  · rfl
  · dsimp only
    split <;> rfl

theorem messagesTotal_publishAndFanout :
    (ctx.publishAndFanout tenantId key frame now).metrics.messagesTotal = ctx.metrics.messagesTotal := by
  unfold publishAndFanout
  split
  · rfl
  · dsimp only
    split <;> rfl

theorem rateLimitedTotal_publishAndFanout :
    (ctx.publishAndFanout tenantId key frame now).metrics.rateLimitedTotal =
      ctx.metrics.rateLimitedTotal := by
  unfold publishAndFanout
  split
  · rfl
  · dsimp only
    split <;> rfl

end PublishAndFanout

end RealtimeContext

namespace UseCases
variable (codec : TokenCodec) (redis : RedisStreams Message) (s : SessionId) (rx : ReceiverId)
  (tenant : Option TenantId) (frame : Frame) (now : Clock) (ctx : RealtimeContext)

def namedKey (frame : Frame) : ChannelKey := ⟨frame.tenantId, frame.channelId⟩

def inboxKey (frame : Frame) (sub : String) : ChannelKey := ⟨frame.tenantId, unicastInboxChannel sub⟩

/-- The key a frame is published on, for the two opcodes that publish. -/
def publishKey (frame : Frame) : Option ChannelKey :=
  match frame.opcode with
  | .publish => some (namedKey frame)
  | .unicast => some (inboxKey frame frame.channelId)
  | _ => none

theorem tenantId_publishKey {frame : Frame} {key : ChannelKey} (named : publishKey frame = some key) :
    key.tenantId = frame.tenantId := by
  unfold publishKey at named
  split at named
  · exact Option.some.inj named ▸ rfl
  · exact Option.some.inj named ▸ rfl
  · cases named

/-- Everything the dispatcher can do with a frame. -/
inductive Dispatched : FrameCommand → Option TenantId → RealtimeContext → Prop
  | idle : frame.opcode ≠ .auth → Dispatched .none tenant ctx
  | rejected (err : AuthError) : frame.opcode = .auth →
      ctx.auth.validate codec now.unixSecs frame.tenantId frame.payload = .error err →
      Dispatched .closeAuthFailed tenant ctx
  | accepted (claims : Claims) : frame.opcode = .auth →
      ctx.auth.validate codec now.unixSecs frame.tenantId frame.payload = .ok claims →
      Dispatched (.subscribed (unicastInboxChannel claims.sub) (.channel (inboxKey frame claims.sub)))
        (some frame.tenantId)
        { ctx.handleJoin frame.tenantId s claims.sub now with
          channelRouter := ctx.channelRouter.attach (inboxKey frame claims.sub) rx }
  | beat : frame.opcode = .ping → Dispatched .none tenant (ctx.heartbeat s now)
  | pattern : frame.opcode = .subscribe → tenant = some frame.tenantId →
      isPattern frame.channelId = true →
      Dispatched (.subscribed frame.channelId (.wildcard ⟨frame.tenantId, frame.channelId⟩)) tenant
        { ctx with
          channelRouter := ctx.channelRouter.subscribeWildcard frame.tenantId frame.channelId rx }
  | exact : frame.opcode = .subscribe → tenant = some frame.tenantId →
      isPattern frame.channelId = false →
      Dispatched (.subscribed frame.channelId (.channel (namedKey frame))) tenant
        (RealtimeContext.handleSubscribe frame.tenantId s frame.channelId now
          { ctx with channelRouter := ctx.channelRouter.attach (namedKey frame) rx })
  | unsubPattern : frame.opcode = .unsub → tenant = some frame.tenantId →
      isPattern frame.channelId = true → Dispatched (.unsubscribed frame.channelId) tenant ctx
  | unsubExact : frame.opcode = .unsub → tenant = some frame.tenantId →
      isPattern frame.channelId = false →
      Dispatched (.unsubscribed frame.channelId) tenant
        (ctx.handleUnsubscribe frame.tenantId s frame.channelId now)
  | published (key : ChannelKey) : publishKey frame = some key → tenant = some frame.tenantId →
      Dispatched .none tenant (ctx.publishAndFanout frame.tenantId key frame now)
  | replayed (frames : List Message) (router : ChannelRouterService Message) :
      frame.opcode = .replay → tenant = some frame.tenantId → isPattern frame.channelId = false →
      ctx.channelRouter.replay redis frame.tenantId (namedKey frame) (sinceSecs frame) =
        (.ok frames, router) →
      Dispatched (.replayed frames) tenant { ctx with channelRouter := router }

theorem ownTenant_eq_some {tenant : Option TenantId} {frame : Frame} {tenantId : TenantId}
    (own : ownTenant tenant frame = some tenantId) :
    tenant = some frame.tenantId ∧ tenantId = frame.tenantId := by
  obtain ⟨found, same⟩ := Option.filter_eq_some_iff.mp own
  have equal : tenantId = frame.tenantId := of_decide_eq_true same
  exact ⟨equal ▸ found, equal⟩

theorem ownTenant_self (frame : Frame) : ownTenant (some frame.tenantId) frame = some frame.tenantId := by
  simp [ownTenant]

theorem executeInner_auth {claims : Claims} (opcode : frame.opcode = .auth)
    (valid : ctx.auth.validate codec now.unixSecs frame.tenantId frame.payload = .ok claims) :
    executeInner codec redis s rx tenant frame now ctx =
      (.subscribed (unicastInboxChannel claims.sub) (.channel (inboxKey frame claims.sub)),
        some frame.tenantId,
        { ctx.handleJoin frame.tenantId s claims.sub now with
          channelRouter := ctx.channelRouter.attach (inboxKey frame claims.sub) rx }) := by
  have taken := ChannelRouterService.subscribe_own (inboxKey frame claims.sub) rx
    (ctx.handleJoin frame.tenantId s claims.sub now).channelRouter
  simp only [inboxKey] at taken
  simp only [executeInner, opcode, authenticateSession, valid, taken]
  rfl

theorem executeInner_exact (opcode : frame.opcode = .subscribe)
    (exact : isPattern frame.channelId = false) :
    executeInner codec redis s rx (some frame.tenantId) frame now ctx =
      (.subscribed frame.channelId (.channel (namedKey frame)), some frame.tenantId,
        RealtimeContext.handleSubscribe frame.tenantId s frame.channelId now
          { ctx with channelRouter := ctx.channelRouter.attach (namedKey frame) rx }) := by
  have own := ownTenant_self frame
  have taken := ChannelRouterService.subscribe_own (namedKey frame) rx ctx.channelRouter
  simp only [namedKey] at taken
  simp only [executeInner, opcode, subscribeChannel, own, exact, Bool.false_eq_true, if_false, taken]
  rfl

theorem executeInner_pattern (opcode : frame.opcode = .subscribe)
    (pattern : isPattern frame.channelId = true) :
    executeInner codec redis s rx (some frame.tenantId) frame now ctx =
      (.subscribed frame.channelId (.wildcard ⟨frame.tenantId, frame.channelId⟩), some frame.tenantId,
        { ctx with channelRouter :=
            ctx.channelRouter.subscribeWildcard frame.tenantId frame.channelId rx }) := by
  have own := ownTenant_self frame
  simp only [executeInner, opcode, subscribeChannel, own, pattern, if_true]

theorem executeInner_unsubExact (opcode : frame.opcode = .unsub)
    (exact : isPattern frame.channelId = false) :
    executeInner codec redis s rx (some frame.tenantId) frame now ctx =
      (.unsubscribed frame.channelId, some frame.tenantId,
        ctx.handleUnsubscribe frame.tenantId s frame.channelId now) := by
  have own := ownTenant_self frame
  simp only [executeInner, opcode, unsubscribeChannel, own, exact, Bool.false_eq_true, if_false]

theorem executeInner_published {key : ChannelKey} (named : publishKey frame = some key) :
    executeInner codec redis s rx (some frame.tenantId) frame now ctx =
      (.none, some frame.tenantId, ctx.publishAndFanout frame.tenantId key frame now) := by
  have own := ownTenant_self frame
  cases opcode : frame.opcode with
  | publish =>
      simp only [publishKey, opcode, Option.some.injEq] at named
      simp only [executeInner, opcode, publishMessage, own, ← named]
      rfl
  | unicast =>
      simp only [publishKey, opcode, Option.some.injEq] at named
      simp only [executeInner, opcode, unicastMessage, own, ← named]
      rfl
  | _ => simp [publishKey, opcode] at named

theorem executeInner_foreign (nobody : ownTenant tenant frame = none) (auth : frame.opcode ≠ .auth)
    (ping : frame.opcode ≠ .ping) :
    executeInner codec redis s rx tenant frame now ctx = (.none, tenant, ctx) := by
  cases kind : frame.opcode with
  | auth => exact absurd kind auth
  | ping => exact absurd kind ping
  | subscribe => simp only [executeInner, kind, subscribeChannel, nobody]
  | unsub => simp only [executeInner, kind, unsubscribeChannel, nobody]
  | publish => simp only [executeInner, kind, publishMessage, nobody]
  | unicast => simp only [executeInner, kind, unicastMessage, nobody]
  | replay => simp only [executeInner, kind, replayHistory, nobody]
  | message => simp only [executeInner, kind]
  | presence => simp only [executeInner, kind]

theorem executeInner_dispatched :
    let result := executeInner codec redis s rx tenant frame now ctx
    Dispatched codec redis s rx tenant frame now ctx result.1 result.2.1 result.2.2 := by
  intro result
  cases opcode : frame.opcode with
  | auth =>
      cases valid : ctx.auth.validate codec now.unixSecs frame.tenantId frame.payload with
      | error err =>
          have eq : result = (.closeAuthFailed, tenant, ctx) := by
            simp only [result, executeInner, opcode, authenticateSession, valid]
          rw [eq]
          exact .rejected err opcode valid
      | ok claims =>
          have eq := executeInner_auth codec redis s rx tenant frame now ctx opcode valid
          change result = _ at eq
          rw [eq]
          exact .accepted claims opcode valid
  | ping =>
      cases authenticated : tenant.isSome with
      | true =>
          have eq : result = (.none, tenant, ctx.heartbeat s now) := by
            simp only [result, executeInner, opcode, heartbeat, authenticated, if_true]
          rw [eq]
          exact .beat opcode
      | false =>
          have eq : result = (.none, tenant, ctx) := by
            simp [result, executeInner, opcode, heartbeat, authenticated]
          rw [eq]
          exact .idle (by rw [opcode]; decide)
  | message =>
      have eq : result = (.none, tenant, ctx) := by simp only [result, executeInner, opcode]
      rw [eq]
      exact .idle (by rw [opcode]; decide)
  | presence =>
      have eq : result = (.none, tenant, ctx) := by simp only [result, executeInner, opcode]
      rw [eq]
      exact .idle (by rw [opcode]; decide)
  | subscribe =>
      have eq : result = ((subscribeChannel s rx tenant frame now ctx).1, tenant,
          (subscribeChannel s rx tenant frame now ctx).2) := by
        simp only [result, executeInner, opcode]
      rw [eq]
      unfold subscribeChannel
      split
      · exact .idle (by rw [opcode]; decide)
      rename_i tenantId own
      obtain ⟨owned, rfl⟩ := ownTenant_eq_some own
      by_cases pattern : isPattern frame.channelId = true
      · simp only [pattern, if_true]
        exact .pattern opcode owned pattern
      · have taken := ChannelRouterService.subscribe_own (namedKey frame) rx ctx.channelRouter
        simp only [namedKey] at taken
        simp only [pattern, taken]
        exact .exact opcode owned (Bool.eq_false_iff.mpr pattern)
  | unsub =>
      have eq : result = ((unsubscribeChannel s tenant frame now ctx).1, tenant,
          (unsubscribeChannel s tenant frame now ctx).2) := by
        simp only [result, executeInner, opcode]
      rw [eq]
      unfold unsubscribeChannel
      split
      · exact .idle (by rw [opcode]; decide)
      rename_i tenantId own
      obtain ⟨owned, rfl⟩ := ownTenant_eq_some own
      by_cases pattern : isPattern frame.channelId = true
      · simp only [pattern, if_true]
        exact .unsubPattern opcode owned pattern
      · simp only [pattern]
        exact .unsubExact opcode owned (Bool.eq_false_iff.mpr pattern)
  | publish =>
      have eq : result = ((publishMessage tenant frame now ctx).1, tenant,
          (publishMessage tenant frame now ctx).2) := by
        simp only [result, executeInner, opcode]
      rw [eq]
      unfold publishMessage
      split
      · exact .idle (by rw [opcode]; decide)
      rename_i tenantId own
      obtain ⟨owned, rfl⟩ := ownTenant_eq_some own
      exact .published (namedKey frame) (by simp [publishKey, opcode]) owned
  | unicast =>
      have eq : result = ((unicastMessage tenant frame now ctx).1, tenant,
          (unicastMessage tenant frame now ctx).2) := by
        simp only [result, executeInner, opcode]
      rw [eq]
      unfold unicastMessage
      split
      · exact .idle (by rw [opcode]; decide)
      rename_i tenantId own
      obtain ⟨owned, rfl⟩ := ownTenant_eq_some own
      exact .published (inboxKey frame frame.channelId) (by simp [publishKey, opcode]) owned
  | replay =>
      have eq : result = ((replayHistory redis tenant frame ctx).1, tenant,
          (replayHistory redis tenant frame ctx).2) := by
        simp only [result, executeInner, opcode]
      rw [eq]
      unfold replayHistory
      split
      · exact .idle (by rw [opcode]; decide)
      rename_i tenantId own
      obtain ⟨owned, rfl⟩ := ownTenant_eq_some own
      by_cases pattern : isPattern frame.channelId = true
      · simp only [pattern, if_true]
        exact .idle (by rw [opcode]; decide)
      · rcases found : ctx.channelRouter.replay redis frame.tenantId
            ⟨frame.tenantId, frame.channelId⟩ (sinceSecs frame) with ⟨err | frames, router⟩
        · simp only [pattern]
          exact .idle (by rw [opcode]; decide)
        · simp only [pattern]
          exact .replayed frames router opcode owned (Bool.eq_false_iff.mpr pattern) found

section Services
variable {codec redis s rx tenant frame now ctx} {command : FrameCommand} {tenant' : Option TenantId}
  {ctx' : RealtimeContext}
  (done : Dispatched codec redis s rx tenant frame now ctx command tenant' ctx')
include done

theorem Dispatched.routed : Routed ctx.channelRouter ctx'.channelRouter := by
  cases done with
  | idle => exact .refl _
  | rejected => exact .refl _
  | accepted claims => exact .attach _ _ _
  | beat => exact .refl _
  | pattern => exact .subscribeWildcard _ _ _ _
  | exact => exact (Routed.attach _ _ _).trans (.publish _ _ _ _ _)
  | unsubPattern => exact .refl _
  | unsubExact => exact .publish _ _ _ _ _
  | published key =>
      rw [RealtimeContext.channelRouter_publishAndFanout]
      exact .publish _ _ _ _ _
  | replayed frames router _ _ _ found =>
      have same : router = (ctx.channelRouter.replay redis frame.tenantId (namedKey frame)
        (sinceSecs frame)).2 := (congrArg Prod.snd found).symm
      exact same ▸ .replay _ _ _ _ _

theorem Dispatched.auth_eq : ctx'.auth = ctx.auth := by
  cases done with
  | published key => exact RealtimeContext.auth_publishAndFanout _ _ _ _ _
  | _ => rfl

theorem Dispatched.rateLimiter_eq : ctx'.rateLimiter = ctx.rateLimiter := by
  cases done with
  | published key => exact RealtimeContext.rateLimiter_publishAndFanout _ _ _ _ _
  | _ => rfl

theorem Dispatched.messagesTotal_eq : ctx'.metrics.messagesTotal = ctx.metrics.messagesTotal := by
  cases done with
  | published key => exact RealtimeContext.messagesTotal_publishAndFanout _ _ _ _ _
  | _ => rfl

theorem Dispatched.rateLimitedTotal_eq :
    ctx'.metrics.rateLimitedTotal = ctx.metrics.rateLimitedTotal := by
  cases done with
  | published key => exact RealtimeContext.rateLimitedTotal_publishAndFanout _ _ _ _ _
  | _ => rfl

end Services

end UseCases

namespace HttpRequest

def tenantId : HttpRequest → TenantId
  | message dto _ => dto.tenantId
  | template tenantId _ _ _ => tenantId
  | broadcast tenantId _ _ => tenantId

def channelId : HttpRequest → String
  | message dto _ => dto.channelId
  | template _ channelId _ _ => channelId
  | broadcast _ channelId _ => channelId

def fits (text : String) : Bool := (utf8 text).length ≤ UseCases.maxPayloadBytes

def admissible (codec : TokenCodec) (auth : TokenService) (nowUnix : Nat) : HttpRequest → Bool
  | message dto token => (utf8 dto.channelId).length ≤ UseCases.maxChannelIdBytes &&
      fits dto.payload && (auth.validate codec nowUnix dto.tenantId token).toOption.isSome
  | template tenantId channelId token _ => (utf8 channelId).length ≤ UseCases.maxChannelIdBytes &&
      (auth.validate codec nowUnix tenantId token).toOption.isSome
  | broadcast _ channelId payload => (utf8 channelId).length ≤ UseCases.maxChannelIdBytes &&
      fits payload

/-- The payload published once the limiter has let the request pass. -/
def text : HttpRequest → Option String
  | message dto _ => some dto.payload
  | template _ _ _ rendered => rendered.filter fits
  | broadcast _ _ payload => some payload

end HttpRequest

def chargedTenant (tenantId : TenantId) (now : Clock) (ctx : RealtimeContext) : RealtimeContext :=
  { ctx with rateLimiter := (ctx.rateLimiter.checkTenant tenantId now.instant).2 }

theorem error_or_ok {ε α : Type} (result : Except ε α) :
    (∃ err, result = .error err) ∨ ∃ value, result = .ok value := by
  cases result with
  | error err => exact Or.inl ⟨err, rfl⟩
  | ok value => exact Or.inr ⟨value, rfl⟩

theorem httpStep_eq (env : Env) (request : HttpRequest) (now : Clock) (ctx : RealtimeContext) :
    Server.httpStep env request now ctx =
      if request.admissible env.codec ctx.auth now.unixSecs then
        if (ctx.rateLimiter.checkTenant request.tenantId now.instant).1 then
          match request.text with
          | none => chargedTenant request.tenantId now ctx
          | some payload => UseCases.publishBuilt request.tenantId request.channelId payload now
              (chargedTenant request.tenantId now ctx)
        else chargedTenant request.tenantId now ctx
      else ctx := by
  cases request with
  | message dto token =>
      show (UseCases.publishMessageHttp env.codec dto token now ctx).2 = _
      simp only [UseCases.publishMessageHttp, HttpRequest.admissible, HttpRequest.tenantId,
        HttpRequest.text, HttpRequest.channelId, HttpRequest.fits]
      by_cases named : (utf8 dto.channelId).length ≤ UseCases.maxChannelIdBytes
      · by_cases sized : (utf8 dto.payload).length ≤ UseCases.maxPayloadBytes
        · rw [if_neg (Nat.not_lt.mpr named), if_neg (Nat.not_lt.mpr sized)]
          rcases error_or_ok (ctx.auth.validate env.codec now.unixSecs dto.tenantId token) with
            ⟨err, valid⟩ | ⟨claims, valid⟩
          · simp [valid, Except.toOption]
          · by_cases allowed : (ctx.rateLimiter.checkTenant dto.tenantId now.instant).1 = true <;>
              simp [named, sized, valid, allowed, Except.toOption, chargedTenant]
        · simp [Nat.not_lt.mpr named, Nat.lt_of_not_le sized, sized]
      · simp [Nat.lt_of_not_le named, named]
  | template tenantId channelId token rendered =>
      show (UseCases.publishTemplateHttp env.codec tenantId channelId token rendered now ctx).2 = _
      simp only [UseCases.publishTemplateHttp, HttpRequest.admissible, HttpRequest.tenantId,
        HttpRequest.text, HttpRequest.channelId]
      by_cases named : (utf8 channelId).length ≤ UseCases.maxChannelIdBytes
      · rw [if_neg (Nat.not_lt.mpr named)]
        rcases error_or_ok (ctx.auth.validate env.codec now.unixSecs tenantId token) with
          ⟨err, valid⟩ | ⟨claims, valid⟩
        · simp [valid, Except.toOption]
        · by_cases allowed : (ctx.rateLimiter.checkTenant tenantId now.instant).1 = true
          · cases rendered with
            | none => simp [named, valid, allowed, Except.toOption, chargedTenant]
            | some payload =>
                by_cases sized : (utf8 payload).length ≤ UseCases.maxPayloadBytes
                · have kept : (some payload).filter HttpRequest.fits = some payload := by
                    simp [Option.filter, HttpRequest.fits, sized]
                  simp [named, valid, allowed, kept, Nat.not_lt.mpr sized, Except.toOption,
                    chargedTenant]
                · have dropped : (some payload).filter HttpRequest.fits = none := by
                    simp [Option.filter, HttpRequest.fits, sized]
                  simp [named, valid, allowed, dropped, Nat.lt_of_not_le sized, Except.toOption,
                    chargedTenant]
          · simp [named, valid, allowed, Except.toOption, chargedTenant]
      · simp [Nat.lt_of_not_le named, named]
  | broadcast tenantId channelId payload =>
      show (UseCases.broadcastMessage tenantId channelId payload now ctx).2 = _
      simp only [UseCases.broadcastMessage, HttpRequest.admissible, HttpRequest.tenantId,
        HttpRequest.text, HttpRequest.channelId, HttpRequest.fits]
      by_cases named : (utf8 channelId).length ≤ UseCases.maxChannelIdBytes
      · by_cases sized : (utf8 payload).length ≤ UseCases.maxPayloadBytes
        · rw [if_neg (Nat.not_lt.mpr named), if_neg (Nat.not_lt.mpr sized)]
          by_cases allowed : (ctx.rateLimiter.checkTenant tenantId now.instant).1 = true <;>
            simp [named, sized, allowed, chargedTenant]
        · simp [Nat.not_lt.mpr named, Nat.lt_of_not_le sized, sized]
      · simp [Nat.lt_of_not_le named, named]

end RealtimePlatform.Backend
