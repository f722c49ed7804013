import RealtimePlatform.Backend.Cluster

/-!
# What a step hands to the push side

Only `publish_and_fanout` and the bus touch the queues behind `PushFallbackService`, its counter and
the notification log, and `publish_and_fanout` is called for what clients publish and nothing else.
-/

namespace RealtimePlatform.Backend
open Library UseCases Server

def RealtimeContext.deliveryOf (key : ChannelKey) (ctx : RealtimeContext) : NotificationDelivery :=
  if ctx.channelRouter.delivered key = 0 then .push else .realtime

def HasReceiver (r : ChannelRouterService Message) (key : ChannelKey) : Prop :=
  ∃ source rx, source.matches key = true ∧ (r.sent source rx).isSome = true

section
variable (r : ChannelRouterService Message) (key : ChannelKey)

theorem exact_receiverCount_eq_zero_iff : (r.getOrCreateChannel key).sender.receiverCount = 0 ↔
    ∀ rx, r.sent (.channel key) rx = none := by
  rw [Bus.receiverCount_eq_zero_iff]
  cases found : AList.lookup key r.channels with
  | none => simp [ChannelRouterService.getOrCreateChannel, ChannelRouterService.sent,
      ChannelRouterService.bus, ChannelRouterService.freshChannel, found]
  | some state => simp [ChannelRouterService.getOrCreateChannel, ChannelRouterService.sent,
      ChannelRouterService.bus, found]

theorem fanout_sum_eq_zero_iff : ((r.fanout key).map Bus.receiverCount).sum = 0 ↔
    ∀ wk, (Source.wildcard wk).matches key = true → ∀ rx, r.sent (.wildcard wk) rx = none := by
  rw [List.sum_eq_zero_iff_forall_eq_nat]
  simp only [List.forall_mem_map, Bus.receiverCount_eq_zero_iff, ChannelRouterService.fanout,
    List.mem_filter, ChannelRouterService.sent, ChannelRouterService.bus]
  constructor
  · intro silent wk hit rx
    cases found : AList.lookup wk r.wildcards with
    | none => rfl
    | some bus => exact silent ⟨wk, bus⟩ ⟨AList.mem_lookup_iff.mp found, hit⟩ rx
  · intro silent entry inside rx
    have nobody := silent entry.1 inside.2 rx
    rw [AList.mem_lookup_iff.mpr inside.1] at nobody
    exact nobody

theorem delivered_eq_zero_iff : r.delivered key = 0 ↔ ¬ HasReceiver r key := by
  rw [ChannelRouterService.delivered, Nat.add_eq_zero_iff, exact_receiverCount_eq_zero_iff,
    fanout_sum_eq_zero_iff]
  constructor
  · rintro ⟨exactly, widely⟩ ⟨source, rx, hit, attached⟩
    cases source with
    | channel own =>
        obtain rfl : own = key := of_decide_eq_true hit
        simp [exactly rx] at attached
    | wildcard wk => simp [widely wk hit rx] at attached
  · intro unheard
    constructor
    · intro rx
      by_contra attached
      exact unheard ⟨.channel key, rx, by simp [Source.matches], Option.isSome_iff_ne_none.mpr attached⟩
    · intro wk hit rx
      by_contra attached
      exact unheard ⟨.wildcard wk, rx, hit, Option.isSome_iff_ne_none.mpr attached⟩

end

def RealtimeContext.notificationOf (frame : Frame) (key : ChannelKey) (ctx : RealtimeContext) :
    Notification :=
  ⟨key.tenantId, key.channelId, frame.payload, ctx.deliveryOf key⟩

namespace Notification

def pushed (n : Notification) : Bool := n.delivery = .push

def job (n : Notification) : PushJob := ⟨n.tenantId, n.channelId, n.payload, []⟩

def lookup (n : Notification) : WebPushLookup := ⟨n.tenantId, n.channelId, n.payload⟩

def countsFor (tenantId : TenantId) (n : Notification) : Bool := n.pushed && n.tenantId = tenantId

end Notification

/-- The push side of an instance: what is behind `PushFallbackService`, and its counter. -/
structure PushSide where
  service : PushFallbackService
  total : TenantId → Nat

def RealtimeContext.pushSide (ctx : RealtimeContext) : PushSide :=
  ⟨ctx.pushFallback, ctx.metrics.pushFallbackTotal⟩

def PushSide.accept (raw : RawFrame) (n : Notification) (side : PushSide) : PushSide where
  service :=
    { cluster := side.service.cluster.map (RealtimeContext.broadcast raw)
      push := side.service.push ++ ([n].filter Notification.pushed).map Notification.job
      webPush := side.service.webPush.map (· ++ ([n].filter Notification.pushed).map Notification.lookup)
      notifications := side.service.notifications ++ [n] }
  total := fun tenantId => side.total tenantId + [n].countP (Notification.countsFor tenantId)

namespace RealtimeContext

theorem pushSide_publishAndFanout (ctx : RealtimeContext) {key : ChannelKey} {frame : Frame}
    (own : frame.tenantId = key.tenantId) (now : Clock) :
    (ctx.publishAndFanout frame.tenantId key frame now).pushSide =
      ctx.pushSide.accept frame.raw (ctx.notificationOf frame key) := by
  have unfolded : ctx.channelRouter.publish key.tenantId key ⟨frame.raw, key⟩ now.unixSecs =
      (.ok (ctx.channelRouter.delivered key),
        (ctx.channelRouter.publish key.tenantId key ⟨frame.raw, key⟩ now.unixSecs).2) := by
    simp [ChannelRouterService.publish]
  rw [own, publishAndFanout, unfolded]
  by_cases nobody : ctx.channelRouter.delivered key = 0
  · simp [nobody, pushSide, PushSide.accept, notificationOf, deliveryOf, Notification.countsFor,
      Notification.pushed, Notification.job, Notification.lookup, MetricsService.recordPushFallback,
      List.countP_singleton, eq_comm]
  · cases port : ctx.pushFallback.webPush <;>
      simp [nobody, port, pushSide, PushSide.accept, notificationOf, deliveryOf,
        Notification.countsFor, Notification.pushed]

theorem pushSide_same {ctx ctx' : RealtimeContext} (same : SameServices ctx ctx') :
    ctx'.pushSide = ctx.pushSide := by
  simp only [pushSide, same.pushFallback, same.metrics]

end RealtimeContext

open RealtimeContext

namespace Server

theorem pushSide_leave (s : SessionId) (c : Connection) (now : Clock) (ctx : RealtimeContext) :
    (leave s c now ctx).pushSide = ctx.pushSide := by
  have closed : RealtimeContext.pushSide { ctx with
      rateLimiter := ctx.rateLimiter.dropSession s
      metrics := ctx.metrics.connectionClosed c.transport } = ctx.pushSide := by
    cases c.transport <;> rfl
  unfold leave
  simp only
  split
  · exact (pushSide_same (RealtimeContext.handleLeave_same s now _)).trans closed
  · exact closed

theorem pushSide_settled (s : SessionId) (now : Clock) (c : Connection) (frame : Frame)
    (command : FrameCommand) (ctx : RealtimeContext) :
    (settled s now c frame command ctx).pushSide = ctx.pushSide := by
  cases command with
  | closeAuthFailed => exact pushSide_leave s c now _
  | _ => rfl

section
variable {env : Env} {server server' : Server} {s : SessionId} {bytes : List UInt8} {now : Clock}
  {c : Connection} {frame : Frame} {command : FrameCommand} {tenant : Option TenantId}
  {ctx : RealtimeContext}

theorem pushSide_unpublished (handles : Handles env server s bytes now c frame command tenant ctx)
    (nothing : clientPublish env server (.inbound s bytes now) = none) :
    ctx.pushSide = server.ctx.pushSide := by
  cases handles.dispatched with
  | published key named owned =>
      rw [clientPublish_of_admitted env handles.toAdmitted owned named] at nothing
      cases nothing
  | _ => rfl

theorem pushSide_published (handles : Handles env server s bytes now c frame command tenant ctx)
    {published : Frame} {key : ChannelKey}
    (found : clientPublish env server (.inbound s bytes now) = some (published, key)) :
    ctx.pushSide = server.ctx.pushSide.accept published.raw (server.ctx.notificationOf published key) := by
  obtain ⟨c', admitted, owned, named⟩ := clientPublish_inbound found
  obtain rfl := Option.some.inj (handles.ready.symm.trans admitted.ready)
  obtain rfl : frame = published := by
    have handled := handledFrame_of_admitted handles.toAdmitted
    rw [handledFrame_of_admitted admitted] at handled
    exact (Option.some.inj handled).symm
  have executed := handles.executed
  rw [owned, executeInner_published _ _ _ _ _ _ _ named] at executed
  obtain ⟨rfl, rest⟩ := Prod.mk.inj executed
  obtain ⟨_, rfl⟩ := Prod.mk.inj rest
  exact pushSide_publishAndFanout (charged s frame now server.ctx) (tenantId_publishKey named).symm now

theorem pushSide_http (request : HttpRequest) (now : Clock) (server : Server) :
    (httpStep env request now server.ctx).pushSide =
      (clientPublish env server (.http request now)).elim server.ctx.pushSide fun pair =>
        server.ctx.pushSide.accept pair.1.raw (server.ctx.notificationOf pair.1 pair.2) := by
  cases published : clientPublish env server (.http request now) with
  | none =>
      rcases httpStep_unpublished published with same | paid
      · rw [same, Option.elim_none]
      · rw [paid]
        rfl
  | some pair =>
      rw [httpStep_published published]
      exact pushSide_publishAndFanout (chargedTenant request.tenantId now server.ctx)
        (tenantId_of_clientPublish published) now

theorem step_pushSide {e : Event} (taken : step env server e = some server')
    (stays : e ≠ .clusterSend) : server'.ctx.pushSide =
      (clientPublish env server e).elim server.ctx.pushSide fun pair =>
        server.ctx.pushSide.accept pair.1.raw (server.ctx.notificationOf pair.1 pair.2) := by
  cases step_cases taken with
  | unparsed ready parsed =>
      rw [clientPublish_unhandled (handledFrame_unparsed ready parsed)]
      rfl
  | limited ready parsed refused =>
      rw [clientPublish_unhandled (handledFrame_limited ready parsed refused)]
      rfl
  | handled handles =>
      rename_i s bytes now c frame command tenant ctx
      show (settled s now _ frame command ctx).pushSide = _
      rw [pushSide_settled]
      cases published : clientPublish env server (.inbound s bytes now) with
      | none => exact pushSide_unpublished handles published
      | some pair => exact pushSide_published handles published
  | closed => exact pushSide_leave _ _ _ server.ctx
  | swept => exact pushSide_same (RealtimeContext.sweep_same _ _ server.ctx)
  | requested => exact pushSide_http _ _ server
  | administered =>
      rename_i op
      cases op <;> rfl
  | connected =>
      rename_i transport _
      cases transport <;> rfl
  | sent => exact absurd rfl stays
  | _ => rfl

end
end Server

end RealtimePlatform.Backend
