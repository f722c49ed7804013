import RealtimePlatform.Backend.Relays
import RealtimePlatform.Library.Utf16

/-!
# What is published

The journal of the router records every publish: its frame is one that the server has parsed or built,
under a channel that depends on how it came. A receiver is sent what its source matches of the journal.
-/

namespace RealtimePlatform.Backend
open Library UseCases Server

namespace FrameBuilder

def fitted (b : FrameBuilder) : FrameBuilder :=
  { b with
    channelId := String.ofList (Utf16.fitting lenChannel b.channelId.toList)
    payload := String.ofList (Utf16.fitting lenPayload b.payload.toList) }

theorem header_fitted (b : FrameBuilder) : b.fitted.header = b.header := by
  simp only [header, fitted, ← Utf16.writePadded_fitting]

theorem length_utf8_fitting_le (width : Nat) (s : String) :
    (utf8 (String.ofList (Utf16.fitting width s.toList))).length ≤ width := by
  rw [utf8_ofList]
  exact Utf16.utf8Length_fitting_le width s.toList

def built (b : FrameBuilder) : Frame :=
  b.fitted.frame (length_utf8_fitting_le lenChannel b.channelId)
    (length_utf8_fitting_le lenPayload b.payload)

theorem raw_built (b : FrameBuilder) : b.built.raw = b.build := by
  apply List.Vector.toList_injective
  show b.fitted.build.toList = b.build.toList
  rw [toList_build, toList_build, header_fitted]

end FrameBuilder

/-- The channels a frame can be published on: the one it names, the inbox of the user it names, the
channel an HTTP request gives, or the presence channel of a channel that a session enters or leaves. -/
inductive Carried (frame : Frame) : ChannelKey → Prop
  | named : Carried frame (namedKey frame)
  | inbox : frame.opcode = .unicast → Carried frame (inboxKey frame frame.channelId)
  | posted {name : String} : frame.opcode = .publish → frame.channelId = trimEndNul name →
      Carried frame ⟨frame.tenantId, name⟩
  | announced {channel : ChannelKey} : frame.opcode = .presence →
      frame.channelId = trimEndNul (String.ofList
        (Utf16.fitting lenChannel channel.presenceKey.channelId.toList)) →
      Carried frame channel.presenceKey

structure Recorded (entry : ChannelKey × Message × Nat) : Prop where
  key : entry.2.1.key = entry.1
  carried : ∃ frame : Frame, entry.2.1.frame = frame.raw ∧ Carried frame entry.1

def Publishes (r r' : ChannelRouterService Message) : Prop :=
  ∃ entries, r'.journal = r.journal ++ entries ∧ ∀ entry ∈ entries, Recorded entry

namespace Publishes

theorem of_journal {r r' : ChannelRouterService Message} (same : r'.journal = r.journal) :
    Publishes r r' :=
  ⟨[], by rw [same, List.append_nil], by simp⟩

theorem refl (r : ChannelRouterService Message) : Publishes r r := of_journal rfl

theorem trans {a b c : ChannelRouterService Message} (first : Publishes a b) (second : Publishes b c) :
    Publishes a c := by
  obtain ⟨early, before, recorded⟩ := first
  obtain ⟨late, after, recorded'⟩ := second
  refine ⟨early ++ late, by rw [after, before, List.append_assoc], ?_⟩
  intro entry member
  rcases List.mem_append.mp member with old | new
  · exact recorded entry old
  · exact recorded' entry new

theorem foldl {β : Type} {f : RealtimeContext → β → RealtimeContext}
    (each : ∀ ctx b, Publishes ctx.channelRouter (f ctx b).channelRouter) (items : List β)
    (ctx : RealtimeContext) : Publishes ctx.channelRouter (items.foldl f ctx).channelRouter := by
  induction items generalizing ctx with
  | nil => exact refl _
  | cons item items ih => exact (each ctx item).trans (ih (f ctx item))

theorem publish {frame : Frame} {key : ChannelKey} (carried : Carried frame key) (tenantId : TenantId)
    (nowSecs : Nat) (r : ChannelRouterService Message) :
    Publishes r (r.publish tenantId key ⟨frame.raw, key⟩ nowSecs).2 := by
  unfold ChannelRouterService.publish
  split
  · exact refl r
  · refine ⟨_, rfl, fun entry member => ?_⟩
    rw [List.mem_singleton.mp member]
    exact ⟨rfl, frame, rfl, carried⟩

end Publishes

namespace RealtimeContext

theorem publishPresenceEvent_publishes (tenantId : TenantId) (channelId : String) (s : SessionId)
    (event : PresenceEvent) (now : Clock) (ctx : RealtimeContext) :
    Publishes ctx.channelRouter (publishPresenceEvent tenantId channelId s event now ctx).channelRouter := by
  have carried : ∀ b : FrameBuilder, b.opcode = .presence →
      b.channelId = (ChannelKey.mk tenantId channelId).presenceKey.channelId →
      Publishes ctx.channelRouter (ctx.channelRouter.publish tenantId
        (ChannelKey.mk tenantId channelId).presenceKey
        ⟨b.build, (ChannelKey.mk tenantId channelId).presenceKey⟩ now.unixSecs).2 := by
    intro b opcode channel
    rw [← b.raw_built]
    refine .publish (.announced opcode ?_) _ _ _
    rw [← channel]
    rfl
  exact carried _ rfl rfl

theorem departFrom_publishes (s : SessionId) (event : PresenceEvent) (tenantId : TenantId) (now : Clock)
    (ctx : RealtimeContext) (channelId : String) :
    Publishes ctx.channelRouter (departFrom s event tenantId now ctx channelId).channelRouter :=
  (publishPresenceEvent_publishes tenantId channelId s event now ctx).trans (.of_journal rfl)

theorem departAll_publishes (s : SessionId) (event : PresenceEvent) (now : Clock) (entry : PresenceEntry)
    (ctx : RealtimeContext) : Publishes ctx.channelRouter (departAll s event now entry ctx).channelRouter :=
  Publishes.foldl (departFrom_publishes s event entry.tenantId now) _ _

theorem handleLeave_publishes (s : SessionId) (now : Clock) (ctx : RealtimeContext) :
    Publishes ctx.channelRouter (ctx.handleLeave s now).channelRouter := by
  unfold handleLeave
  split
  · exact .refl _
  · exact departAll_publishes s .leave now _ { ctx with presence := ctx.presence.remove s }

theorem sweep_publishes (order : List SessionId) (now : Clock) (ctx : RealtimeContext) :
    Publishes ctx.channelRouter (ctx.sweep order now).channelRouter :=
  (Publishes.of_journal rfl).trans (Publishes.foldl
    (fun ctx (entry : PresenceEntry) => departAll_publishes entry.sessionId .timeout now entry ctx)
    (order.filterMap fun id => AList.lookup id ctx.presence.sessions)
    { ctx with
      channelRouter := ctx.channelRouter.pruneDeadWildcards
      presence := order.foldl (fun p id => p.remove id) ctx.presence })

theorem publishAndFanout_publishes {frame : Frame} {key : ChannelKey} (carried : Carried frame key)
    (tenantId : TenantId) (now : Clock) (ctx : RealtimeContext) :
    Publishes ctx.channelRouter (ctx.publishAndFanout tenantId key frame now).channelRouter := by
  rw [channelRouter_publishAndFanout]
  exact .publish carried _ _ _

end RealtimeContext

theorem carried_of_publishKey {frame : Frame} {key : ChannelKey} (named : publishKey frame = some key) :
    Carried frame key := by
  unfold publishKey at named
  split at named
  · exact Option.some.inj named ▸ .named
  · exact Option.some.inj named ▸ .inbox ‹_›
  · cases named

theorem journal_replay (redis : RedisStreams Message) (tenantId : TenantId) (key : ChannelKey)
    (since : Nat) (r : ChannelRouterService Message) :
    (r.replay redis tenantId key since).2.journal = r.journal := by
  unfold ChannelRouterService.replay
  split
  · rfl
  · split <;> rfl

theorem UseCases.Dispatched.publishes {codec : TokenCodec} {redis : RedisStreams Message}
    {s : SessionId} {rx : ReceiverId} {tenant tenant' : Option TenantId} {frame : Frame} {now : Clock}
    {ctx ctx' : RealtimeContext} {command : FrameCommand}
    (done : Dispatched codec redis s rx tenant frame now ctx command tenant' ctx') :
    Publishes ctx.channelRouter ctx'.channelRouter := by
  cases done with
  | exact =>
      exact (Publishes.of_journal rfl).trans (RealtimeContext.publishPresenceEvent_publishes _ _ _ _ _
        { ctx with
          channelRouter := ctx.channelRouter.attach (namedKey frame) rx
          presence := ctx.presence.trackChannel s frame.channelId })
  | unsubExact =>
      exact RealtimeContext.publishPresenceEvent_publishes _ _ _ _ _
        { ctx with presence := ctx.presence.untrackChannel s frame.channelId }
  | published key named =>
      exact RealtimeContext.publishAndFanout_publishes (carried_of_publishKey named) _ _ _
  | replayed frames router _ _ _ found =>
      refine .of_journal ?_
      have same : router = (ctx.channelRouter.replay redis frame.tenantId (namedKey frame)
        (sinceSecs frame)).2 := (congrArg Prod.snd found).symm
      show router.journal = _
      rw [same, journal_replay]
  | _ => exact .of_journal rfl

namespace Server

theorem leave_publishes (s : SessionId) (c : Connection) (now : Clock) (ctx : RealtimeContext) :
    Publishes ctx.channelRouter (leave s c now ctx).channelRouter := by
  unfold leave
  simp only
  split
  · exact RealtimeContext.handleLeave_publishes s now { ctx with
      rateLimiter := ctx.rateLimiter.dropSession s
      metrics := ctx.metrics.connectionClosed c.transport }
  · exact .refl _

theorem settled_publishes (s : SessionId) (now : Clock) (c : Connection) (frame : Frame)
    (command : FrameCommand) (ctx : RealtimeContext) :
    Publishes ctx.channelRouter (settled s now c frame command ctx).channelRouter := by
  cases command with
  | closeAuthFailed => exact leave_publishes s c now { ctx with
      metrics := ctx.metrics.recordFrame frame.tenantId frame.opcode.label }
  | _ => exact .refl _

theorem publishBuilt_publishes (tenantId : TenantId) (channelId payload : String) (now : Clock)
    (ctx : RealtimeContext) (fits : (utf8 channelId).length ≤ lenChannel) :
    Publishes ctx.channelRouter (publishBuilt tenantId channelId payload now ctx).channelRouter := by
  have carried : ∀ b : FrameBuilder, b.opcode = .publish → b.tenantId = tenantId →
      b.channelId = channelId → Carried b.built ⟨tenantId, channelId⟩ := by
    rintro b opcode rfl rfl
    refine .posted opcode ?_
    have whole : Utf16.fitting lenChannel b.channelId.toList = b.channelId.toList := by
      apply Utf16.fitting_eq_self
      rwa [Utf16.utf8Length, ← utf8_ofList, String.ofList_toList]
    show trimEndNul (String.ofList (Utf16.fitting lenChannel b.channelId.toList)) = _
    rw [whole, String.ofList_toList]
  unfold publishBuilt
  simp only
  rw [← FrameBuilder.raw_built, Frame.parse_raw]
  exact RealtimeContext.publishAndFanout_publishes (carried _ rfl rfl rfl) _ _ _

theorem httpStep_publishes (env : Env) (request : HttpRequest) (now : Clock) (ctx : RealtimeContext) :
    Publishes ctx.channelRouter (httpStep env request now ctx).channelRouter := by
  rw [httpStep_eq]
  split
  · rename_i admissible
    have fits : (utf8 request.channelId).length ≤ lenChannel := by
      cases request <;>
        simp only [HttpRequest.admissible, Bool.and_eq_true, decide_eq_true_eq] at admissible
      · exact admissible.1.1
      · exact admissible.1
      · exact admissible.1
    split
    · split
      · exact .refl _
      · exact publishBuilt_publishes _ _ _ now (chargedTenant request.tenantId now ctx) fits
    · exact .refl _
  · exact .refl _

theorem step_publishes {env : Env} {server server' : Server} {e : Event}
    (taken : step env server e = some server') :
    Publishes server.ctx.channelRouter server'.ctx.channelRouter := by
  cases step_cases taken with
  | handled handles =>
      exact (handles.dispatched.publishes).trans (settled_publishes _ _ _ _ _ _)
  | ended | orphaned | dropped =>
      rename_i task _ _ _
      refine .of_journal ?_
      show (server.ctx.channelRouter.detach task.source _).journal = _
      cases task.source <;> rfl
  | closed => exact leave_publishes _ _ _ server.ctx
  | swept => exact RealtimeContext.sweep_publishes _ _ server.ctx
  | requested => exact httpStep_publishes env _ _ server.ctx
  | administered =>
      rename_i op
      cases op <;> exact .refl _
  | reinjected => exact .publish .named _ _ _
  | _ => exact .refl _

/-- What a publish of each of the entries sends to the source. -/
def passed (source : Source) (entries : List (ChannelKey × Message × Nat)) : List Message :=
  (entries.filter fun entry => source.matches entry.1).map (·.2.1)

theorem passed_append (source : Source) (early late : List (ChannelKey × Message × Nat)) :
    passed source (early ++ late) = passed source early ++ passed source late := by
  rw [passed, List.filter_append, List.map_append]
  rfl

/-- A receiver is sent what its source matches of what is published. -/
def Follows (rx : ReceiverId) (r r' : ChannelRouterService Message) : Prop :=
  ∃ entries, r'.journal = r.journal ++ entries ∧
    ∀ source, r'.sent source rx = (r.sent source rx).map (· ++ passed source entries)

section
variable {rx : ReceiverId}

theorem Follows.of_sent {r r' : ChannelRouterService Message} (journal : r'.journal = r.journal)
    (sent : ∀ source, r'.sent source rx = r.sent source rx) : Follows rx r r' := by
  refine ⟨[], by rw [journal, List.append_nil], fun source => ?_⟩
  rw [sent]
  simp [passed]

theorem Follows.refl (r : ChannelRouterService Message) : Follows rx r r :=
  .of_sent rfl fun _ => rfl

theorem Follows.trans {a b c : ChannelRouterService Message} (first : Follows rx a b)
    (second : Follows rx b c) : Follows rx a c := by
  obtain ⟨early, before, sent⟩ := first
  obtain ⟨late, after, sent'⟩ := second
  refine ⟨early ++ late, by rw [after, before, List.append_assoc], fun source => ?_⟩
  rw [sent', sent, Option.map_map, passed_append]
  congr 1
  funext log
  exact List.append_assoc _ _ _

theorem Follows.of_broadcasts {r r' : ChannelRouterService Message} (broadcasts : Broadcasts r r') :
    Follows rx r r' := by
  induction broadcasts with
  | refl r => exact .refl r
  | trans _ _ first second => exact first.trans second
  | publish r tenantId key frame nowSecs =>
      by_cases own : tenantId = key.tenantId
      · refine ⟨[(key, ⟨frame, key⟩, r.delivered key)], ?_, fun source => ?_⟩
        · simp [ChannelRouterService.publish, own]
        · rw [r.sent_publish]
          by_cases hit : source.matches key = true
          · rw [if_pos ⟨own, hit⟩]
            simp [passed, hit]
          · rw [if_neg fun both => hit both.2]
            simp [passed, hit]
      · refine .of_sent ?_ fun source => ?_
        · simp [ChannelRouterService.publish, own]
        · rw [r.sent_publish, if_neg fun both => own both.1]
  | replay r redis tenantId key since =>
      exact .of_sent (journal_replay redis tenantId key since r) fun source => r.sent_replay ..
  | pruneEmpty r key => exact .of_sent rfl fun source => r.sent_pruneEmpty key source rx
  | pruneDeadWildcards r => exact .of_sent rfl fun source => r.sent_pruneDeadWildcards source rx
  | drained port => exact .of_sent rfl fun _ => rfl

theorem Follows.of_obtains {r r' : ChannelRouterService Message} {source : Source} {q : ReceiverId}
    (journal : r'.journal = r.journal) (obtains : Obtains source q r r') (apart : rx ≠ q) :
    Follows rx r r' :=
  .of_sent journal fun other => by rw [obtains, if_neg fun same => apart same.2]

theorem Follows.of_detach {source : Source} {q : ReceiverId} (r : ChannelRouterService Message)
    (apart : rx ≠ q) : Follows rx r (r.detach source q) := by
  refine .of_sent ?_ fun other => ?_
  · cases source <;> rfl
  · rw [r.sent_detach, if_neg fun same => apart same.2]

end

section
variable {env : Env} {server server' : Server}

theorem follows_dropTask {s q : SessionId} {seq n : Nat} {task : RelayTask} {c : Connection}
    (live : ∀ c', (server.dropTask s seq task c).connections q = some c' →
      (AList.lookup n c'.tasks).isSome = true) :
    Follows ⟨q, n⟩ server.ctx.channelRouter (server.dropTask s seq task c).ctx.channelRouter := by
  refine .of_detach _ fun same => ?_
  obtain ⟨rfl, rfl⟩ := ReceiverId.mk.inj same
  have gone := live _ (connections_dropTask q n task c server)
  rw [AList.lookup_erase] at gone
  cases gone

theorem step_follows {e : Event} (taken : step env server e = some server') {q : SessionId} {n : Nat}
    (older : ∀ c, server.connections q = some c → n < c.spawned)
    (live : ∀ c', server'.connections q = some c' → (AList.lookup n c'.tasks).isSome = true) :
    Follows ⟨q, n⟩ server.ctx.channelRouter server'.ctx.channelRouter := by
  cases step_cases taken with
  | handled handles =>
      rename_i s bytes now c frame command tenant ctx
      have there := (waiting_eq_some handles.ready).1
      have settles := settled_broadcasts s now (returned env server s now c frame tenant) frame command
        ctx
      have obtained := handles.dispatched.obtained
      cases command with
      | subscribed key source =>
          obtain ⟨r, obtains, journal, publishes⟩ := obtained
          have apart : (⟨q, n⟩ : ReceiverId) ≠ ⟨s, c.spawned⟩ := by
            intro same
            obtain ⟨rfl, rfl⟩ := ReceiverId.mk.inj same
            exact Nat.lt_irrefl _ (older c there)
          exact (Follows.of_obtains journal obtains apart).trans
            (.of_broadcasts (publishes.trans settles))
      | _ => exact .of_broadcasts (Broadcasts.trans obtained settles)
  | ended | orphaned | dropped => exact follows_dropTask live
  | closed => exact .of_broadcasts (leave_broadcasts _ _ _ server.ctx)
  | swept => exact .of_broadcasts (RealtimeContext.sweep_broadcasts _ _ server.ctx)
  | requested => exact .of_broadcasts (httpStep_broadcasts env _ _ server.ctx)
  | administered =>
      rename_i op
      cases op <;> exact .refl _
  | reinjected => exact .of_broadcasts (.publish _ _ _ _ _)
  | persisted port => exact .of_broadcasts (.drained port)
  | _ => exact .refl _

end

end Server
end RealtimePlatform.Backend
