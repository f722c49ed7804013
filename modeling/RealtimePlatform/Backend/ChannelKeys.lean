import RealtimePlatform.Backend.Attendance
import RealtimePlatform.Backend.Delivery

/-!
# Which channels a step touches

Entries of the channels map are made on demand, by subscribing, publishing and replaying, and removed by
pruning. What a step does to the map is described by the channels that its event names and, when a
session departs, those that its presence entry lists.
-/

namespace RealtimePlatform.Backend
open Library UseCases Server

inductive Touch where
  | attach (key : ChannelKey)
  | publish (key : ChannelKey)
  | replay (key : ChannelKey)
  | prune (key : ChannelKey)
  | detach

/-- One router reached from another by operations that `may` allows on the channels. -/
inductive Touches (may : Touch → Prop) :
    ChannelRouterService Message → ChannelRouterService Message → Prop
  | refl (r) : Touches may r r
  | trans {a b c} : Touches may a b → Touches may b c → Touches may a c
  | attach (r key rx) : may (.attach key) → Touches may r (r.attach key rx)
  | subscribeWildcard (r tenantId pattern rx) : Touches may r (r.subscribeWildcard tenantId pattern rx)
  | publish (r tenantId key frame nowSecs) : may (.publish key) →
      Touches may r (r.publish tenantId key ⟨frame, key⟩ nowSecs).2
  | replay (r redis tenantId key since) : may (.replay key) →
      Touches may r (r.replay redis tenantId key since).2
  | pruneEmpty (r key) : may (.prune key) → Touches may r (r.pruneEmpty key)
  | pruneDeadWildcards (r) : Touches may r r.pruneDeadWildcards
  | detach (r source rx) : may .detach → Touches may r (r.detach source rx)
  | drained {r key m rest} : r.historyPort = some ⟨(key, m) :: rest⟩ →
      Touches may r { r with historyPort := some ⟨rest⟩ }

namespace ChannelRouterService
variable {α : Type*} {r : ChannelRouterService α} {key k : ChannelKey}

theorem mem_attach (rx : ReceiverId) : k ∈ (r.attach key rx).channels ↔ k = key ∨ k ∈ r.channels :=
  AList.mem_insert _

theorem mem_publish (frame : α) (nowSecs : Nat) :
    k ∈ (r.publish key.tenantId key frame nowSecs).2.channels ↔ k = key ∨ k ∈ r.channels := by
  rw [publish, if_neg (not_not.mpr rfl)]
  exact AList.mem_insert _

theorem of_mem_publish {tenantId : TenantId} {frame : α} {nowSecs : Nat}
    (member : k ∈ (r.publish tenantId key frame nowSecs).2.channels) : k = key ∨ k ∈ r.channels := by
  by_cases own : tenantId = key.tenantId
  · subst own
    exact (mem_publish frame nowSecs).mp member
  · rw [publish, if_pos own] at member
    exact Or.inr member

theorem of_mem_replay {redis : RedisStreams α} {tenantId : TenantId} {since : Nat}
    (member : k ∈ (r.replay redis tenantId key since).2.channels) : k = key ∨ k ∈ r.channels := by
  unfold replay at member
  split at member
  · exact Or.inr member
  · split at member
    · exact Or.inr member
    · exact (AList.mem_insert _).mp member

theorem mem_replay (redis : RedisStreams α) (since : Nat) (port : r.historyPort = none) :
    key ∈ (r.replay redis key.tenantId key since).2.channels := by
  rw [replay, if_neg (not_not.mpr rfl), port]
  exact (AList.mem_insert _).mpr (Or.inl rfl)

theorem of_mem_pruneEmpty (member : k ∈ (r.pruneEmpty key).channels) : k ∈ r.channels := by
  obtain ⟨state, found⟩ := Option.isSome_iff_exists.mp (AList.lookup_isSome.mpr member)
  rw [pruneEmpty, Table.lookup_retain] at found
  exact AList.lookup_isSome.mp (Option.isSome_of_eq_some (Option.filter_eq_some_iff.mp found).1)

theorem mem_detach (source : Source) (rx : ReceiverId) : k ∈ (r.detach source rx).channels ↔ k ∈ r.channels := by
  cases source with
  | wildcard key => exact Iff.rfl
  | channel key =>
      rw [← AList.lookup_isSome, ← AList.lookup_isSome]
      by_cases here : k = key
      · subst here
        rw [detach, Table.lookup_adjust, Option.isSome_map]
      · rw [detach, Table.lookup_adjust_ne _ _ here]

theorem mem_listChannels {tenantId : TenantId} {name : String} {count : Nat}
    (member : (name, count) ∈ r.listChannels tenantId) : (⟨tenantId, name⟩ : ChannelKey) ∈ r.channels := by
  obtain ⟨entry, kept, same⟩ := List.mem_map.mp member
  obtain ⟨there, own⟩ := List.mem_filter.mp kept
  obtain ⟨rfl, _⟩ := Prod.mk.inj same
  obtain rfl := of_decide_eq_true own
  show entry.1 ∈ r.channels.entries.keys
  exact List.mem_keys_of_mem there

theorem exists_listed (member : key ∈ r.channels) :
    ∃ count, (key.channelId, count) ∈ r.listChannels key.tenantId := by
  obtain ⟨entry, there, rfl⟩ := List.mem_map.mp member
  exact ⟨entry.2.sender.receiverCount,
    List.mem_map.mpr ⟨entry, List.mem_filter.mpr ⟨there, decide_eq_true rfl⟩, rfl⟩⟩

end ChannelRouterService

theorem Touches.adds {may : Touch → Prop} {r r' : ChannelRouterService Message} (touches : Touches may r r')
    {k : ChannelKey} (member : k ∈ r'.channels) :
    k ∈ r.channels ∨ may (.attach k) ∨ may (.publish k) ∨ may (.replay k) := by
  induction touches with
  | refl => exact Or.inl member
  | trans _ _ first second =>
      rcases second member with there | new
      · exact first there
      · exact Or.inr new
  | attach r key rx allowed =>
      rcases (ChannelRouterService.mem_attach rx).mp member with rfl | there
      · exact Or.inr (Or.inl allowed)
      · exact Or.inl there
  | publish r tenantId key frame nowSecs allowed =>
      rcases ChannelRouterService.of_mem_publish member with rfl | there
      · exact Or.inr (Or.inr (Or.inl allowed))
      · exact Or.inl there
  | replay r redis tenantId key since allowed =>
      rcases ChannelRouterService.of_mem_replay member with rfl | there
      · exact Or.inr (Or.inr (Or.inr allowed))
      · exact Or.inl there
  | pruneEmpty r key => exact Or.inl (ChannelRouterService.of_mem_pruneEmpty member)
  | detach r source rx => exact Or.inl ((ChannelRouterService.mem_detach source rx).mp member)
  | subscribeWildcard | pruneDeadWildcards | drained => exact Or.inl member

def Acts (server : Server) (e : Event) (frame : Frame) : Prop :=
  ∃ s bytes now c, e = .inbound s bytes now ∧ Admitted server s bytes now c frame ∧
    c.authenticatedTenant = some frame.tenantId

section
variable {server : Server} {s : SessionId} {bytes : List UInt8} {now now' : Clock} {c c' : Connection}
  {frame other : Frame}

theorem Server.Admitted.unique (admitted : Admitted server s bytes now c frame)
    (admitted' : Admitted server s bytes now' c' other) : c' = c ∧ other = frame := by
  obtain rfl := Option.some.inj (admitted'.ready.symm.trans admitted.ready)
  exact ⟨rfl, Except.ok.inj (Option.some.inj (admitted'.parsed.symm.trans admitted.parsed))⟩

theorem frame_of_acts (admitted : Admitted server s bytes now c frame) (acts : Acts server (.inbound s bytes now) other) :
    other = frame := by
  obtain ⟨_, _, _, _, same, admitted', _⟩ := acts
  cases same
  exact (admitted.unique admitted').2

end

def Attaches (env : Env) (server : Server) (e : Event) (key : ChannelKey) : Prop :=
  (∃ frame, Acts server e frame ∧ frame.opcode = .subscribe ∧ isPattern frame.channelId = false ∧
    key = namedKey frame) ∨
  ∃ s bytes now c frame claims, e = .inbound s bytes now ∧ Admitted server s bytes now c frame ∧
    acceptedClaims env frame now server.ctx = some claims ∧ key = inboxKey frame claims.sub

def PublishesOn (env : Env) (server : Server) (e : Event) (key : ChannelKey) : Prop :=
  (∃ frame, Acts server e frame ∧ publishKey frame = some key) ∨
  (∃ request now, e = .http request now ∧ (publishedText env request now server.ctx).isSome = true ∧
    key = ⟨request.tenantId, request.channelId⟩) ∨
  ∃ payload now frame, e = .clusterReceive payload now ∧ remoteFrame env.instanceId payload = some frame ∧
    key = remoteKey frame

def Announces (server : Server) (e : Event) (key : ChannelKey) : Prop :=
  ∃ frame, Acts server e frame ∧ (frame.opcode = .subscribe ∨ frame.opcode = .unsub) ∧
    isPattern frame.channelId = false ∧ key = namedKey frame

/-- A REPLAY of the channel that the ring buffer answers. -/
def Replays (server : Server) (e : Event) (key : ChannelKey) : Prop :=
  server.ctx.channelRouter.historyPort = none ∧ ∃ frame, Acts server e frame ∧ frame.opcode = .replay ∧
    isPattern frame.channelId = false ∧ key = namedKey frame

def Listed (p : PresenceService) (key : ChannelKey) : Prop :=
  ∃ s entry, AList.lookup s p.sessions = some entry ∧ entry.tenantId = key.tenantId ∧
    key.channelId ∈ entry.channels

def Ends : Event → Prop
  | .relayRecv _ _ | .relaySend _ _ | .taskDrop _ _ => True
  | _ => False

def May (env : Env) (server : Server) (e : Event) : Touch → Prop
  | .attach key => Attaches env server e key
  | .publish key => PublishesOn env server e key ∨
      ∃ own, key = own.presenceKey ∧ (Announces server e own ∨ Listed server.ctx.presence own)
  | .replay key => Replays server e key
  | .prune key => Listed server.ctx.presence key ∧ ¬ Ends e
  | .detach => Ends e

section
variable {s : SessionId} {key : ChannelKey}

theorem listed_of_adjust {p p' : PresenceService} {f : PresenceEntry → PresenceEntry}
    (sessions : p'.sessions = Table.adjust s f p.sessions) (tenant : ∀ entry, (f entry).tenantId = entry.tenantId)
    (listed : Listed p' key) : Listed p key ∨ ∃ entry, AList.lookup s p.sessions = some entry ∧
      entry.tenantId = key.tenantId ∧ key.channelId ∈ (f entry).channels := by
  obtain ⟨q, entry, found, own, member⟩ := listed
  rw [sessions] at found
  by_cases here : q = s
  · subst here
    rw [Table.lookup_adjust] at found
    obtain ⟨older, there, rfl⟩ := Option.map_eq_some_iff.mp found
    exact Or.inr ⟨older, there, (tenant older).symm.trans own, member⟩
  · rw [Table.lookup_adjust_ne _ _ here] at found
    exact Or.inl ⟨q, entry, found, own, member⟩

theorem listed_of_depart {p : PresenceService} {event : PresenceEvent} (listed : Listed (p.depart event s) key) :
    Listed p key := by
  obtain ⟨q, entry, found, rest⟩ := listed
  exact ⟨q, entry, (Table.lookup_of_lookup_erase found).2, rest⟩

end

namespace Touches
variable {may : Touch → Prop}

theorem foldl {β : Type} {f : RealtimeContext → β → RealtimeContext} {items : List β}
    (each : ∀ item ∈ items, ∀ ctx, Touches may ctx.channelRouter (f ctx item).channelRouter)
    (ctx : RealtimeContext) : Touches may ctx.channelRouter (items.foldl f ctx).channelRouter := by
  induction items generalizing ctx with
  | nil => exact .refl _
  | cons item items ih =>
      obtain ⟨first, rest⟩ := List.forall_mem_cons.mp each
      exact (first ctx).trans (ih rest (f ctx item))

theorem departAll {entry : PresenceEntry} (s : SessionId) (event : PresenceEvent) (now : Clock)
    (publishes : ∀ channelId ∈ entry.channels, may (.publish (ChannelKey.mk entry.tenantId channelId).presenceKey))
    (prunes : ∀ channelId ∈ entry.channels, may (.prune ⟨entry.tenantId, channelId⟩)) (ctx : RealtimeContext) :
    Touches may ctx.channelRouter (RealtimeContext.departAll s event now entry ctx).channelRouter := by
  refine Touches.foldl (fun channelId member ctx => ?_) ctx
  exact (Touches.publish _ _ _ _ _ (publishes channelId member)).trans (.pruneEmpty _ _ (prunes channelId member))

end Touches

namespace Server
variable {env : Env} {server server' : Server} {e : Event}

theorem departs_touches {entry : PresenceEntry} {s : SessionId}
    (found : AList.lookup s server.ctx.presence.sessions = some entry) (runs : ¬ Ends e) (q : SessionId)
    (event : PresenceEvent) (now : Clock) (ctx : RealtimeContext) : Touches (May env server e) ctx.channelRouter
      (RealtimeContext.departAll q event now entry ctx).channelRouter := by
  refine Touches.departAll q event now (fun channelId member => ?_) (fun channelId member => ?_) ctx
  · exact Or.inr ⟨⟨entry.tenantId, channelId⟩, rfl, Or.inr ⟨s, entry, found, rfl, member⟩⟩
  · exact ⟨⟨s, entry, found, rfl, member⟩, runs⟩

theorem handleLeave_touches (s : SessionId) (now : Clock) {ctx : RealtimeContext}
    (presence : ctx.presence = server.ctx.presence) (runs : ¬ Ends e) :
    Touches (May env server e) ctx.channelRouter (ctx.handleLeave s now).channelRouter := by
  unfold RealtimeContext.handleLeave
  split
  · exact .refl _
  · rename_i entry found
    rw [presence] at found
    exact departs_touches found runs s .leave now { ctx with presence := ctx.presence.remove s }

theorem leave_touches (s : SessionId) (c : Connection) (now : Clock) {ctx : RealtimeContext}
    (presence : ctx.presence = server.ctx.presence) (runs : ¬ Ends e) :
    Touches (May env server e) ctx.channelRouter (leave s c now ctx).channelRouter := by
  unfold leave
  simp only
  split
  · exact @handleLeave_touches env server e s now { ctx with
      rateLimiter := ctx.rateLimiter.dropSession s
      metrics := ctx.metrics.connectionClosed c.transport } presence runs
  · exact .refl _

theorem sweep_touches (order : List SessionId) (now : Clock) (runs : ¬ Ends e) :
    Touches (May env server e) server.ctx.channelRouter (server.ctx.sweep order now).channelRouter := by
  refine (Touches.pruneDeadWildcards _).trans (Touches.foldl (fun entry member ctx => ?_) { server.ctx with
    channelRouter := server.ctx.channelRouter.pruneDeadWildcards
    presence := order.foldl (fun p id => p.remove id) server.ctx.presence })
  obtain ⟨s, _, found⟩ := List.mem_filterMap.mp member
  exact departs_touches found runs entry.sessionId .timeout now ctx

section
variable {s : SessionId} {bytes : List UInt8} {now : Clock} {c : Connection} {frame : Frame}
  {command : FrameCommand} {tenant : Option TenantId} {ctx : RealtimeContext}

theorem Handles.acts (handles : Handles env server s bytes now c frame command tenant ctx)
    (owned : c.authenticatedTenant = some frame.tenantId) : Acts server (.inbound s bytes now) frame :=
  ⟨s, bytes, now, c, rfl, handles.toAdmitted, owned⟩

theorem settled_channelRouter {command : FrameCommand} (ctx : RealtimeContext) (stays : command ≠ .closeAuthFailed) :
    (settled s now c frame command ctx).channelRouter = ctx.channelRouter := by
  cases command with
  | closeAuthFailed => exact absurd rfl stays
  | _ => rfl

theorem channelRouter_of_executed (admitted : Admitted server s bytes now c frame)
    (taken : step env server (.inbound s bytes now) = some server') (opcode : frame.opcode ≠ .auth) :
    server'.ctx.channelRouter = (executeInner env.codec server.redis s ⟨s, c.spawned⟩ c.authenticatedTenant frame now
      (charged s frame now server.ctx)).2.2.channelRouter := by
  obtain ⟨command, tenant, ctx, handles, rfl⟩ := admitted.handled taken
  have stays : command ≠ .closeAuthFailed := by
    rintro rfl
    cases handles.dispatched with
    | rejected err auth invalid => exact opcode auth
  rw [handles.executed, setConnection_ctx, setCtx_ctx, settled_channelRouter _ stays]

theorem Handles.touches (handles : Handles env server s bytes now c frame command tenant ctx) :
    Touches (May env server (.inbound s bytes now)) server.ctx.channelRouter
      (settled s now (returned env server s now c frame tenant) frame command ctx).channelRouter := by
  cases handles.dispatched with
  | idle | beat | unsubPattern => exact .refl _
  | pattern => exact .subscribeWildcard _ _ _ _
  | rejected =>
      exact @leave_touches env server (.inbound s bytes now) s _ now { charged s frame now server.ctx with
        metrics := server.ctx.metrics.recordFrame frame.tenantId frame.opcode.label } rfl id
  | accepted claims opcode valid =>
      have accepted : acceptedClaims env frame now server.ctx = some claims :=
        acceptedClaims_eq_some.mpr ⟨opcode, valid⟩
      exact .attach _ _ _ (Or.inr ⟨s, bytes, now, c, frame, claims, rfl, handles.toAdmitted, accepted, rfl⟩)
  | exact opcode owned exact =>
      have acts := handles.acts owned
      refine (Touches.attach _ _ _ (Or.inl ⟨frame, acts, opcode, exact, rfl⟩)).trans (.publish _ _ _ _ _ ?_)
      exact Or.inr ⟨namedKey frame, rfl, Or.inl ⟨frame, acts, Or.inl opcode, exact, rfl⟩⟩
  | unsubExact opcode owned exact =>
      refine .publish _ _ _ _ _ (Or.inr ⟨namedKey frame, rfl, Or.inl ?_⟩)
      exact ⟨frame, handles.acts owned, Or.inr opcode, exact, rfl⟩
  | published key named owned =>
      show Touches _ _ (RealtimeContext.publishAndFanout _ _ _ _ _).channelRouter
      rw [RealtimeContext.channelRouter_publishAndFanout]
      exact .publish _ _ _ _ _ (Or.inl (Or.inl ⟨frame, handles.acts owned, named⟩))
  | replayed frames router opcode owned exact found =>
      have same : router = (server.ctx.channelRouter.replay server.redis frame.tenantId (namedKey frame)
        (sinceSecs frame)).2 := (congrArg Prod.snd found).symm
      show Touches _ _ router
      rw [same]
      cases port : server.ctx.channelRouter.historyPort with
      | none => exact .replay _ _ _ _ _ ⟨port, frame, handles.acts owned, opcode, exact, rfl⟩
      | some adapter =>
          simp only [ChannelRouterService.replay, port]
          split <;> exact .refl _

end

theorem channelRouter_httpStep {request : HttpRequest} {now : Clock} {ctx : RealtimeContext}
    (text : publishedText env request now ctx = none) :
    (httpStep env request now ctx).channelRouter = ctx.channelRouter := by
  unfold publishedText at text
  rw [httpStep_eq]
  split
  · rename_i admissible
    split
    · rename_i allowed
      rw [admissible, allowed] at text
      simp only [Bool.and_self, if_true] at text
      rw [text]
      rfl
    · rfl
  · rfl

theorem httpStep_touches (request : HttpRequest) (now : Clock) :
    Touches (May env server (.http request now)) server.ctx.channelRouter
      (httpStep env request now server.ctx).channelRouter := by
  cases text : publishedText env request now server.ctx with
  | none =>
      rw [channelRouter_httpStep text]
      exact .refl _
  | some payload =>
      rw [httpStep_of_text text]
      unfold publishBuilt
      simp only
      split
      · exact .refl _
      · show Touches _ _ (RealtimeContext.publishAndFanout _ _ _ _ _).channelRouter
        rw [RealtimeContext.channelRouter_publishAndFanout]
        exact .publish _ _ _ _ _ (Or.inl (Or.inr (Or.inl ⟨request, now, rfl, by rw [text]; rfl, rfl⟩)))

theorem step_touches (taken : step env server e = some server') :
    Touches (May env server e) server.ctx.channelRouter server'.ctx.channelRouter := by
  cases step_cases taken with
  | handled handles => exact handles.touches
  | ended | orphaned | dropped => exact .detach _ _ _ trivial
  | closed => exact leave_touches _ _ _ rfl id
  | swept => exact sweep_touches _ _ id
  | requested => exact httpStep_touches _ _
  | administered =>
      rename_i op
      cases op <;> exact .refl _
  | reinjected found => exact .publish _ _ _ _ _ (Or.inl (Or.inr (Or.inr ⟨_, _, _, rfl, found, rfl⟩)))
  | persisted port => exact .drained port
  | _ => exact .refl _

theorem listed_step {key : ChannelKey} (registered : Registered server.ctx.presence server.users)
    (taken : step env server e = some server') (listed : Listed server'.ctx.presence key) :
    Listed server.ctx.presence key ∨ ∃ frame, Acts server e frame ∧ frame.opcode = .subscribe ∧
      isPattern frame.channelId = false ∧ key = namedKey frame := by
  have attends := step_attends registered.own taken
  generalize server'.ctx.presence = p, server'.users = users' at attends listed
  cases attends with
  | idle => exact Or.inl listed
  | opened => exact Or.inl listed
  | accepted admitted accepted =>
      rename_i s bytes now c frame claims
      obtain ⟨q, entry, found, own, member⟩ := listed
      by_cases here : q = s
      · subst here
        rw [show AList.lookup q (server.ctx.presence.register frame.tenantId q claims.sub now).sessions =
          some ⟨frame.tenantId, q, claims.sub, [], now.instant, now.system⟩ from AList.lookup_insert _] at found
        obtain rfl := Option.some.inj found
        cases member
      · exact Or.inl ⟨q, entry, (AList.lookup_insert_ne here).symm.trans found, own, member⟩
  | beat =>
      rename_i s bytes now _
      have sessions : (server.ctx.presence.heartbeat s now).sessions = Table.adjust s
        (fun entry => { entry with lastSeen := now.instant }) server.ctx.presence.sessions := rfl
      rcases listed_of_adjust sessions (fun _ => rfl) listed with kept | ⟨entry, found, own, member⟩
      · exact Or.inl kept
      · exact Or.inl ⟨s, entry, found, own, member⟩
  | joined admitted opcode owned exact =>
      rename_i s bytes now c frame
      have sessions : (server.ctx.presence.trackChannel s frame.channelId).sessions = Table.adjust s
        (fun entry => { entry with channels := entry.channels ++ [frame.channelId] })
          server.ctx.presence.sessions := rfl
      rcases listed_of_adjust sessions (fun _ => rfl) listed with kept | ⟨entry, found, own, member⟩
      · exact Or.inl kept
      · rcases List.mem_append.mp member with older | last
        · exact Or.inl ⟨s, entry, found, own, older⟩
        · refine Or.inr ⟨frame, ⟨s, bytes, now, c, rfl, admitted, owned⟩, opcode, exact, ?_⟩
          have tenant := tenant_of_entry registered admitted.ready owned found
          cases key
          rw [namedKey, ChannelKey.mk.injEq]
          exact ⟨own.symm.trans tenant, List.mem_singleton.mp last⟩
  | left admitted opcode owned exact =>
      rename_i s bytes now c frame
      have sessions : (server.ctx.presence.untrackChannel s frame.channelId).sessions = Table.adjust s
        (fun entry => { entry with channels := entry.channels.filter (· != frame.channelId) })
          server.ctx.presence.sessions := rfl
      rcases listed_of_adjust sessions (fun _ => rfl) listed with kept | ⟨entry, found, own, member⟩
      · exact Or.inl kept
      · exact Or.inl ⟨s, entry, found, own, (List.mem_filter.mp member).1⟩
  | closed =>
      split at listed
      · exact Or.inl (listed_of_depart listed)
      · exact Or.inl listed
  | swept distinct =>
      rename_i order now
      refine Or.inl ?_
      clear distinct taken registered
      revert listed
      generalize server.ctx.presence = p
      induction order generalizing p with
      | nil => exact id
      | cons s order ih => exact fun listed => listed_of_depart (ih _ listed)

end Server
end RealtimePlatform.Backend
