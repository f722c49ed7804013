import Mathlib.Data.Set.Card
import RealtimePlatform.Proof.Handling

namespace RealtimePlatform.Proof.ConnectionGauges
open Library Backend Backend.Server Backend.UseCases

def live (server : Server) (s : SessionId) : Option Transport :=
  ((server.connections s).filter (·.isOpen)).map (·.transport)

def gauge (metrics : MetricsService) : Transport → Int
  | .webSocket => metrics.wsConnectionsActive
  | .tcp => metrics.tcpConnectionsActive

def gauges (server : Server) : Transport → Int := gauge server.ctx.metrics

theorem gauge_connectionOpened (metrics : MetricsService) (transport other : Transport) :
    gauge (metrics.connectionOpened transport) other =
      gauge metrics other + if other = transport then 1 else 0 := by
  cases transport <;> cases other <;> simp [gauge, MetricsService.connectionOpened]

theorem gauge_connectionClosed (metrics : MetricsService) (transport other : Transport) :
    gauge (metrics.connectionClosed transport) other =
      gauge metrics other - if other = transport then 1 else 0 := by
  cases transport <;> cases other <;> simp [gauge, MetricsService.connectionClosed]

theorem gauge_recordFrame (metrics : MetricsService) (tenantId : TenantId) (opcode : String) :
    gauge (metrics.recordFrame tenantId opcode) = gauge metrics := by
  funext transport
  cases transport <;> rfl

theorem gauge_publishAndFanout (tenantId : TenantId) (key : ChannelKey) (frame : Frame) (now : Clock)
    (ctx : RealtimeContext) :
    gauge (ctx.publishAndFanout tenantId key frame now).metrics = gauge ctx.metrics := by
  funext transport
  unfold RealtimeContext.publishAndFanout
  split
  · rfl
  · dsimp only
    split <;> cases transport <;> rfl

theorem gauge_leave (s : SessionId) (c : Connection) (now : Clock) (ctx : RealtimeContext) :
    gauge (leave s c now ctx).metrics = gauge (ctx.metrics.connectionClosed c.transport) := by
  unfold leave
  simp only
  split
  · rw [(RealtimeContext.handleLeave_same s now _).metrics]
  · rfl

theorem gauge_publishBuilt (tenantId : TenantId) (channelId payload : String) (now : Clock)
    (ctx : RealtimeContext) :
    gauge (publishBuilt tenantId channelId payload now ctx).metrics = gauge ctx.metrics := by
  unfold publishBuilt
  simp only
  split
  · rfl
  · rw [gauge_recordFrame, gauge_publishAndFanout]

theorem gauge_httpStep (env : Env) (request : HttpRequest) (now : Clock) (ctx : RealtimeContext) :
    gauge (httpStep env request now ctx).metrics = gauge ctx.metrics := by
  rw [httpStep_eq]
  split
  · split
    · split
      · rfl
      · rw [gauge_publishBuilt]
        rfl
    · rfl
  · rfl

section
variable {env : Env} {server server' : Server} {s : SessionId} {c c' : Connection} {e : Event}

theorem live_set (server : Server) (ctx : RealtimeContext) (s : SessionId) (c : Connection) :
    live ((server.setCtx ctx).setConnection s c) =
      Function.update (live server) s (if c.isOpen then some c.transport else none) := by
  funext q
  simp only [live, connections_setConnection, setCtx_connections, Function.update_apply]
  split
  · cases state : c.isOpen <;> simp [state]
  · rfl

theorem live_kept (ctx : RealtimeContext) (there : server.connections s = some c)
    (isOpen : c'.isOpen = c.isOpen) (transport : c'.transport = c.transport) :
    live ((server.setCtx ctx).setConnection s c') = live server := by
  rw [live_set, isOpen, transport]
  apply Function.update_eq_self_iff.mpr
  cases state : c.isOpen <;> simp [live, there, state]

theorem live_of_waiting (ready : server.waiting s = some c) : live server s = some c.transport := by
  obtain ⟨there, isOpen, _⟩ := waiting_eq_some ready
  simp [live, there, isOpen]

inductive Gauged (server server' : Server) : Prop
  | same : live server' = live server → gauges server' = gauges server → Gauged server server'
  | opened (s : SessionId) (transport : Transport) : live server s = none →
      live server' = Function.update (live server) s (some transport) →
      (∀ other, gauges server' other = gauges server other + if other = transport then 1 else 0) →
      Gauged server server'
  | ended (s : SessionId) (transport : Transport) : live server s = some transport →
      live server' = Function.update (live server) s none →
      (∀ other, gauges server' other = gauges server other - if other = transport then 1 else 0) →
      Gauged server server'

theorem gauged_left (ctx : RealtimeContext) (now : Clock) (shut : Connection)
    (ready : server.waiting s = some c) (transport : c'.transport = c.transport)
    (same : gauge ctx.metrics = gauges server) (isShut : shut.isOpen = false) :
    Gauged server ((server.setCtx (leave s c' now ctx)).setConnection s shut) := by
  refine .ended s c.transport (live_of_waiting ready) ?_ fun other => ?_
  · rw [live_set, isShut]
    rfl
  · show gauge (leave s c' now ctx).metrics other = _
    rw [gauge_leave, gauge_connectionClosed, same, transport]

theorem gauge_dispatched {codec : TokenCodec} {redis : RedisStreams Message} {rx : ReceiverId}
    {tenant tenant' : Option TenantId} {frame : Frame} {now : Clock} {ctx ctx' : RealtimeContext}
    {command : FrameCommand}
    (done : Dispatched codec redis s rx tenant frame now ctx command tenant' ctx') :
    gauge ctx'.metrics = gauge ctx.metrics := by
  cases done with
  | published => exact gauge_publishAndFanout _ _ _ _ _
  | _ => rfl

theorem gauged_handled {bytes : List UInt8} {now : Clock} {frame : Frame} {command : FrameCommand}
    {tenant : Option TenantId} {ctx : RealtimeContext}
    (handles : Handles env server s bytes now c frame command tenant ctx) :
    Gauged server ((server.setCtx (settled s now (returned env server s now c frame tenant) frame
      command ctx)).setConnection s (react frame command (returned env server s now c frame tenant))) := by
  have there := (waiting_eq_some handles.ready).1
  have dispatched : gauge ctx.metrics = gauge (charged s frame now server.ctx).metrics :=
    gauge_dispatched handles.dispatched
  have recorded : gauge (ctx.metrics.recordFrame frame.tenantId frame.opcode.label) = gauges server := by
    rw [gauge_recordFrame, dispatched]
    rfl
  cases command with
  | closeAuthFailed =>
      exact gauged_left { ctx with
        metrics := ctx.metrics.recordFrame frame.tenantId frame.opcode.label } now
        (react frame .closeAuthFailed (returned env server s now c frame tenant)) handles.ready rfl
        recorded rfl
  | _ => exact .same (live_kept _ there rfl rfl) recorded

theorem gauged_step (taken : step env server e = some server') : Gauged server server' := by
  cases step_cases taken with
  | connected fresh =>
      rename_i s transport
      refine .opened s transport (by simp [live, fresh]) (live_set server _ s _) fun other => ?_
      exact gauge_connectionOpened server.ctx.metrics transport other
  | handled handles => exact gauged_handled handles
  | received there | queued there | replayed there =>
      exact .same (live_kept server.ctx there rfl rfl) rfl
  | wrote ready => exact .same (live_kept server.ctx (waiting_eq_some ready).1 rfl rfl) rfl
  | ended there | orphaned there | dropped there => exact .same (live_kept _ there rfl rfl) rfl
  | closed ready => exact gauged_left server.ctx _ _ ready rfl rfl rfl
  | swept =>
      refine .same rfl (congrArg gauge (?_ : _ = server.ctx.metrics))
      exact (RealtimeContext.sweep_same _ _ server.ctx).metrics
  | requested => exact .same rfl (gauge_httpStep env _ _ server.ctx)
  | administered =>
      rename_i op
      cases op <;> exact .same rfl rfl
  | limited => exact .same rfl (funext fun transport => by cases transport <;> rfl)
  | _ => exact .same rfl rfl

end

/-- The sessions open on a transport. -/
def opened (server : Server) (transport : Transport) : Set SessionId :=
  {s | ∃ c, server.connections s = some c ∧ c.isOpen = true ∧ c.transport = transport}

def Counted (server : Server) : Prop :=
  ∀ transport, (opened server transport).Finite ∧
    gauges server transport = (opened server transport).ncard

section
variable {env : Env} {server server' : Server} {e : Event}

theorem mem_opened_iff {transport : Transport} {s : SessionId} :
    s ∈ opened server transport ↔ live server s = some transport := by
  simp only [opened, live, Set.mem_ofPred_eq, Option.map_eq_some_iff, Option.filter_eq_some_iff,
    and_assoc]

theorem mem_opened_update {transport : Transport} {s q : SessionId} {state : Option Transport}
    (now : live server' = Function.update (live server) s state) : q ∈ opened server' transport ↔
      if q = s then state = some transport else q ∈ opened server transport := by
  rw [mem_opened_iff, now, Function.update_apply]
  split
  · rfl
  · exact mem_opened_iff.symm

theorem counted_of_gauged (counted : Counted server) (gauged : Gauged server server') :
    Counted server' := by
  intro transport
  obtain ⟨finite, total⟩ := counted transport
  cases gauged with
  | same still kept =>
      have sets : opened server' transport = opened server transport := by
        ext s
        rw [mem_opened_iff, mem_opened_iff, still]
      rw [sets, kept]
      exact ⟨finite, total⟩
  | opened s own absent now more =>
      have outside : s ∉ opened server transport := by simp [mem_opened_iff, absent]
      have sets : opened server' transport =
          if transport = own then insert s (opened server transport) else opened server transport := by
        ext q
        rw [mem_opened_update now]
        by_cases here : q = s
        · subst here
          by_cases same : transport = own
          · simp [same]
          · simp [same, outside, Ne.symm same]
        · by_cases same : transport = own <;> simp [same, here]
      rw [sets, more, total]
      split
      · rw [Set.ncard_insert_of_notMem outside finite]
        exact ⟨finite.insert s, by push_cast; rfl⟩
      · exact ⟨finite, Int.add_zero _⟩
  | ended s own there now fewer =>
      have sets : opened server' transport =
          if transport = own then opened server transport \ {s} else opened server transport := by
        ext q
        rw [mem_opened_update now]
        by_cases here : q = s
        · subst here
          by_cases same : transport = own
          · simp [same]
          · simp [same, mem_opened_iff, there, Ne.symm same]
        · by_cases same : transport = own <;> simp [same, here]
      rw [sets, fewer, total]
      split
      · rename_i same
        have inside : s ∈ opened server transport := mem_opened_iff.mpr (same ▸ there)
        have count := Set.ncard_sdiff_singleton_add_one inside finite
        exact ⟨finite.sdiff, by omega⟩
      · exact ⟨finite, Int.sub_zero _⟩

/-- In every reachable state each gauge shows the number of sessions open on its transport. -/
theorem gauges_count {config : RateLimitConfig} {timeout : Nat} {hasRedis hasWebPush : Bool}
    {es : List Event} (reached : (step env).run (start config timeout hasRedis hasWebPush) es = some server)
    (transport : Transport) : (opened server transport).Finite ∧
      gauges server transport = (opened server transport).ncard := by
  refine Step.run_invariant (I := Counted) (fun s e t counted taken => ?_) reached ?_ transport
  · exact counted_of_gauged counted (gauged_step taken)
  · intro transport
    have none : opened (start config timeout hasRedis hasWebPush) transport = ∅ := by
      ext s
      simp [mem_opened_iff, live, start]
    rw [none]
    cases transport <;> exact ⟨Set.finite_empty, by simp [gauges, gauge, start]⟩

end

section Sample
open SampleToken Sample

theorem takeFrame_rejected {env : Env} {server : Server} {s : SessionId} {c : Connection} (frame : Frame)
    {now : Clock} {err : AuthError} (opcode : frame.opcode = .auth)
    (invalid : server.ctx.auth.validate env.codec now.unixSecs frame.tenantId frame.payload = .error err)
    (allowed : (server.ctx.rateLimiter.check s frame.tenantId now.instant).1 = true) :
    ∃ ctx, server.takeFrame env s c frame now =
      (server.setCtx ctx).setConnection s ((c.write (farewell c.transport)).shut) := by
  have executed : executeInner env.codec server.redis s ⟨s, c.spawned⟩ c.authenticatedTenant frame now
      (charged s frame now server.ctx) = (.closeAuthFailed, c.authenticatedTenant, charged s frame now server.ctx) := by
    have refused : (charged s frame now server.ctx).auth.validate env.codec now.unixSecs frame.tenantId
      frame.payload = .error err := invalid
    simp only [executeInner, opcode, authenticateSession, refused]
  have none : acceptedClaims env frame now (charged s frame now server.ctx) = none := by
    simp [acceptedClaims, opcode, charged, invalid, Except.toOption]
  refine ⟨settled s now c frame .closeAuthFailed (charged s frame now server.ctx), ?_⟩
  have same : afterDispatch env frame now c.authenticatedTenant (charged s frame now server.ctx) c = c := by
    rw [afterDispatch, none]
  unfold takeFrame
  rw [if_pos allowed]
  refine (handleFrame_eq (server.setCtx (charged s frame now server.ctx)) executed).trans ?_
  rw [setCtx_ctx, same]
  rfl

def stranger : FrameBuilder := { opcode := .auth, tenantId := tenantTwo, channelId := "", payload := "guess" }

def sessionThree : SessionId := ⟨[0, 0, 0, 0, 0, 0, 0, 0, 0, 0, 0, 0, 0, 0, 1, 3], rfl⟩

theorem live_connected (server : Server) (s : SessionId) :
    live (connected s server) = Function.update (live server) s (some .webSocket) := live_set server _ s _

theorem live_signedIn (s : SessionId) :
    live (signedIn false) s = if s = sessionOne then some .webSocket else none := by
  rw [live, connections_signedIn]
  split <;> rfl

/-- Alice stays, the second session is turned away and the third leaves. -/
def comings : List Event := signInEvents ++
  [.connect sessionTwo .webSocket, .inbound sessionTwo stranger.build.toList epoch, .connect sessionThree .webSocket,
    .disconnect sessionThree epoch]

theorem run_comings : ∃ server, (step env).run (started false) comings = some server ∧
    opened server .webSocket = {sessionOne} := by
  have fits : (utf8 stranger.channelId).length ≤ lenChannel ∧ (utf8 stranger.payload).length ≤ lenPayload := by decide
  let frame := stranger.frame fits.1 fits.2
  have invalid : (connected sessionTwo (signedIn false)).ctx.auth.validate env.codec epoch.unixSecs frame.tenantId
      frame.payload = .error .malformed := by
    rw [show frame.payload = "guess" from rfl]
    rfl
  have allowed : ((connected sessionTwo (signedIn false)).ctx.rateLimiter.check sessionTwo tenantTwo
      epoch.instant).1 = true := by
    show ((signedIn false).ctx.rateLimiter.check sessionTwo tenantTwo epoch.instant).1 = true
    decide +kernel
  obtain ⟨ctx, refused⟩ := @takeFrame_rejected env _ sessionTwo (Connection.new .webSocket) frame epoch _ rfl invalid
    allowed
  let second := ((Connection.new .webSocket).write (farewell .webSocket)).shut
  let away := ((connected sessionTwo (signedIn false)).setCtx ctx).setConnection sessionTwo second
  have rejects : step env (connected sessionTwo (signedIn false)) (.inbound sessionTwo stranger.build.toList epoch) =
      some away := by
    have ready : (connected sessionTwo (signedIn false)).waiting sessionTwo = some (Connection.new .webSocket) :=
      waiting_set rfl rfl
    exact (step_inbound_built env stranger epoch fits.1 fits.2 ready).trans (congrArg some refused)
  have fresh : away.connections sessionThree = none := by
    rw [connections_setConnection, if_neg (by decide)]
    exact (connections_setConnection sessionTwo sessionThree (Connection.new .webSocket) _).trans
      ((if_neg (by decide)).trans ((connections_signedIn false sessionThree).trans (if_neg (by decide))))
  let left := ((connected sessionThree away).setCtx (leave sessionThree (Connection.new .webSocket) epoch
    (connected sessionThree away).ctx)).setConnection sessionThree (Connection.new .webSocket).shut
  have leaves : step env (connected sessionThree away) (.disconnect sessionThree epoch) = some left :=
    step_disconnect env epoch (waiting_set rfl rfl)
  refine ⟨left, Step.run_append_iff.mpr ⟨_, run_signedIn false, Step.run_cons_iff.mpr ⟨_, step_connected ?_,
    Step.run_cons_iff.mpr ⟨_, rejects, Step.run_cons_iff.mpr ⟨_, step_connected fresh,
      Step.run_cons_iff.mpr ⟨_, leaves, rfl⟩⟩⟩⟩⟩, ?_⟩
  · exact (connections_signedIn false sessionTwo).trans (if_neg (by decide))
  · have sessions : live left = Function.update (Function.update (Function.update (Function.update
        (live (signedIn false)) sessionTwo (some .webSocket)) sessionTwo none) sessionThree (some .webSocket))
        sessionThree none := by
      have turnedAway : live away = Function.update (live (connected sessionTwo (signedIn false))) sessionTwo none :=
        live_set _ ctx sessionTwo second
      rw [← live_connected, ← turnedAway, ← live_connected]
      exact live_set _ _ sessionThree (Connection.new .webSocket).shut
    ext s
    rw [mem_opened_iff, sessions, Function.update_idem, Function.update_idem, Set.mem_singleton_iff]
    simp only [Function.update_apply, live_signedIn]
    have apart : sessionThree ≠ sessionOne ∧ sessionTwo ≠ sessionOne := by decide
    grind

theorem gauges_count_comings : ∃ server, (step env).run (started false) comings = some server ∧
    opened server .webSocket = {sessionOne} ∧ gauges server .webSocket = (opened server .webSocket).ncard := by
  obtain ⟨server, reached, sessions⟩ := run_comings
  exact ⟨server, reached, sessions, (gauges_count reached .webSocket).2⟩

end Sample

end RealtimePlatform.Proof.ConnectionGauges
