import RealtimePlatform.Backend.Moves

/-!
# What the limiter and the counters make of an event

The secrets, the limiter, the two counters of frames and the sessions that have ended form a machine of
their own: what an event does to them depends on nothing else in the instance.
-/

namespace RealtimePlatform.Backend
open Library UseCases Server

structure Ledger where
  auth : TokenService
  rateLimiter : RateLimitService
  messagesTotal : TenantId → String → Nat
  rateLimitedTotal : TenantId → Nat
  closed : SessionId → Bool

def RealtimeContext.ledger (closed : SessionId → Bool) (ctx : RealtimeContext) : Ledger :=
  ⟨ctx.auth, ctx.rateLimiter, ctx.metrics.messagesTotal, ctx.metrics.rateLimitedTotal, closed⟩

def Server.closed (server : Server) (s : SessionId) : Bool :=
  (server.connections s).any fun c => !c.isOpen

def Server.ledger (server : Server) : Ledger := server.ctx.ledger server.closed

namespace Ledger
variable (env : Env)

def count (tenantId : TenantId) (label : String) (l : Ledger) : Ledger :=
  { l with messagesTotal := fun tenant other =>
      l.messagesTotal tenant other + if tenant = tenantId ∧ other = label then 1 else 0 }

def refuse (tenantId : TenantId) (l : Ledger) : Ledger :=
  { l with rateLimitedTotal := fun tenant =>
      l.rateLimitedTotal tenant + if tenant = tenantId then 1 else 0 }

def drop (s : SessionId) (l : Ledger) : Ledger :=
  { l with
    rateLimiter := l.rateLimiter.dropSession s
    closed := Function.update l.closed s true }

def charge (s : SessionId) (tenantId : TenantId) (now : Clock) (l : Ledger) : Ledger :=
  { l with rateLimiter := (l.rateLimiter.check s tenantId now.instant).2 }

def chargeTenant (tenantId : TenantId) (now : Clock) (l : Ledger) : Ledger :=
  { l with rateLimiter := (l.rateLimiter.checkTenant tenantId now.instant).2 }

def rejects (auth : TokenService) (frame : Frame) (now : Clock) : Bool :=
  frame.opcode = .auth ∧
    (auth.validate env.codec now.unixSecs frame.tenantId frame.payload).toOption = none

def settle (s : SessionId) (frame : Frame) (now : Clock) (allowed : Bool) (l : Ledger) : Ledger :=
  if allowed then
    let counted := l.count frame.tenantId frame.opcode.label
    if rejects env l.auth frame now then counted.drop s else counted
  else l.refuse frame.tenantId

def frame (s : SessionId) (frame : Frame) (now : Clock) (l : Ledger) : Ledger :=
  (l.charge s frame.tenantId now).settle env s frame now
    (l.rateLimiter.check s frame.tenantId now.instant).1

def arrive (s : SessionId) (bytes : List UInt8) (now : Clock) (l : Ledger) : Ledger :=
  match Frame.parseSlice bytes with
  | .error _ => l
  | .ok parsed => l.frame env s parsed now

def builds (request : HttpRequest) : Bool :=
  request.text.any fun payload => (Frame.parse (FrameBuilder.build
    { opcode := .publish, tenantId := request.tenantId, channelId := request.channelId,
      payload := payload })).toOption.isSome

def http (request : HttpRequest) (now : Clock) (l : Ledger) : Ledger :=
  let charged := l.chargeTenant request.tenantId now
  if request.admissible env.codec l.auth now.unixSecs then
    if (l.rateLimiter.checkTenant request.tenantId now.instant).1 && builds request then
      charged.count request.tenantId Opcode.publish.label
    else charged
  else l

def admin (op : AdminOp) (l : Ledger) : Ledger :=
  match op with
  | .registerTenant tenantId secret => { l with auth := l.auth.registerTenant tenantId secret }
  | .revokeTenant tenantId => { l with auth := l.auth.revokeTenant tenantId }
  | .addExtraKey tenantId publicKey secret =>
    { l with auth := l.auth.addExtraKey tenantId publicKey secret }
  | .revokeExtraKey tenantId publicKey =>
    { l with auth := (l.auth.revokeExtraKey tenantId publicKey).2 }
  | .setTenantLimits tenantId config =>
    { l with rateLimiter := l.rateLimiter.setTenantLimits tenantId config }
  | .clearTenantLimits tenantId => { l with rateLimiter := l.rateLimiter.clearTenantLimits tenantId }

def after (e : Event) (l : Ledger) : Ledger :=
  match e with
  | .inbound s bytes now => l.arrive env s bytes now
  | .disconnect s _ => l.drop s
  | .http request now => l.http env request now
  | .admin op => l.admin op
  | _ => l

/-- The machine: no frame is handled on a session that has ended. -/
def step : Step Ledger Event
  | l, .inbound s bytes now =>
    if l.closed s then none else some (l.after env (.inbound s bytes now))
  | l, e => some (l.after env e)

theorem step_inbound {l : Ledger} {s : SessionId} (bytes : List UInt8) (now : Clock)
    (live : l.closed s = false) :
    l.step env (.inbound s bytes now) = some (l.arrive env s bytes now) := by
  simp only [step, live, Bool.false_eq_true, if_false]
  rfl

end Ledger

namespace Server

theorem parseSlice_of_parseInbound {transport : Transport} {bytes : List UInt8}
    {result : Except ProtocolError Frame} (parsed : parseInbound transport bytes = some result) :
    Frame.parseSlice bytes = result := by
  cases transport with
  | webSocket => exact Option.some.inj parsed
  | tcp =>
      simp only [parseInbound] at parsed
      split at parsed
      · rename_i sized
        rw [Frame.parseSlice, dif_pos sized]
        exact Option.some.inj parsed
      · cases parsed

theorem ledger_same {ctx ctx' : RealtimeContext} (same : SameServices ctx ctx')
    (closed : SessionId → Bool) : ctx'.ledger closed = ctx.ledger closed := by
  simp only [RealtimeContext.ledger, same.auth, same.rateLimiter, same.metrics]

theorem ledger_leave (s : SessionId) (c : Connection) (now : Clock) (ctx : RealtimeContext)
    (closed : SessionId → Bool) :
    (leave s c now ctx).ledger (Function.update closed s true) = (ctx.ledger closed).drop s := by
  have dropped : RealtimeContext.ledger (Function.update closed s true) { ctx with
      rateLimiter := ctx.rateLimiter.dropSession s
      metrics := ctx.metrics.connectionClosed c.transport } = (ctx.ledger closed).drop s := by
    cases c.transport <;> rfl
  unfold leave
  simp only
  split
  · exact (ledger_same (RealtimeContext.handleLeave_same s now _) _).trans dropped
  · exact dropped

theorem ledger_publishBuilt (tenantId : TenantId) (channelId payload : String) (now : Clock)
    (ctx : RealtimeContext) (closed : SessionId → Bool) :
    (publishBuilt tenantId channelId payload now ctx).ledger closed =
      if (Frame.parse (FrameBuilder.build
        { opcode := .publish, tenantId := tenantId, channelId := channelId,
          payload := payload })).toOption.isSome
      then (ctx.ledger closed).count tenantId Opcode.publish.label else ctx.ledger closed := by
  unfold publishBuilt
  simp only
  split
  · rename_i err failed
    rw [failed]
    rfl
  · rename_i frame parsed
    rw [parsed]
    simp only [RealtimeContext.ledger, RealtimeContext.auth_publishAndFanout,
      RealtimeContext.rateLimiter_publishAndFanout, MetricsService.recordFrame,
      RealtimeContext.messagesTotal_publishAndFanout,
      RealtimeContext.rateLimitedTotal_publishAndFanout]
    rfl

theorem ledger_httpStep (env : Env) (request : HttpRequest) (now : Clock) (ctx : RealtimeContext)
    (closed : SessionId → Bool) :
    (httpStep env request now ctx).ledger closed = (ctx.ledger closed).http env request now := by
  rw [httpStep_eq]
  unfold Ledger.http Ledger.builds
  by_cases admissible : request.admissible env.codec ctx.auth now.unixSecs = true
  · rw [if_pos admissible]
    by_cases allowed : (ctx.rateLimiter.checkTenant request.tenantId now.instant).1 = true
    · rw [if_pos allowed]
      cases text : request.text with
      | none => simp [RealtimeContext.ledger, admissible, allowed, chargedTenant, Ledger.chargeTenant]
      | some payload =>
          show (publishBuilt _ _ _ _ _).ledger closed = _
          rw [ledger_publishBuilt]
          simp only [RealtimeContext.ledger, admissible, allowed, chargedTenant, Ledger.chargeTenant,
            Option.any_some, Bool.true_and, if_true]
    · rw [if_neg allowed]
      simp [RealtimeContext.ledger, admissible, allowed, chargedTenant, Ledger.chargeTenant]
  · rw [if_neg admissible]
    simp [RealtimeContext.ledger, admissible]

section
variable {env : Env} {server server' : Server} {s : SessionId} {bytes : List UInt8} {now : Clock}
  {c : Connection} {frame : Frame} {command : FrameCommand} {tenant : Option TenantId}
  {ctx : RealtimeContext}

theorem closed_setConnection (server : Server) (ctx : RealtimeContext) (s : SessionId)
    (c : Connection) : ((server.setCtx ctx).setConnection s c).closed =
      Function.update server.closed s (!c.isOpen) := by
  funext q
  simp only [closed, connections_setConnection, setCtx_connections, Function.update_apply]
  split <;> rfl

theorem closed_of_found (there : server.connections s = some c) : server.closed s = !c.isOpen := by
  simp [closed, there]

theorem ledger_set {c' : Connection} (ctx : RealtimeContext) (there : server.connections s = some c)
    (isOpen : c'.isOpen = c.isOpen) :
    ctx.ledger server.closed = ((server.setCtx ctx).setConnection s c').ledger := by
  have same : ((server.setCtx ctx).setConnection s c').closed = server.closed := by
    rw [closed_setConnection, isOpen, ← closed_of_found there, Function.update_eq_self]
  simp only [ledger, same, setConnection_ctx, setCtx_ctx]

theorem ledger_drop (s : SessionId) (seq : Nat) (task : RelayTask)
    (there : server.connections s = some c) :
    server.ledger = (server.dropTask s seq task c).ledger :=
  ledger_set { server.ctx with
    channelRouter := server.ctx.channelRouter.detach task.source ⟨s, seq⟩ } there rfl

theorem Handles.closes_iff (handles : Handles env server s bytes now c frame command tenant ctx) :
    command = .closeAuthFailed ↔ Ledger.rejects env server.ctx.auth frame now = true := by
  unfold Ledger.rejects
  rw [decide_eq_true_eq]
  cases handles.dispatched with
  | rejected err opcode invalid =>
      simp only [charged] at invalid
      simp [opcode, invalid, Except.toOption]
  | accepted claims opcode valid =>
      simp only [charged] at valid
      simp [opcode, valid, Except.toOption]
  | idle opcode => simp [opcode]
  | published key named owned => simp [opcode_of_publishKey named]
  | beat opcode => simp [opcode]
  | pattern opcode => simp [opcode]
  | exact opcode => simp [opcode]
  | unsubPattern opcode => simp [opcode]
  | unsubExact opcode => simp [opcode]
  | replayed frames router opcode => simp [opcode]

theorem isOpen_react (frame : Frame) {command : FrameCommand} (c : Connection)
    (stays : command ≠ .closeAuthFailed) : (react frame command c).isOpen = c.isOpen := by
  cases command with
  | closeAuthFailed => exact absurd rfl stays
  | _ => rfl

theorem Handles.ledger (handles : Handles env server s bytes now c frame command tenant ctx) :
    ((server.setCtx (settled s now (returned env server s now c frame tenant) frame command
      ctx)).setConnection s (react frame command (returned env server s now c frame tenant))).ledger =
        server.ledger.frame env s frame now := by
  have dispatched := handles.dispatched
  have recorded : ∀ closed : SessionId → Bool, RealtimeContext.ledger closed { ctx with
      metrics := ctx.metrics.recordFrame frame.tenantId frame.opcode.label } =
        ((charged s frame now server.ctx).ledger closed).count frame.tenantId frame.opcode.label := by
    intro closed
    simp only [RealtimeContext.ledger, MetricsService.recordFrame, dispatched.auth_eq,
      dispatched.rateLimiter_eq, dispatched.messagesTotal_eq, dispatched.rateLimitedTotal_eq]
    rfl
  have allowed : (server.ledger.rateLimiter.check s frame.tenantId now.instant).1 = true :=
    handles.allowed
  unfold Ledger.frame Ledger.settle
  rw [if_pos allowed]
  by_cases rejected : Ledger.rejects env (server.ledger.charge s frame.tenantId now).auth frame now = true
  · obtain rfl := handles.closes_iff.mpr rejected
    rw [if_pos rejected]
    show RealtimeContext.ledger (((server.setCtx _).setConnection s _).closed) (leave s _ now _) = _
    rw [closed_setConnection]
    refine (ledger_leave s _ now _ server.closed).trans ?_
    rw [recorded]
    rfl
  · have stays : command ≠ .closeAuthFailed := fun closing => rejected (handles.closes_iff.mp closing)
    have isOpen : (react frame command (returned env server s now c frame tenant)).isOpen = c.isOpen :=
      isOpen_react frame _ stays
    rw [if_neg rejected, ← ledger_set _ (waiting_eq_some handles.ready).1 isOpen]
    refine Eq.trans ?_ (recorded server.closed)
    cases command with
    | closeAuthFailed => exact absurd rfl stays
    | _ => rfl

theorem step_ledger {e : Event} (taken : step env server e = some server') :
    Ledger.step env server.ledger e = some server'.ledger := by
  have live : ∀ {s c}, server.waiting s = some c → server.ledger.closed s = false := by
    intro s c ready
    obtain ⟨there, isOpen, _⟩ := waiting_eq_some ready
    show server.closed s = false
    rw [closed_of_found there, isOpen]
    rfl
  cases step_cases taken with
  | connected fresh =>
      rename_i s transport
      have same : ∀ ctx, ((server.setCtx ctx).setConnection s (Connection.new transport)).closed =
          server.closed := by
        intro ctx
        rw [closed_setConnection]
        exact Function.update_eq_self_iff.mpr (by simp [closed, fresh, Connection.new])
      show some server.ledger = _
      unfold ledger
      rw [same]
      cases transport <;> rfl
  | unparsed ready parsed =>
      refine (Ledger.step_inbound env _ _ (live ready)).trans (congrArg some ?_)
      simp only [Ledger.arrive, parseSlice_of_parseInbound parsed]
  | limited ready parsed refused =>
      refine (Ledger.step_inbound env _ _ (live ready)).trans (congrArg some ?_)
      simp only [Ledger.arrive, parseSlice_of_parseInbound parsed]
      unfold Ledger.frame Ledger.settle
      rw [show (server.ledger.rateLimiter.check _ _ _).1 = false from refused]
      rfl
  | handled handles =>
      refine (Ledger.step_inbound env _ _ (live handles.ready)).trans (congrArg some ?_)
      simp only [Ledger.arrive, parseSlice_of_parseInbound handles.parsed]
      exact handles.ledger.symm
  | received there | queued there | replayed there =>
      exact congrArg some (ledger_set server.ctx there rfl)
  | wrote ready => exact congrArg some (ledger_set server.ctx (waiting_eq_some ready).1 rfl)
  | ended there | orphaned there | dropped there => exact congrArg some (ledger_drop _ _ _ there)
  | closed ready =>
      refine congrArg some (Eq.symm ?_)
      show RealtimeContext.ledger (((server.setCtx _).setConnection _ _).closed) (leave _ _ _ _) = _
      rw [closed_setConnection]
      exact ledger_leave _ _ _ server.ctx server.closed
  | swept => exact congrArg some (ledger_same (RealtimeContext.sweep_same _ _ server.ctx) _).symm
  | requested => exact congrArg some (ledger_httpStep env _ _ server.ctx _).symm
  | administered =>
      rename_i op
      cases op <;> rfl
  | _ => rfl

end

end Server
end RealtimePlatform.Backend
