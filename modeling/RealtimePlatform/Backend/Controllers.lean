import RealtimePlatform.Backend.Moves

/-!
# The two connection loops

`WsController` and `TcpController` each have a loop of their own, written out here apart; the instance
runs either as one loop with the transport as a parameter.
-/

namespace RealtimePlatform.Backend
open Library Server

namespace WsController
variable (env : Env) (s : SessionId)

def opened (server : Server) : Option Server :=
  match server.connections s with
  | some _ => none
  | none => some ((server.setCtx { server.ctx with
      metrics := server.ctx.metrics.connectionOpened .webSocket }).setConnection s
        (Connection.new .webSocket))

def finish (c : Connection) (now : Clock) (server : Server) : Server :=
  let ctx := { server.ctx with
    rateLimiter := server.ctx.rateLimiter.dropSession s
    metrics := server.ctx.metrics.connectionClosed .webSocket }
  let ctx := if c.authenticatedTenant.isSome then ctx.handleLeave s now else ctx
  (server.setCtx ctx).setConnection s c.shut

def obey (frame : Frame) (command : FrameCommand) (c : Connection) (now : Clock) (server : Server) : Server :=
  match command with
  | .subscribed key source => server.setConnection s (c.spawnRelay key source (frame.opcode = .auth))
  | .unsubscribed key => server.setConnection s (c.unsubscribe key)
  | .replayed frames => server.setConnection s { c with replaying := frames }
  | .closeAuthFailed =>
    finish s (c.write [.close wsCloseCodeAuthFailed "authentication failed"]) now server
  | .none => server.setConnection s c

def incoming (c : Connection) (bytes : List UInt8) (now : Clock) (server : Server) : Server :=
  match Frame.parseSlice bytes with
  | .error _ => server
  | .ok frame =>
    let (allowed, limiter) := server.ctx.rateLimiter.check s frame.tenantId now.instant
    let ctx := { server.ctx with rateLimiter := limiter }
    if !allowed then
      server.setCtx { ctx with metrics := ctx.metrics.recordRateLimited frame.tenantId }
    else
      let (command, tenant, ctx') := UseCases.dispatchFrame env.codec server.redis s ⟨s, c.spawned⟩
        c.authenticatedTenant frame now ctx
      obey s frame command (afterDispatch env frame now tenant ctx c) now (server.setCtx ctx')

def outgoing (c : Connection) (server : Server) : Option Server :=
  match c.outQueue with
  | [] => none
  | item :: rest => some (server.setConnection s ({ c with outQueue := rest }.write [.relayed item]))

/-- The instance with the session on this loop. -/
def step : Step Server Event
  | server, .connect q transport => if q = s then opened s server else server.connectStep q transport
  | server, .inbound q bytes now =>
    if q = s then (server.waiting s).map fun c => incoming env s c bytes now server
    else server.inboundStep env q bytes now
  | server, .writeOut q =>
    if q = s then (server.waiting s).bind fun c => outgoing s c server else server.writeOutStep q
  | server, .disconnect q now =>
    if q = s then (server.waiting s).map fun c => finish s c now server else server.disconnectStep q now
  | server, e => Server.step env server e

end WsController

namespace TcpController
variable (env : Env) (s : SessionId)

def opened (server : Server) : Option Server :=
  match server.connections s with
  | some _ => none
  | none => some ((server.setCtx { server.ctx with
      metrics := server.ctx.metrics.connectionOpened .tcp }).setConnection s (Connection.new .tcp))

def finish (c : Connection) (now : Clock) (server : Server) : Server :=
  let ctx := { server.ctx with
    rateLimiter := server.ctx.rateLimiter.dropSession s
    metrics := server.ctx.metrics.connectionClosed .tcp }
  let ctx := if c.authenticatedTenant.isSome then ctx.handleLeave s now else ctx
  (server.setCtx ctx).setConnection s c.shut

def obey (frame : Frame) (command : FrameCommand) (c : Connection) (now : Clock) (server : Server) : Server :=
  match command with
  | .subscribed key source => server.setConnection s (c.spawnRelay key source (frame.opcode = .auth))
  | .unsubscribed key => server.setConnection s (c.unsubscribe key)
  | .replayed frames => server.setConnection s { c with replaying := frames }
  | .closeAuthFailed => finish s c now server
  | .none =>
    if frame.opcode = .ping ∧ c.authenticatedTenant.isSome then
      server.setConnection s
        (c.write [.pong (FrameBuilder.build { opcode := .ping, tenantId := frame.tenantId })])
    else server.setConnection s c

def incoming (c : Connection) (buf : RawFrame) (now : Clock) (server : Server) : Server :=
  match Frame.parse buf with
  | .error _ => server
  | .ok frame =>
    let (allowed, limiter) := server.ctx.rateLimiter.check s frame.tenantId now.instant
    let ctx := { server.ctx with rateLimiter := limiter }
    if !allowed then
      server.setCtx { ctx with metrics := ctx.metrics.recordRateLimited frame.tenantId }
    else
      let (command, tenant, ctx') := UseCases.dispatchFrame env.codec server.redis s ⟨s, c.spawned⟩
        c.authenticatedTenant frame now ctx
      obey s frame command (afterDispatch env frame now tenant ctx c) now (server.setCtx ctx')

def outgoing (c : Connection) (server : Server) : Option Server :=
  match c.outQueue with
  | [] => none
  | item :: rest => some (server.setConnection s ({ c with outQueue := rest }.write [.relayed item]))

/-- The instance with the session on this loop. -/
def step : Step Server Event
  | server, .connect q transport => if q = s then opened s server else server.connectStep q transport
  | server, .inbound q bytes now =>
    if q = s then (server.waiting s).bind fun c =>
      if sized : bytes.length = frameSize then some (incoming env s c ⟨bytes, sized⟩ now server) else none
    else server.inboundStep env q bytes now
  | server, .writeOut q =>
    if q = s then (server.waiting s).bind fun c => outgoing s c server else server.writeOutStep q
  | server, .disconnect q now =>
    if q = s then (server.waiting s).map fun c => finish s c now server else server.disconnectStep q now
  | server, e => Server.step env server e

end TcpController

def Event.by (s : SessionId) (transport : Transport) : Event → Event
  | .connect q other => if q = s then .connect q transport else .connect q other
  | e => e

section
variable {env : Env} {s : SessionId} {server : Server}

theorem write_nil (c : Connection) : c.write [] = c := by
  simp only [Connection.write, List.append_nil]

theorem transport_of_waiting {transport : Transport} {c : Connection}
    (own : ∀ c, server.connections s = some c → c.transport = transport)
    (ready : server.waiting s = some c) : c.transport = transport :=
  own c (waiting_eq_some ready).1

namespace WsController

theorem finish_eq {c : Connection} (own : c.transport = .webSocket) (now : Clock) (server : Server) :
    finish s c now server = (server.setCtx (leave s c now server.ctx)).setConnection s c.shut := by
  simp only [leave, own]
  rfl

theorem obey_eq {c : Connection} (own : c.transport = .webSocket) (frame : Frame) (command : FrameCommand)
    (now : Clock) (server : Server) :
    obey s frame command c now server = server.perform s frame now command c := by
  cases command with
  | closeAuthFailed =>
      rw [obey, finish_eq (by exact own), perform, react, own]
      rfl
  | none =>
      have quiet : react frame .none c = c := by
        rw [react, own, pong, if_neg (by simp), write_nil]
      show server.setConnection s c = (server.setCtx server.ctx).setConnection s (react frame .none c)
      rw [quiet]
      rfl
  | _ => rfl

theorem incoming_eq {c : Connection} (own : c.transport = .webSocket) (bytes : List UInt8) (now : Clock)
    (server : Server) : some (incoming env s c bytes now server) =
      (parseInbound c.transport bytes).map fun
        | .error _ => server
        | .ok frame => server.takeFrame env s c frame now := by
  rw [own]
  show some (incoming env s c bytes now server) = some _
  unfold incoming
  cases parsed : Frame.parseSlice bytes with
  | error err => rfl
  | ok frame =>
      simp only [takeFrame, charged]
      cases allowed : (server.ctx.rateLimiter.check s frame.tenantId now.instant).1 with
      | false => rfl
      | true =>
          simp only [Bool.not_true, Bool.false_eq_true, if_false, if_true]
          refine congrArg some ((obey_eq ?_ frame _ now _).trans ?_)
          · exact own
          · rfl

theorem step_eq (own : ∀ c, server.connections s = some c → c.transport = .webSocket) (e : Event) :
    step env s server e = Server.step env server (e.by s .webSocket) := by
  cases e with
  | connect q transport =>
      by_cases same : q = s
      · subst same
        simp only [step, if_true, Event.by]
        rfl
      · simp only [step, if_neg same, Event.by]
        rfl
  | inbound q bytes now =>
      by_cases same : q = s
      · subst same
        simp only [step, if_true, Event.by]
        show _ = server.inboundStep env q bytes now
        rw [inboundStep, Option.map_eq_bind]
        cases ready : server.waiting q with
        | none => rfl
        | some c => exact incoming_eq (transport_of_waiting own ready) bytes now server
      · simp only [step, if_neg same, Event.by]
        rfl
  | writeOut q =>
      by_cases same : q = s
      · subst same
        simp only [step, if_true, Event.by]
        rfl
      · simp only [step, if_neg same, Event.by]
        rfl
  | disconnect q now =>
      by_cases same : q = s
      · subst same
        simp only [step, if_true, Event.by]
        show _ = server.disconnectStep q now
        rw [disconnectStep]
        cases ready : server.waiting q with
        | none => rfl
        | some c => exact congrArg some (finish_eq (transport_of_waiting own ready) now server)
      · simp only [step, if_neg same, Event.by]
        rfl
  | _ => rfl

end WsController

namespace TcpController

theorem finish_eq {c : Connection} (own : c.transport = .tcp) (now : Clock) (server : Server) :
    finish s c now server = (server.setCtx (leave s c now server.ctx)).setConnection s c.shut := by
  simp only [leave, own]
  rfl

theorem obey_eq {c : Connection} (own : c.transport = .tcp) (frame : Frame) (command : FrameCommand)
    (now : Clock) (server : Server) :
    obey s frame command c now server = server.perform s frame now command c := by
  cases command with
  | closeAuthFailed =>
      rw [obey, finish_eq own, perform, react, own, farewell, write_nil]
  | none =>
      show obey s frame .none c now server =
        (server.setCtx server.ctx).setConnection s (react frame .none c)
      rw [obey, react, own, pong]
      split
      · rw [if_pos ⟨rfl, ‹_›⟩]
        rfl
      · rename_i silent
        rw [if_neg fun both => silent both.2, write_nil]
        rfl
  | _ => rfl

theorem incoming_eq {c : Connection} (own : c.transport = .tcp) (bytes : List UInt8) (now : Clock)
    (server : Server) :
    (if sized : bytes.length = frameSize then some (incoming env s c ⟨bytes, sized⟩ now server) else none) =
      (parseInbound c.transport bytes).map fun
        | .error _ => server
        | .ok frame => server.takeFrame env s c frame now := by
  rw [own, parseInbound]
  by_cases sized : bytes.length = frameSize
  · rw [dif_pos sized, dif_pos sized, Option.map_some]
    unfold incoming
    cases parsed : Frame.parse ⟨bytes, sized⟩ with
    | error err => rfl
    | ok frame =>
        simp only [takeFrame, charged]
        cases allowed : (server.ctx.rateLimiter.check s frame.tenantId now.instant).1 with
        | false => rfl
        | true =>
            simp only [Bool.not_true, Bool.false_eq_true, if_false, if_true]
            refine congrArg some ((obey_eq ?_ frame _ now _).trans ?_)
            · exact own
            · rfl
  · rw [dif_neg sized, dif_neg sized]
    rfl

theorem step_eq (own : ∀ c, server.connections s = some c → c.transport = .tcp) (e : Event) :
    step env s server e = Server.step env server (e.by s .tcp) := by
  cases e with
  | connect q transport =>
      by_cases same : q = s
      · subst same
        simp only [step, if_true, Event.by]
        rfl
      · simp only [step, if_neg same, Event.by]
        rfl
  | inbound q bytes now =>
      by_cases same : q = s
      · subst same
        simp only [step, if_true, Event.by]
        show _ = server.inboundStep env q bytes now
        rw [inboundStep]
        cases ready : server.waiting q with
        | none => rfl
        | some c => exact incoming_eq (transport_of_waiting own ready) bytes now server
      · simp only [step, if_neg same, Event.by]
        rfl
  | writeOut q =>
      by_cases same : q = s
      · subst same
        simp only [step, if_true, Event.by]
        rfl
      · simp only [step, if_neg same, Event.by]
        rfl
  | disconnect q now =>
      by_cases same : q = s
      · subst same
        simp only [step, if_true, Event.by]
        show _ = server.disconnectStep q now
        rw [disconnectStep]
        cases ready : server.waiting q with
        | none => rfl
        | some c => exact congrArg some (finish_eq (transport_of_waiting own ready) now server)
      · simp only [step, if_neg same, Event.by]
        rfl
  | _ => rfl

end TcpController
end
end RealtimePlatform.Backend
