import RealtimePlatform.Backend.OverTcp
import RealtimePlatform.Proof.Handling

namespace RealtimePlatform.Proof.Transports
open Library Backend Backend.Server Backend.UseCases

def framesOf (out : List Outgoing) : List Queued :=
  out.filterMap fun
    | .relayed item => some item
    | _ => none

structure SameSession (c d : Connection) : Prop where
  transports : c.transport = .webSocket ∧ d.transport = .tcp
  authenticatedTenant : d.authenticatedTenant = c.authenticatedTenant
  relayTasks : d.relayTasks = c.relayTasks
  tasks : d.tasks = c.tasks
  spawned : d.spawned = c.spawned
  queues : d.outQueue = c.outQueue ∧ d.replaying = c.replaying
  isOpen : d.isOpen = c.isOpen
  frames : framesOf d.written = framesOf c.written
  closes : ∀ o ∈ c.written, (∃ item, o = .relayed item) ∨
    c.isOpen = false ∧ o = .close wsCloseCodeAuthFailed "authentication failed"
  pongs : ∀ o ∈ d.written, (∃ item, o = .relayed item) ∨ d.authenticatedTenant.isSome = true ∧
    ∃ tenantId, o = .pong (FrameBuilder.build { opcode := .ping, tenantId := tenantId })

/-- Two instances that differ in nothing but the transport of the session. -/
structure SameInstance (s : SessionId) (ws tcp : Server) : Prop where
  auth : tcp.ctx.auth = ws.ctx.auth
  channelRouter : tcp.ctx.channelRouter = ws.ctx.channelRouter
  presence : tcp.ctx.presence = ws.ctx.presence
  pushFallback : tcp.ctx.pushFallback = ws.ctx.pushFallback
  rateLimiter : tcp.ctx.rateLimiter = ws.ctx.rateLimiter
  messagesTotal : tcp.ctx.metrics.messagesTotal = ws.ctx.metrics.messagesTotal
  pushFallbackTotal : tcp.ctx.metrics.pushFallbackTotal = ws.ctx.metrics.pushFallbackTotal
  rateLimitedTotal : tcp.ctx.metrics.rateLimitedTotal = ws.ctx.metrics.rateLimitedTotal
  connectionsActive : tcp.ctx.metrics.wsConnectionsActive + tcp.ctx.metrics.tcpConnectionsActive =
    ws.ctx.metrics.wsConnectionsActive + ws.ctx.metrics.tcpConnectionsActive
  redis : tcp.redis = ws.redis
  others : ∀ q, q ≠ s → tcp.connections q = ws.connections q
  own : Option.Rel SameSession (ws.connections s) (tcp.connections s)

structure Told (c : Connection) (out : List Outgoing) : Prop where
  transport : c.transport = .webSocket
  frames : framesOf out = framesOf c.written
  closes : ∀ o ∈ c.written, (∃ item, o = .relayed item) ∨
    c.isOpen = false ∧ o = .close wsCloseCodeAuthFailed "authentication failed"
  pongs : ∀ o ∈ out, (∃ item, o = .relayed item) ∨ c.authenticatedTenant.isSome = true ∧
    ∃ tenantId, o = .pong (FrameBuilder.build { opcode := .ping, tenantId := tenantId })

def counted (c : Option Connection) : Int := if c.any (·.isOpen) then 1 else 0

def Twin (s : SessionId) (ws tcp : Server) : Prop :=
  ∃ out, tcp = ws.asTcp s (counted (ws.connections s)) out ∧
    ∀ c, ws.connections s = some c → Told c out

theorem sameInstance_of_twin {s : SessionId} {ws tcp : Server} (twin : Twin s ws tcp) :
    SameInstance s ws tcp := by
  obtain ⟨out, rfl, told⟩ := twin
  have gauges : ∀ w t n : Int, (w - n) + (t + n) = w + t := by omega
  refine ⟨rfl, rfl, rfl, rfl, rfl, rfl, rfl, rfl, gauges _ _ _, rfl, fun q apart => ?_, ?_⟩
  · rw [connections_asTcp]
    cases ws.connections q with
    | none => rfl
    | some c => exact congrArg some (Connection.seen_ne s out c apart)
  · rw [connections_asTcp]
    cases own : ws.connections s with
    | none => exact .none
    | some c =>
        rw [Option.map_some, Connection.seen_self]
        have held := told c own
        exact .some ⟨⟨held.transport, rfl⟩, rfl, rfl, rfl, rfl, ⟨rfl, rfl⟩, rfl, held.frames, held.closes,
          held.pongs⟩

section
variable {env : Env} {s : SessionId} {ws ws' : Server} {out out' : List Outgoing} {c c' : Connection}

theorem twin_set {n m : Int} (ctx : RealtimeContext) (told : Told c' out') (count : m = counted (some c')) :
    Twin s ((ws.setCtx ctx).setConnection s c')
      (((ws.asTcp s n out).setCtx (ctx.moved m)).setConnection s (c'.asTcp out')) := by
  have there := connections_setConnection_self s c' (ws.setCtx ctx)
  refine ⟨out', ?_, fun d found => ?_⟩
  · rw [there, ← count, setCtx_asTcp, setConnection_asTcp_self]
  · rw [there] at found
    exact Option.some.inj found ▸ told

theorem Told.of_eq (told : Told c out) (transport : c'.transport = c.transport)
    (written : c'.written = c.written) (isOpen : c'.isOpen = c.isOpen)
    (tenant : c.authenticatedTenant.isSome = true → c'.authenticatedTenant.isSome = true) :
    Told c' out := by
  refine ⟨transport.trans told.transport, ?_, ?_, fun o member => ?_⟩
  · rw [written]
    exact told.frames
  · rw [written, isOpen]
    exact told.closes
  · exact (told.pongs o member).imp_right fun held => ⟨tenant held.1, held.2⟩

theorem kept_of_moved {e : Event} (quiet : Quiet s e) (moved : Moved env ws s e c c') :
    c'.transport = c.transport ∧ c'.written = c.written ∧ c'.isOpen = c.isOpen ∧
      c'.authenticatedTenant = c.authenticatedTenant := by
  cases moved with
  | handled | wrote | closed => exact absurd rfl quiet
  | _ => exact ⟨rfl, rfl, rfl, rfl⟩

theorem counted_kept {e : Event} (quiet : Quiet s e) (taken : step env ws e = some ws') :
    counted (ws'.connections s) = counted (ws.connections s) ∧
      ∀ c', ws'.connections s = some c' → ∃ c, ws.connections s = some c ∧
        c'.transport = c.transport ∧ c'.written = c.written ∧ c'.isOpen = c.isOpen ∧
          c'.authenticatedTenant = c.authenticatedTenant := by
  have back : ∀ c', ws'.connections s = some c' → ∃ c, ws.connections s = some c ∧
      c'.transport = c.transport ∧ c'.written = c.written ∧ c'.isOpen = c.isOpen ∧
        c'.authenticatedTenant = c.authenticatedTenant := by
    intro c' found
    rcases step_moved taken found with ⟨transport, rfl, _, _⟩ | ⟨c, there, moved⟩
    · exact absurd rfl quiet
    · exact ⟨c, there, kept_of_moved quiet moved⟩
  refine ⟨?_, back⟩
  cases after : ws'.connections s with
  | some c' =>
      obtain ⟨c, before, _, _, isOpen, _⟩ := back c' after
      rw [before, counted, counted, Option.any_some, Option.any_some, isOpen]
  | none =>
      cases before : ws.connections s with
      | none => rfl
      | some c =>
          obtain ⟨c', there⟩ := connections_kept taken before
          rw [after] at there
          cases there

theorem twin_quiet {tcp : Server} {e : Event} (quiet : Quiet s e) (twin : Twin s ws tcp) :
    Option.Rel (Twin s) (step env ws e) (step env tcp e) := by
  obtain ⟨out, rfl, told⟩ := twin
  rw [step_asTcp env s _ out ws quiet]
  cases taken : step env ws e with
  | none => exact .none
  | some ws' =>
      obtain ⟨count, back⟩ := counted_kept quiet taken
      refine .some ⟨out, by rw [count], fun c' found => ?_⟩
      obtain ⟨c, before, transport, written, isOpen, tenant⟩ := back c' found
      exact (told c before).of_eq transport written isOpen fun some => tenant ▸ some

theorem tenant_kept (codec : TokenCodec) (redis : RedisStreams Message) (s : SessionId) (rx : ReceiverId)
    (tenant : Option TenantId) (frame : Frame) (now : Clock) (ctx : RealtimeContext)
    (some : tenant.isSome = true) :
    (dispatchFrame codec redis s rx tenant frame now ctx).2.1.isSome = true := by
  have done := executeInner_dispatched codec redis s rx tenant frame now ctx
  show (executeInner codec redis s rx tenant frame now ctx).2.1.isSome = true
  generalize executeInner codec redis s rx tenant frame now ctx = result at done
  obtain ⟨command, tenant', ctx'⟩ := result
  dsimp only at done ⊢
  cases done with
  | accepted => rfl
  | _ => exact some

theorem framesOf_append (early late : List Outgoing) :
    framesOf (early ++ late) = framesOf early ++ framesOf late := List.filterMap_append

theorem twin_perform (told : Told c out) (isOpen : c.isOpen = true) (frame : Frame) (now : Clock)
    (command : FrameCommand) : Twin s (ws.perform s frame now command c)
      ((ws.asTcp s 1 out).perform s frame now command (c.asTcp out)) := by
  have opened : (1 : Int) = counted (some c) := by
    rw [counted, Option.any_some, if_pos isOpen]
  cases command with
  | subscribed key source => exact twin_set ws.ctx (told.of_eq rfl rfl rfl id) opened
  | unsubscribed key => exact twin_set ws.ctx (told.of_eq rfl rfl rfl id) opened
  | replayed frames => exact twin_set ws.ctx (told.of_eq rfl rfl rfl id) opened
  | closeAuthFailed =>
      have left := leave_asTcp told.transport s out now ws.ctx
      show Twin s ((ws.setCtx (leave s c now ws.ctx)).setConnection s _)
        (((ws.asTcp s 1 out).setCtx (leave s (c.asTcp out) now (ws.ctx.moved 1))).setConnection s
          ((react frame .closeAuthFailed c).asTcp (out ++ [])))
      rw [left, List.append_nil]
      refine twin_set _ ⟨told.transport, ?_, ?_, told.pongs⟩ rfl
      · show _ = framesOf (c.written ++ farewell c.transport)
        rw [told.transport, framesOf_append, told.frames]
        exact (List.append_nil _).symm
      · show ∀ o ∈ c.written ++ farewell c.transport, _
        rw [told.transport]
        intro o member
        rcases List.mem_append.mp member with old | last
        · refine (told.closes o old).imp_right fun held => ?_
          rw [isOpen] at held
          cases held.1
        · exact Or.inr ⟨rfl, List.mem_singleton.mp last⟩
  | none =>
      have silent : pong c.transport frame c.authenticatedTenant = [] := by
        rw [told.transport, pong, if_neg (by simp)]
      have told' : Told (c.write (pong c.transport frame c.authenticatedTenant))
          (out ++ pong .tcp frame c.authenticatedTenant) := by
        rw [silent, write_nil]
        refine ⟨told.transport, ?_, told.closes, ?_⟩
        · rw [framesOf_append, told.frames]
          unfold pong
          split <;> exact List.append_nil _
        · intro o member
          rcases List.mem_append.mp member with old | last
          · exact told.pongs o old
          · unfold pong at last
            split at last
            · rename_i echo
              exact Or.inr ⟨echo.2.2, frame.tenantId, List.mem_singleton.mp last⟩
            · cases last
      exact twin_set ws.ctx told' opened

theorem twin_handleFrame (told : Told c out) (isOpen : c.isOpen = true) (frame : Frame) (now : Clock) :
    Twin s (ws.handleFrame env s c frame now)
      ((ws.asTcp s 1 out).handleFrame env s (c.asTcp out) frame now) := by
  let result := UseCases.dispatchFrame env.codec ws.redis s ⟨s, c.spawned⟩ c.authenticatedTenant frame now
    ws.ctx
  have same : (ws.asTcp s 1 out).handleFrame env s (c.asTcp out) frame now =
      ((ws.setCtx result.2.2).asTcp s 1 out).perform s frame now result.1
        ((afterDispatch env frame now result.2.1 ws.ctx c).asTcp out) :=
    congrArg (fun r : FrameCommand × Option TenantId × RealtimeContext => perform s frame now r.1
      (afterDispatch env frame now r.2.1 (ws.asTcp s 1 out).ctx (c.asTcp out))
      ((ws.asTcp s 1 out).setCtx r.2.2)) (dispatched_asTcp env s 1 out ws s c frame now)
  have told' : Told (afterDispatch env frame now result.2.1 ws.ctx c) out :=
    told.of_eq rfl rfl rfl (tenant_kept env.codec ws.redis s _ c.authenticatedTenant frame now ws.ctx)
  rw [same]
  exact twin_perform told' isOpen frame now result.1

theorem twin_takeFrame (told : Told c out) (there : ws.connections s = some c) (isOpen : c.isOpen = true)
    (frame : Frame) (now : Clock) : Twin s (ws.takeFrame env s c frame now)
      ((ws.asTcp s 1 out).takeFrame env s (c.asTcp out) frame now) := by
  have limiter : (ws.asTcp s 1 out).ctx.rateLimiter = ws.ctx.rateLimiter := rfl
  unfold takeFrame
  rw [limiter]
  split
  · exact twin_handleFrame told isOpen frame now
  · refine ⟨out, ?_, fun d found => ?_⟩
    · show _ = asTcp s (counted (ws.connections s)) out (ws.setCtx _)
      rw [there, counted, Option.any_some, if_pos isOpen]
      rfl
    · exact Option.some.inj (there.symm.trans found) ▸ told

theorem waiting_asTcp_self (ready : ws.waiting s = some c) (n : Int) (out : List Outgoing) :
    (ws.asTcp s n out).waiting s = some (c.asTcp out) := by
  rw [waiting_asTcp, ready, Option.map_some, Connection.seen_self]

theorem twin_inbound (told : Told c out) (ready : ws.waiting s = some c) {bytes : List UInt8}
    (sized : bytes.length = frameSize) (now : Clock) :
    Option.Rel (Twin s) (ws.inboundStep env s bytes now) ((ws.asTcp s 1 out).inboundStep env s bytes now) := by
  obtain ⟨there, isOpen, _⟩ := waiting_eq_some ready
  have buffer : parseInbound .tcp bytes = some (Frame.parseSlice bytes) := by
    rw [parseInbound, dif_pos sized, Frame.parseSlice, dif_pos sized]
  rw [inboundStep, inboundStep, ready, waiting_asTcp_self ready, Option.bind_some, Option.bind_some, told.transport]
  show Option.Rel _ ((parseInbound .webSocket bytes).map _) ((parseInbound .tcp bytes).map _)
  rw [buffer]
  cases parsed : Frame.parseSlice bytes with
  | error err =>
      rw [parseInbound, parsed]
      refine .some ⟨out, ?_, fun d found => ?_⟩
      · show ws.asTcp s 1 out = _
        rw [there, counted, Option.any_some, if_pos isOpen]
      · exact Option.some.inj (there.symm.trans found) ▸ told
  | ok frame =>
      rw [parseInbound, parsed]
      exact .some (twin_takeFrame told there isOpen frame now)

theorem twin_writeOut (told : Told c out) (ready : ws.waiting s = some c) :
    Option.Rel (Twin s) (ws.writeOutStep s) ((ws.asTcp s 1 out).writeOutStep s) := by
  obtain ⟨there, isOpen, _⟩ := waiting_eq_some ready
  have queue : (c.asTcp out).outQueue = c.outQueue := rfl
  rw [writeOutStep, writeOutStep, ready, waiting_asTcp_self ready, Option.bind_some, Option.bind_some, queue]
  cases c.outQueue with
  | nil => exact .none
  | cons item rest =>
      have opened : (1 : Int) = counted (some c) := by
        rw [counted, Option.any_some, if_pos isOpen]
      have told' : Told ({ c with outQueue := rest }.write [.relayed item]) (out ++ [.relayed item]) := by
        refine ⟨told.transport, ?_, fun o member => ?_, fun o member => ?_⟩
        · show framesOf (out ++ [.relayed item]) = framesOf (c.written ++ [.relayed item])
          rw [framesOf_append, framesOf_append, told.frames]
        · rcases List.mem_append.mp member with old | last
          · exact told.closes o old
          · exact Or.inl ⟨item, List.mem_singleton.mp last⟩
        · rcases List.mem_append.mp member with old | last
          · exact told.pongs o old
          · exact Or.inl ⟨item, List.mem_singleton.mp last⟩
      exact .some (twin_set (n := 1) ws.ctx told' opened)

theorem twin_disconnect (told : Told c out) (ready : ws.waiting s = some c) (now : Clock) :
    Option.Rel (Twin s) (ws.disconnectStep s now) ((ws.asTcp s 1 out).disconnectStep s now) := by
  have left := leave_asTcp told.transport s out now ws.ctx
  have told' : Told c.shut out := by
    refine ⟨told.transport, told.frames, fun o member => ?_, told.pongs⟩
    exact (told.closes o member).imp_right fun held => ⟨rfl, held.2⟩
  rw [disconnectStep, disconnectStep, ready, waiting_asTcp_self ready, Option.map_some, Option.map_some]
  show Option.Rel _ _ (some (((ws.asTcp s 1 out).setCtx (leave s (c.asTcp out) now (ws.ctx.moved 1))).setConnection
    s (c.shut.asTcp out)))
  rw [left]
  exact .some (twin_set (leave s c now ws.ctx) told' rfl)

theorem twin_connect (fresh : ws.connections s = none) (out : List Outgoing) :
    Option.Rel (Twin s) (ws.connectStep s .webSocket) ((ws.asTcp s 0 out).connectStep s .tcp) := by
  have fresh' : (ws.asTcp s 0 out).connections s = none := by
    rw [connections_asTcp, fresh]
    rfl
  have told : Told (Connection.new .webSocket) [] :=
    ⟨rfl, rfl, fun o member => absurd member List.not_mem_nil, fun o member => absurd member List.not_mem_nil⟩
  have opened : RealtimeContext.moved 1 { ws.ctx with metrics := ws.ctx.metrics.connectionOpened .webSocket } =
      { ws.ctx.moved 0 with metrics := (ws.ctx.metrics.moved 0).connectionOpened .tcp } :=
    congrArg (fun metrics => ({ ws.ctx with metrics } : RealtimeContext)) ws.ctx.metrics.opened_tcp.symm
  rw [connectStep, connectStep, fresh, fresh']
  show Option.Rel _ _ (some (((ws.asTcp s 0 out).setCtx
    { ws.ctx.moved 0 with metrics := (ws.ctx.metrics.moved 0).connectionOpened .tcp }).setConnection s
      ((Connection.new .webSocket).asTcp [])))
  rw [← opened]
  exact .some (twin_set _ told rfl)

end

def Sized (s : SessionId) (e : Event) : Prop :=
  ∀ bytes now, e = .inbound s bytes now → bytes.length = frameSize

theorem by_quiet {s : SessionId} {e : Event} (quiet : Quiet s e) (transport : Transport) :
    e.by s transport = e := by
  cases e with
  | connect q other => exact if_neg quiet
  | _ => rfl

theorem twin_own (env : Env) {s : SessionId} {ws : Server} {out : List Outgoing} {e : Event} (sized : Sized s e)
    (own : ¬Quiet s e) (told : ∀ c, ws.connections s = some c → Told c out) :
    Option.Rel (Twin s) (step env ws (e.by s .webSocket))
      (step env (ws.asTcp s (counted (ws.connections s)) out) (e.by s .tcp)) := by
  have idle : ws.waiting s = none → (ws.asTcp s (counted (ws.connections s)) out).waiting s = none := by
    intro idle
    rw [waiting_asTcp, idle]
    rfl
  have open_one : ∀ c, ws.waiting s = some c → Told c out ∧ counted (ws.connections s) = 1 := by
    intro c ready
    obtain ⟨there, isOpen, _⟩ := waiting_eq_some ready
    refine ⟨told c there, ?_⟩
    rw [there, counted, Option.any_some, if_pos isOpen]
  cases e with
  | connect q transport =>
      obtain rfl : q = s := Decidable.not_not.mp own
      simp only [Event.by, if_true]
      show Option.Rel _ (ws.connectStep q .webSocket) (Server.connectStep q .tcp _)
      cases present : ws.connections q with
      | none => exact twin_connect present out
      | some c =>
          rw [connectStep, connectStep, present, connections_asTcp, present]
          exact .none
  | inbound q bytes now =>
      obtain rfl : q = s := Decidable.not_not.mp own
      show Option.Rel _ (ws.inboundStep env q bytes now) (Server.inboundStep env q bytes now _)
      cases ready : ws.waiting q with
      | none =>
          rw [inboundStep, inboundStep, ready, idle ready]
          exact .none
      | some c =>
          obtain ⟨told, one⟩ := open_one c ready
          rw [one]
          exact twin_inbound told ready (sized bytes now rfl) now
  | writeOut q =>
      obtain rfl : q = s := Decidable.not_not.mp own
      show Option.Rel _ (ws.writeOutStep q) (Server.writeOutStep q _)
      cases ready : ws.waiting q with
      | none =>
          rw [writeOutStep, writeOutStep, ready, idle ready]
          exact .none
      | some c =>
          obtain ⟨told, one⟩ := open_one c ready
          rw [one]
          exact twin_writeOut told ready
  | disconnect q now =>
      obtain rfl : q = s := Decidable.not_not.mp own
      show Option.Rel _ (ws.disconnectStep q now) (Server.disconnectStep q now _)
      cases ready : ws.waiting q with
      | none =>
          rw [disconnectStep, disconnectStep, ready, idle ready]
          exact .none
      | some c =>
          obtain ⟨told, one⟩ := open_one c ready
          rw [one]
          exact twin_disconnect told ready now
  | _ => exact absurd trivial own

theorem twin_step (env : Env) {s : SessionId} {ws tcp : Server} {e : Event} (sized : Sized s e)
    (twin : Twin s ws tcp) :
    Option.Rel (Twin s) (WsController.step env s ws e) (TcpController.step env s tcp e) := by
  obtain ⟨out, same, told⟩ := twin
  have ownWs : ∀ c, ws.connections s = some c → c.transport = .webSocket :=
    fun c there => (told c there).transport
  have ownTcp : ∀ c, tcp.connections s = some c → c.transport = .tcp := by
    intro d there
    rw [same, connections_asTcp] at there
    obtain ⟨c, _, rfl⟩ := Option.map_eq_some_iff.mp there
    rw [Connection.seen_self]
    rfl
  rw [WsController.step_eq ownWs, TcpController.step_eq ownTcp]
  by_cases quiet : Quiet s e
  · rw [by_quiet quiet, by_quiet quiet]
    exact twin_quiet quiet ⟨out, same, told⟩
  · rw [same]
    exact twin_own env sized quiet told

theorem asTcp_of_absent {s : SessionId} {server : Server} (absent : server.connections s = none) :
    server.asTcp s 0 [] = server := by
  have gauges : server.ctx.moved 0 = server.ctx := by
    simp only [RealtimeContext.moved, MetricsService.moved, Int.sub_zero, Int.add_zero]
  have connections : (fun q => (server.connections q).map (Connection.seen s [] q)) = server.connections := by
    funext q
    by_cases here : q = s
    · rw [here, absent]
      rfl
    · cases server.connections q with
      | none => rfl
      | some c => exact congrArg some (Connection.seen_ne s [] c here)
  rw [asTcp, gauges, connections]

theorem twin_refl {s : SessionId} {server : Server} (fresh : server.connections s = none) :
    Twin s server server := by
  refine ⟨[], ?_, fun c there => ?_⟩
  · rw [fresh]
    exact (asTcp_of_absent fresh).symm
  · rw [fresh] at there
    cases there

theorem twin_run (env : Env) {s : SessionId} {ws tcp : Server} {es : List Event} (sized : ∀ e ∈ es, Sized s e)
    (twin : Twin s ws tcp) :
    Option.Rel (Twin s) ((WsController.step env s).run ws es) ((TcpController.step env s).run tcp es) := by
  induction es generalizing ws tcp with
  | nil => exact .some twin
  | cons e es ih =>
      have first := twin_step env (sized e List.mem_cons_self) twin
      show Option.Rel _ ((WsController.step env s ws e).bind _) ((TcpController.step env s tcp e).bind _)
      generalize WsController.step env s ws e = ws' at first
      generalize TcpController.step env s tcp e = tcp' at first
      cases first with
      | none => exact .none
      | some twin => exact ih (fun e member => sized e (List.mem_cons_of_mem _ member)) twin

/-- A session served by the one loop or the other: whatever happens, the two instances can do the same and
differ in nothing but the PONGs, the close frame and the gauge of connections. -/
theorem transports_agree (env : Env) (s : SessionId) (server : Server) (fresh : server.connections s = none)
    (es : List Event) (sized : ∀ bytes now, .inbound s bytes now ∈ es → bytes.length = frameSize) :
    Option.Rel (SameInstance s) ((WsController.step env s).run server es)
      ((TcpController.step env s).run server es) := by
  have buffers : ∀ e ∈ es, Sized s e := fun e member bytes now same => sized bytes now (same ▸ member)
  have twins := twin_run env buffers (twin_refl fresh)
  generalize (WsController.step env s).run server es = ws at twins
  generalize (TcpController.step env s).run server es = tcp at twins
  cases twins with
  | none => exact .none
  | some twin => exact .some (sameInstance_of_twin twin)

theorem transports_agree_overheard : Option.Rel (SameInstance Sample.sessionOne)
    ((WsController.step Sample.env Sample.sessionOne).run (Sample.started false) Sample.overheardEvents)
    ((TcpController.step Sample.env Sample.sessionOne).run (Sample.started false) Sample.overheardEvents) := by
  refine transports_agree Sample.env Sample.sessionOne (Sample.started false) rfl Sample.overheardEvents ?_
  intro bytes now member
  simp only [Sample.overheardEvents, Sample.signInEvents, List.cons_append, List.nil_append, List.mem_cons,
    List.not_mem_nil, reduceCtorEq, Event.inbound.injEq, false_or, or_false] at member
  rcases member with ⟨_, rfl, _⟩ | ⟨_, rfl, _⟩ | ⟨_, rfl, _⟩
  · exact List.Vector.toList_length _
  · exact List.Vector.toList_length _
  · exact List.Vector.toList_length _

end RealtimePlatform.Proof.Transports
