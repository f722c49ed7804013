import RealtimePlatform.Backend.Delivery
import RealtimePlatform.Backend.Moves

namespace RealtimePlatform.Proof
open Library Backend Backend.Server Backend.UseCases

theorem waiting_of_found {server : Server} {s : SessionId} {c : Connection}
    (found : server.connections s = some c) (isOpen : c.isOpen = true) (idle : c.replaying = []) :
    server.waiting s = some c := by
  simp [waiting, found, isOpen, idle]

theorem waiting_set {server : Server} {ctx : RealtimeContext} {s : SessionId} {c : Connection}
    (isOpen : c.isOpen = true) (idle : c.replaying = []) :
    ((server.setCtx ctx).setConnection s c).waiting s = some c :=
  waiting_of_found ((connections_setConnection s s c _).trans (if_pos rfl)) isOpen idle

theorem step_disconnect (env : Env) {server : Server} {s : SessionId} {c : Connection} (now : Clock)
    (ready : server.waiting s = some c) : step env server (.disconnect s now) =
      some ((server.setCtx (leave s c now server.ctx)).setConnection s c.shut) := by
  show server.disconnectStep s now = _
  rw [disconnectStep, ready, Option.map_some]

theorem parseInbound_built {b : FrameBuilder} (transport : Transport)
    (channelFits : (utf8 b.channelId).length ≤ lenChannel)
    (payloadFits : (utf8 b.payload).length ≤ lenPayload) :
    parseInbound transport b.build.toList = some (.ok (b.frame channelFits payloadFits)) := by
  cases transport with
  | webSocket => exact congrArg some (Frame.parseSlice_raw (b.frame channelFits payloadFits))
  | tcp =>
      have sized : b.build.toList.length = frameSize := b.build.toList_length
      simp only [parseInbound, sized, dite_true]
      exact congrArg some (FrameBuilder.parse_build channelFits payloadFits)

theorem frame_of_admitted {server : Server} {s : SessionId} {b : FrameBuilder} {now : Clock}
    {c : Connection} {frame : Frame} (admitted : Admitted server s b.build.toList now c frame)
    (channelFits : (utf8 b.channelId).length ≤ lenChannel)
    (payloadFits : (utf8 b.payload).length ≤ lenPayload) : frame = b.frame channelFits payloadFits := by
  have parsed := admitted.parsed
  rw [parseInbound_built c.transport channelFits payloadFits] at parsed
  exact (Except.ok.inj (Option.some.inj parsed)).symm

theorem step_inbound_built (env : Env) {server : Server} {s : SessionId} {c : Connection}
    (b : FrameBuilder) (now : Clock) (channelFits : (utf8 b.channelId).length ≤ lenChannel)
    (payloadFits : (utf8 b.payload).length ≤ lenPayload) (ready : server.waiting s = some c) :
    step env server (.inbound s b.build.toList now) =
      some (server.takeFrame env s c (b.frame channelFits payloadFits) now) := by
  have parsed := parseInbound_built c.transport channelFits payloadFits
  show server.inboundStep env s b.build.toList now = _
  simp only [inboundStep, ready, Option.bind_some, parsed, Option.map_some]

def authed (s : SessionId) (c : Connection) (frame : Frame) (claims : Claims) (now : Clock)
    (server : Server) : Server :=
  let ctx := charged s frame now server.ctx
  (server.setCtx { ctx.handleJoin frame.tenantId s claims.sub now with
      channelRouter := ctx.channelRouter.attach (inboxKey frame claims.sub) ⟨s, c.spawned⟩
      metrics := ctx.metrics.recordFrame frame.tenantId Opcode.auth.label }).setConnection s
    (Connection.spawnRelay (unicastInboxChannel claims.sub) (.channel (inboxKey frame claims.sub)) true
      { c with
        authenticatedTenant := some frame.tenantId
        identity := some (frame.tenantId, claims.sub) })

theorem takeFrame_auth {env : Env} {server : Server} {s : SessionId} {c : Connection} (frame : Frame)
    {now : Clock} {claims : Claims} (opcode : frame.opcode = .auth)
    (allowed : (server.ctx.rateLimiter.check s frame.tenantId now.instant).1 = true)
    (valid : server.ctx.auth.validate env.codec now.unixSecs frame.tenantId frame.payload =
      .ok claims) :
    server.takeFrame env s c frame now = authed s c frame claims now server := by
  have accepted : acceptedClaims env frame now (charged s frame now server.ctx) = some claims := by
    simp [acceptedClaims, opcode, charged, valid, Except.toOption]
  have executed := executeInner_auth env.codec server.redis s ⟨s, c.spawned⟩ c.authenticatedTenant frame now
    (charged s frame now server.ctx) opcode valid
  unfold takeFrame
  rw [if_pos allowed]
  refine (handleFrame_eq (server.setCtx (charged s frame now server.ctx)) executed).trans ?_
  simp only [afterDispatch, setCtx_ctx, accepted, react, settled, opcode, decide_true]
  rfl

def subscribed (s : SessionId) (c : Connection) (frame : Frame) (now : Clock) (server : Server) :
    Server :=
  let ctx := charged s frame now server.ctx
  let joined := RealtimeContext.handleSubscribe frame.tenantId s frame.channelId now
    { ctx with channelRouter := ctx.channelRouter.attach (namedKey frame) ⟨s, c.spawned⟩ }
  (server.setCtx { joined with
      metrics := joined.metrics.recordFrame frame.tenantId Opcode.subscribe.label }).setConnection s
    (c.spawnRelay frame.channelId (.channel (namedKey frame)) false)

theorem takeFrame_subscribe {env : Env} {server : Server} {s : SessionId} {c : Connection} (frame : Frame)
    {now : Clock} (opcode : frame.opcode = .subscribe)
    (owned : c.authenticatedTenant = some frame.tenantId) (exact : isPattern frame.channelId = false)
    (allowed : (server.ctx.rateLimiter.check s frame.tenantId now.instant).1 = true) :
    server.takeFrame env s c frame now = subscribed s c frame now server := by
  have executed := executeInner_exact env.codec server.redis s ⟨s, c.spawned⟩ frame now
    (charged s frame now server.ctx) opcode exact
  rw [← owned] at executed
  unfold takeFrame
  rw [if_pos allowed]
  refine (handleFrame_eq (server.setCtx (charged s frame now server.ctx)) executed).trans ?_
  have other : acceptedClaims env frame now (charged s frame now server.ctx) = none :=
    if_neg (by rw [opcode]; decide)
  simp only [afterDispatch, setCtx_ctx, other, react, settled, opcode]
  rfl

/-- The server after a PUB or UNICAST by a session of its tenant. -/
def published (s : SessionId) (c : Connection) (frame : Frame) (key : ChannelKey) (now : Clock)
    (server : Server) : Server :=
  let sent := (charged s frame now server.ctx).publishAndFanout frame.tenantId key frame now
  (server.setCtx { sent with
      metrics := sent.metrics.recordFrame frame.tenantId frame.opcode.label }).setConnection s
    (c.write (pong c.transport frame c.authenticatedTenant))

theorem takeFrame_published {env : Env} {server : Server} {s : SessionId} {c : Connection} (frame : Frame)
    {now : Clock} {key : ChannelKey} (named : publishKey frame = some key)
    (owned : c.authenticatedTenant = some frame.tenantId)
    (allowed : (server.ctx.rateLimiter.check s frame.tenantId now.instant).1 = true) :
    server.takeFrame env s c frame now = published s c frame key now server := by
  have executed := executeInner_published env.codec server.redis s ⟨s, c.spawned⟩ frame now
    (charged s frame now server.ctx) named
  rw [← owned] at executed
  unfold takeFrame
  rw [if_pos allowed]
  refine (handleFrame_eq (server.setCtx (charged s frame now server.ctx)) executed).trans ?_
  have other : acceptedClaims env frame now (charged s frame now server.ctx) = none :=
    if_neg (opcode_of_publishKey named)
  simp only [afterDispatch, setCtx_ctx, other, react, settled]
  rfl

theorem channelRouter_published (s : SessionId) (c : Connection) (frame : Frame) (key : ChannelKey) (now : Clock)
    (server : Server) : (published s c frame key now server).ctx.channelRouter =
      (server.ctx.channelRouter.publish frame.tenantId key ⟨frame.raw, key⟩ now.unixSecs).2 :=
  RealtimeContext.channelRouter_publishAndFanout _ _ _ _ _

theorem sent_published_ite (s : SessionId) (c : Connection) (frame : Frame) (key : ChannelKey) (now : Clock)
    (server : Server) (source : Source) (rx : ReceiverId) :
    (published s c frame key now server).ctx.channelRouter.sent source rx =
      if frame.tenantId = key.tenantId ∧ source.matches key = true then
        (server.ctx.channelRouter.sent source rx).map (· ++ [⟨frame.raw, key⟩])
      else server.ctx.channelRouter.sent source rx := by
  rw [channelRouter_published, ChannelRouterService.sent_publish]

theorem executeInner_unauthenticated (codec : TokenCodec) (redis : RedisStreams Message) (s : SessionId)
    (rx : ReceiverId) (frame : Frame) (now : Clock) (ctx : RealtimeContext)
    (opcode : frame.opcode ≠ .auth) :
    executeInner codec redis s rx none frame now ctx = (.none, none, ctx) := by
  by_cases ping : frame.opcode = .ping
  · simp [executeInner, ping, heartbeat]
  · exact executeInner_foreign codec redis s rx none frame now ctx rfl opcode ping

def ignored (s : SessionId) (c : Connection) (frame : Frame) (now : Clock) (server : Server) : Server :=
  (server.setCtx { charged s frame now server.ctx with
      metrics := server.ctx.metrics.recordFrame frame.tenantId frame.opcode.label }).setConnection s
    (c.write (pong c.transport frame c.authenticatedTenant))

theorem takeFrame_ignored {env : Env} {server : Server} {s : SessionId} {c : Connection} (frame : Frame)
    {now : Clock} (opcode : frame.opcode ≠ .auth) (unknown : c.authenticatedTenant = none)
    (allowed : (server.ctx.rateLimiter.check s frame.tenantId now.instant).1 = true) :
    server.takeFrame env s c frame now = ignored s c frame now server := by
  have executed := executeInner_unauthenticated env.codec server.redis s ⟨s, c.spawned⟩ frame now
    (charged s frame now server.ctx) opcode
  rw [← unknown] at executed
  unfold takeFrame
  rw [if_pos allowed]
  refine (handleFrame_eq (server.setCtx (charged s frame now server.ctx)) executed).trans ?_
  have other : acceptedClaims env frame now (charged s frame now server.ctx) = none := if_neg opcode
  simp only [afterDispatch, setCtx_ctx, other, react, settled]
  rfl

theorem presenceKey_ne (key : ChannelKey) : key.presenceKey ≠ key := by
  intro same
  have lengths := congrArg (fun k : ChannelKey => k.channelId.toList.length) same
  simp [ChannelKey.presenceKey, String.toList_append] at lengths

theorem sent_subscribed (s : SessionId) (c : Connection) (frame : Frame) (now : Clock)
    (server : Server) : (subscribed s c frame now server).ctx.channelRouter.sent
      (.channel (namedKey frame)) ⟨s, c.spawned⟩ = some [] := by
  have miss : ¬ (frame.tenantId = (namedKey frame).presenceKey.tenantId ∧
      (Source.channel (namedKey frame)).matches (namedKey frame).presenceKey = true) :=
    fun both => presenceKey_ne _ (of_decide_eq_true both.2).symm
  show ((server.ctx.channelRouter.attach (namedKey frame) ⟨s, c.spawned⟩).publish frame.tenantId
    (namedKey frame).presenceKey _ now.unixSecs).2.sent _ _ = _
  rw [ChannelRouterService.sent_publish, if_neg miss, ChannelRouterService.sent_attach,
    if_pos ⟨rfl, rfl⟩]

theorem sent_published (s : SessionId) (c : Connection) (frame : Frame) (key : ChannelKey) (now : Clock)
    (server : Server) (own : frame.tenantId = key.tenantId) (rx : ReceiverId) :
    (published s c frame key now server).ctx.channelRouter.sent (.channel key) rx =
      (server.ctx.channelRouter.sent (.channel key) rx).map (· ++ [⟨frame.raw, key⟩]) := by
  have router : (published s c frame key now server).ctx.channelRouter =
      (server.ctx.channelRouter.publish frame.tenantId key ⟨frame.raw, key⟩ now.unixSecs).2 :=
    RealtimeContext.channelRouter_publishAndFanout _ _ _ _ _
  rw [router, ChannelRouterService.sent_publish, if_pos ⟨own, decide_eq_true rfl⟩]

structure SampleToken where
  claims : Claims
  payload : List UInt8
  payloadB64 : List Char
  sigB64 : List Char
  sig : List UInt8

namespace SampleToken

def text (t : SampleToken) : String := String.ofList (t.payloadB64 ++ '.' :: t.sigB64)

def tenantOne : TenantId := ⟨[0, 0, 0, 0, 0, 0, 0, 0, 0, 0, 0, 0, 0, 0, 0, 1], rfl⟩

def alice : SampleToken where
  claims := ⟨tenantOne, "a", 9⟩
  payload := [
    123, 34, 116, 101, 110, 97, 110, 116, 95, 105, 100, 34, 58, 34, 48, 48, 48, 48, 48, 48, 48, 48,
    45, 48, 48, 48, 48, 45, 48, 48, 48, 48, 45, 48, 48, 48, 48, 45, 48, 48, 48, 48, 48, 48, 48, 48,
    48, 48, 48, 49, 34, 44, 34, 115, 117, 98, 34, 58, 34, 97, 34, 44, 34, 101, 120, 112, 34, 58, 57,
    125]
  payloadB64 := [
    'e', 'y', 'J', '0', 'Z', 'W', '5', 'h', 'b', 'n', 'R', 'f', 'a', 'W', 'Q', 'i', 'O', 'i', 'I',
    'w', 'M', 'D', 'A', 'w', 'M', 'D', 'A', 'w', 'M', 'C', '0', 'w', 'M', 'D', 'A', 'w', 'L', 'T',
    'A', 'w', 'M', 'D', 'A', 't', 'M', 'D', 'A', 'w', 'M', 'C', '0', 'w', 'M', 'D', 'A', 'w', 'M',
    'D', 'A', 'w', 'M', 'D', 'A', 'w', 'M', 'D', 'E', 'i', 'L', 'C', 'J', 'z', 'd', 'W', 'I', 'i',
    'O', 'i', 'J', 'h', 'I', 'i', 'w', 'i', 'Z', 'X', 'h', 'w', 'I', 'j', 'o', '5', 'f', 'Q']
  sigB64 := [
    'Y', '0', 's', 'V', '9', '0', 'h', 'I', 'R', 'T', 'h', 'B', 'b', 'g', '8', 'T', 'P', 'p', 'S',
    '_', 'T', '0', '4', 'B', 'R', 'a', '_', 'Y', 'q', 'p', '2', 'x', 'n', 'p', '6', 'F', 'd', 'K',
    '5', 'X', 'x', '5', 'w']
  sig := [
    99, 75, 21, 247, 72, 72, 69, 56, 65, 110, 15, 19, 62, 148, 191, 79, 78, 1, 69, 175, 216, 170,
    157, 177, 158, 158, 133, 116, 174, 87, 199, 156]

def bob : SampleToken where
  claims := ⟨tenantOne, "b", 9⟩
  payload := [
    123, 34, 116, 101, 110, 97, 110, 116, 95, 105, 100, 34, 58, 34, 48, 48, 48, 48, 48, 48, 48, 48,
    45, 48, 48, 48, 48, 45, 48, 48, 48, 48, 45, 48, 48, 48, 48, 45, 48, 48, 48, 48, 48, 48, 48, 48,
    48, 48, 48, 49, 34, 44, 34, 115, 117, 98, 34, 58, 34, 98, 34, 44, 34, 101, 120, 112, 34, 58, 57,
    125]
  payloadB64 := [
    'e', 'y', 'J', '0', 'Z', 'W', '5', 'h', 'b', 'n', 'R', 'f', 'a', 'W', 'Q', 'i', 'O', 'i', 'I',
    'w', 'M', 'D', 'A', 'w', 'M', 'D', 'A', 'w', 'M', 'C', '0', 'w', 'M', 'D', 'A', 'w', 'L', 'T',
    'A', 'w', 'M', 'D', 'A', 't', 'M', 'D', 'A', 'w', 'M', 'C', '0', 'w', 'M', 'D', 'A', 'w', 'M',
    'D', 'A', 'w', 'M', 'D', 'A', 'w', 'M', 'D', 'E', 'i', 'L', 'C', 'J', 'z', 'd', 'W', 'I', 'i',
    'O', 'i', 'J', 'i', 'I', 'i', 'w', 'i', 'Z', 'X', 'h', 'w', 'I', 'j', 'o', '5', 'f', 'Q']
  sigB64 := [
    'D', '_', 'M', 'q', 'c', 'n', 'B', 'G', 'H', 'F', 'u', 'w', 'i', 'w', '7', 'Z', 'y', '-', 'Q',
    'v', 'N', 'B', '6', 'g', 'A', 'q', 'e', 'Y', 'Q', 'o', '4', 'U', 'x', 'm', '9', 'X', 'n', 'q',
    '0', '2', 'R', '2', 'Y']
  sig := [
    15, 243, 42, 114, 112, 70, 28, 91, 176, 139, 14, 217, 203, 228, 47, 52, 30, 160, 2, 167, 152,
    66, 142, 20, 198, 111, 87, 158, 173, 54, 71, 102]

def all : List SampleToken := [alice, bob]

/-- The bytes of `secret`. -/
def secret : List UInt8 := [115, 101, 99, 114, 101, 116]

/-- The libraries behind tokens, on the halves of the sample tokens. -/
def codec : TokenCodec where
  decode text := match all.find? fun t => t.payloadB64 = text.toList with
    | some t => some t.payload
    | none => (all.find? fun t => t.sigB64 = text.toList).map (·.sig)
  fromSlice bytes := (all.find? fun t => t.payload = bytes).map (·.claims)
  mac key message := ((all.find? fun t => key = secret ∧
    t.payloadB64.flatMap String.utf8EncodeChar = message).map (·.sig)).getD []

theorem signed (t : SampleToken) (member : t ∈ all) :
    TokenService.SignedUnder codec t.text t.claims secret := by
  have absent : '.' ∉ t.payloadB64 := by
    revert t
    decide
  have decoded : codec.decode (String.ofList t.payloadB64) = some t.payload := by
    simp only [codec, String.toList_ofList]
    revert t
    decide
  have parsed : codec.fromSlice t.payload = some t.claims := by
    revert t
    decide +kernel
  have signature : codec.decode (String.ofList t.sigB64) =
      some (codec.mac secret (utf8 (String.ofList t.payloadB64))) := by
    simp only [codec, String.toList_ofList, utf8_ofList]
    revert t
    decide
  exact ⟨_, _, _, splitOnce_ofList t.sigB64 absent, decoded, parsed, signature⟩

theorem text_fits (t : SampleToken) (member : t ∈ all) : (utf8 t.text).length ≤ lenPayload := by
  simp only [text, utf8_ofList]
  revert t
  decide +kernel

theorem trim_text (t : SampleToken) (member : t ∈ all) : trimEndNul t.text = t.text := by
  have kept : (t.payloadB64 ++ '.' :: t.sigB64).rdropWhile (· == '\x00') =
      t.payloadB64 ++ '.' :: t.sigB64 := by
    revert t
    decide
  simp only [text, trimEndNul, String.toList_ofList, kept]

/-- The AUTH frame of a sample token. -/
def authFrame (t : SampleToken) : FrameBuilder :=
  { opcode := .auth, tenantId := t.claims.tenantId, payload := t.text }

theorem channel_fits (t : SampleToken) : (utf8 t.authFrame.channelId).length ≤ lenChannel :=
  Nat.zero_le _

theorem step_auth (env : Env) (server : Server) (s : SessionId) (c : Connection) (now : Clock)
    (t : SampleToken) (member : t ∈ all) (libraries : env.codec = codec)
    (ready : server.waiting s = some c)
    (active : server.ctx.auth.secrets t.claims.tenantId = some secret)
    (allowed : (server.ctx.rateLimiter.check s t.claims.tenantId now.instant).1 = true)
    (fresh : now.unixSecs ≤ t.claims.exp) :
    step env server (.inbound s t.authFrame.build.toList now) =
      some (authed s c (t.authFrame.frame t.channel_fits (text_fits t member)) t.claims now server) := by
  rw [step_inbound_built env t.authFrame now t.channel_fits (text_fits t member) ready]
  have valid : server.ctx.auth.validate env.codec now.unixSecs t.claims.tenantId
      (trimEndNul t.text) = .ok t.claims := by
    rw [trim_text t member, libraries]
    exact TokenService.validate_of_signed (signed t member)
      (List.mem_append_left _ (by simp [active])) fresh
  exact congrArg some (takeFrame_auth (t.authFrame.frame t.channel_fits (text_fits t member))
    rfl allowed valid)

end SampleToken

namespace Sample
open SampleToken

def sessionOne : SessionId := ⟨[0, 0, 0, 0, 0, 0, 0, 0, 0, 0, 0, 0, 0, 0, 1, 1], rfl⟩
def sessionTwo : SessionId := ⟨[0, 0, 0, 0, 0, 0, 0, 0, 0, 0, 0, 0, 0, 0, 1, 2], rfl⟩

def epoch : Clock := ⟨0, 0⟩

def env : Env := ⟨codec, 1000, sessionOne⟩

def started (hasRedis : Bool) : Server := start {} 30000000000 hasRedis false

def connected (s : SessionId) (server : Server) : Server :=
  (server.setCtx { server.ctx with
    metrics := server.ctx.metrics.connectionOpened .webSocket }).setConnection s
      (Connection.new .webSocket)

def registered (hasRedis : Bool) : Server :=
  (started hasRedis).setCtx (adminStep (.registerTenant tenantOne secret) (started hasRedis).ctx)

theorem step_registered (hasRedis : Bool) :
    step env (started hasRedis) (.admin (.registerTenant tenantOne secret)) =
      some (registered hasRedis) := rfl

theorem step_connected {server : Server} {s : SessionId} (fresh : server.connections s = none) :
    step env server (.connect s .webSocket) = some (connected s server) := by
  show server.connectStep s .webSocket = _
  simp only [connectStep, fresh]
  rfl

def authParsed (t : SampleToken) (member : t ∈ all) : Frame :=
  t.authFrame.frame t.channel_fits (text_fits t member)

def aliceParsed : Frame := authParsed alice (by simp [all])

def signedIn (hasRedis : Bool) : Server :=
  authed sessionOne (Connection.new .webSocket) aliceParsed alice.claims epoch
    (connected sessionOne (registered hasRedis))

def signInEvents : List Event :=
  [.admin (.registerTenant tenantOne secret), .connect sessionOne .webSocket,
    .inbound sessionOne alice.authFrame.build.toList epoch]

def aliceConnection : Connection :=
  Connection.spawnRelay (unicastInboxChannel "a") (.channel ⟨tenantOne, unicastInboxChannel "a"⟩) true
    { Connection.new .webSocket with
      authenticatedTenant := some tenantOne
      identity := some (tenantOne, "a") }

theorem waiting_signedIn (hasRedis : Bool) :
    (signedIn hasRedis).waiting sessionOne = some aliceConnection :=
  waiting_set rfl rfl

theorem connections_signedIn (hasRedis : Bool) (s : SessionId) :
    (signedIn hasRedis).connections s = if s = sessionOne then some aliceConnection else none := by
  refine (connections_setConnection sessionOne s _ _).trans ?_
  by_cases own : s = sessionOne
  · rw [if_pos own, if_pos own]
    rfl
  · rw [if_neg own, if_neg own]
    exact (connections_setConnection sessionOne s _ _).trans (if_neg own)

theorem step_signedIn (hasRedis : Bool) : step env (connected sessionOne (registered hasRedis))
    (.inbound sessionOne alice.authFrame.build.toList epoch) = some (signedIn hasRedis) := by
  have allowed : ((connected sessionOne (registered hasRedis)).ctx.rateLimiter.check sessionOne
      tenantOne epoch.instant).1 = true := by
    show ((connected sessionOne (registered false)).ctx.rateLimiter.check sessionOne tenantOne epoch.instant).1 = true
    decide +kernel
  exact step_auth env (connected sessionOne (registered hasRedis)) sessionOne
    (Connection.new .webSocket) epoch alice (by simp [all]) rfl
    (waiting_set rfl rfl) rfl allowed (by decide)

theorem allowed_signedIn (hasRedis : Bool) :
    ((signedIn hasRedis).ctx.rateLimiter.check sessionOne tenantOne epoch.instant).1 = true := by
  show ((signedIn false).ctx.rateLimiter.check sessionOne tenantOne epoch.instant).1 = true
  decide +kernel

theorem run_signedIn (hasRedis : Bool) :
    (step env).run (started hasRedis) signInEvents = some (signedIn hasRedis) := by
  refine Step.run_cons_iff.mpr ⟨_, step_registered hasRedis, ?_⟩
  refine Step.run_cons_iff.mpr ⟨_, step_connected rfl, ?_⟩
  exact Step.run_cons_iff.mpr ⟨_, step_signedIn hasRedis, rfl⟩

def subFrame (channelId : String) : FrameBuilder :=
  { opcode := .subscribe, tenantId := tenantOne, channelId := channelId }

def subParsed (channelId : String) (fits : (utf8 channelId).length ≤ lenChannel) : Frame :=
  (subFrame channelId).frame fits (Nat.zero_le _)

theorem step_subscribe (server : Server) (channelId : String) {s : SessionId} {c : Connection}
    (fits : (utf8 channelId).length ≤ lenChannel) (ready : server.waiting s = some c)
    (owned : c.authenticatedTenant = some tenantOne)
    (exact : isPattern (trimEndNul channelId) = false)
    (allowed : (server.ctx.rateLimiter.check s tenantOne epoch.instant).1 = true) :
    step env server (.inbound s (subFrame channelId).build.toList epoch) =
      some (subscribed s c (subParsed channelId fits) epoch server) := by
  rw [step_inbound_built env (subFrame channelId) epoch fits (Nat.zero_le _) ready]
  exact congrArg some (takeFrame_subscribe (subParsed channelId fits) rfl owned exact allowed)

def subRoom : Event := .inbound sessionOne (subFrame "room").build.toList epoch

def roomParsed : Frame := subParsed "room" (by decide)

def inRoom : Server := subscribed sessionOne aliceConnection roomParsed epoch (signedIn false)

theorem step_inRoom : step env (signedIn false) subRoom = some inRoom :=
  step_subscribe _ _ (by decide) (waiting_signedIn false) rfl (by decide) (allowed_signedIn false)

theorem allowed_inRoom : (inRoom.ctx.rateLimiter.check sessionOne tenantOne epoch.instant).1 = true := by
  show ((charged sessionOne roomParsed epoch (signedIn false).ctx).rateLimiter.check sessionOne
    tenantOne epoch.instant).1 = true
  decide +kernel

def tenantTwo : TenantId := ⟨[0, 0, 0, 0, 0, 0, 0, 0, 0, 0, 0, 0, 0, 0, 0, 2], rfl⟩

def spoofed (tenantId : TenantId) : FrameBuilder :=
  { opcode := .publish, tenantId := tenantId, channelId := "room" }

theorem room_fits : (utf8 "room").length ≤ lenChannel := by decide

def spoofedParsed (tenantId : TenantId) : Frame :=
  (spoofed tenantId).frame room_fits (Nat.zero_le _)

def spoofedEvents (tenantId : TenantId) : List Event :=
  [.connect sessionTwo .webSocket, .inbound sessionTwo (spoofed tenantId).build.toList epoch]

def afterSpoofed (tenantId : TenantId) (server : Server) : Server :=
  ignored sessionTwo (Connection.new .webSocket) (spoofedParsed tenantId) epoch
    (connected sessionTwo server)

theorem step_spoofed (tenantId : TenantId) {server : Server}
    (allowed : (server.ctx.rateLimiter.check sessionTwo tenantId epoch.instant).1 = true) :
    step env (connected sessionTwo server) (.inbound sessionTwo (spoofed tenantId).build.toList epoch) =
      some (afterSpoofed tenantId server) := by
  have ready : (connected sessionTwo server).waiting sessionTwo = some (Connection.new .webSocket) :=
    waiting_set rfl rfl
  have arrived := step_inbound_built env (spoofed tenantId) epoch room_fits (Nat.zero_le _) ready
  exact arrived.trans (congrArg some
    (takeFrame_ignored (spoofedParsed tenantId) (fun opcode => by cases opcode) rfl allowed))

theorem run_spoofed (tenantId : TenantId) {server : Server} (fresh : server.connections sessionTwo = none)
    (allowed : (server.ctx.rateLimiter.check sessionTwo tenantId epoch.instant).1 = true) :
    (step env).run server (spoofedEvents tenantId) = some (afterSpoofed tenantId server) :=
  Step.run_cons_iff.mpr ⟨_, step_connected fresh, Step.run_cons_iff.mpr
    ⟨_, step_spoofed tenantId allowed, rfl⟩⟩

theorem throughout_spoofed {P : Server → Prop} (tenantId : TenantId) {server : Server}
    (fresh : server.connections sessionTwo = none)
    (allowed : (server.ctx.rateLimiter.check sessionTwo tenantId epoch.instant).1 = true)
    (before : P server) (opened : P (connected sessionTwo server))
    (ended : P (afterSpoofed tenantId server)) :
    (step env).Throughout P server (spoofedEvents tenantId) := by
  refine ⟨before, fun t first => ?_⟩
  obtain rfl := Option.some.inj ((step_connected fresh).symm.trans first)
  refine ⟨opened, fun t second => ?_⟩
  obtain rfl := Option.some.inj ((step_spoofed tenantId allowed).symm.trans second)
  exact ended

def inboxOfBob : ChannelKey := ⟨tenantOne, unicastInboxChannel "b"⟩

def inboxSub : Frame := subParsed (unicastInboxChannel "b") (by decide)

def toBob : FrameBuilder := { opcode := .unicast, tenantId := tenantOne, channelId := "b" }

def toBobParsed : Frame := toBob.frame (by decide) (by decide)

theorem namedKey_inboxSub : namedKey inboxSub = inboxOfBob := by
  have trimmed : trimEndNul (unicastInboxChannel "b") = unicastInboxChannel "b" := by decide
  simp [namedKey, inboxSub, subParsed, FrameBuilder.frame, subFrame, inboxOfBob, trimmed]

theorem publishKey_toBobParsed : publishKey toBobParsed = some inboxOfBob := by
  have trimmed : trimEndNul "b" = "b" := by decide
  simp [publishKey, inboxKey, toBobParsed, FrameBuilder.frame, toBob, inboxOfBob, trimmed]

def listening : Server := subscribed sessionOne aliceConnection inboxSub epoch (signedIn false)

def listeningConnection : Connection :=
  aliceConnection.spawnRelay inboxSub.channelId (.channel (namedKey inboxSub)) false

def unicast : Server := published sessionOne listeningConnection toBobParsed inboxOfBob epoch listening

def message : Message := ⟨toBobParsed.raw, inboxOfBob⟩

/-- The relay of bob's inbox in alice's session, before and after it takes the message. -/
def relay : RelayTask := ⟨.channel (namedKey inboxSub), false, 0, none, false⟩

def taken : Connection :=
  { listeningConnection with
    tasks := AList.insert 1 { relay with next := 1, inFlight := some message } listeningConnection.tasks }

def queued : Connection :=
  { taken with
    tasks := AList.insert 1 { relay with next := 1 } taken.tasks
    outQueue := [⟨message, .relay (.channel (namedKey inboxSub))⟩] }

def overhearing : Connection :=
  { queued with
    outQueue := []
    written := [.relayed ⟨message, .relay (.channel (namedKey inboxSub))⟩] }

def overheard : Server :=
  ((unicast.setConnection sessionOne taken).setConnection sessionOne queued).setConnection sessionOne
    overhearing

theorem step_unicast : step env listening (.inbound sessionOne toBob.build.toList epoch) =
    some unicast := by
  have allowed : (listening.ctx.rateLimiter.check sessionOne tenantOne epoch.instant).1 = true := by
    show ((charged sessionOne inboxSub epoch (signedIn false).ctx).rateLimiter.check sessionOne
      tenantOne epoch.instant).1 = true
    decide +kernel
  have ready : listening.waiting sessionOne = some listeningConnection := waiting_set rfl rfl
  rw [step_inbound_built env toBob epoch (by decide) (by decide) ready]
  exact congrArg some (takeFrame_published toBobParsed publishKey_toBobParsed rfl allowed)

theorem sent_unicast : unicast.ctx.channelRouter.sent (.channel (namedKey inboxSub)) ⟨sessionOne, 1⟩ =
    some [message] := by
  have joined := sent_subscribed sessionOne aliceConnection inboxSub epoch (signedIn false)
  have sent := sent_published sessionOne listeningConnection toBobParsed inboxOfBob epoch
    listening rfl ⟨sessionOne, 1⟩
  rw [namedKey_inboxSub] at joined ⊢
  exact sent.trans (congrArg _ joined)

theorem connections_unicast : unicast.connections sessionOne = some listeningConnection :=
  connections_setConnection_self _ _ _

def overheardEvents : List Event := signInEvents ++
  [.inbound sessionOne (subFrame (unicastInboxChannel "b")).build.toList epoch,
    .inbound sessionOne toBob.build.toList epoch, .relayRecv sessionOne 1, .relaySend sessionOne 1,
    .writeOut sessionOne]

theorem run_overheard : (step env).run (started false) overheardEvents = some overheard := by
  have got : unicast.ctx.channelRouter.receive (.channel (namedKey inboxSub)) ⟨sessionOne, 1⟩ 0 =
      .message message := ChannelRouterService.receive_of_sent sent_unicast (by decide) rfl
  have listened : step env (signedIn false) (.inbound sessionOne
      (subFrame (unicastInboxChannel "b")).build.toList epoch) = some listening :=
    step_subscribe _ _ (by decide) (waiting_signedIn false) rfl (by decide) (allowed_signedIn false)
  have received : step env unicast (.relayRecv sessionOne 1) =
      some (unicast.setConnection sessionOne taken) := by
    have running : AList.lookup 1 listeningConnection.tasks = some relay := AList.lookup_insert _
    show unicast.relayRecvStep sessionOne 1 = _
    simp only [relayRecvStep, connections_unicast, Option.bind_some, running]
    simp only [relay, Option.isSome_none, Bool.false_eq_true, if_false, got]
    rfl
  have relayed : step env (unicast.setConnection sessionOne taken) (.relaySend sessionOne 1) =
      some ((unicast.setConnection sessionOne taken).setConnection sessionOne queued) := by
    have running : AList.lookup 1 taken.tasks = some { relay with next := 1, inFlight := some message } :=
      AList.lookup_insert _
    have there : (unicast.setConnection sessionOne taken).connections sessionOne = some taken :=
      connections_setConnection_self _ _ _
    show relaySendStep sessionOne 1 _ = _
    simp only [relaySendStep, there, Option.bind_some, running]
    rfl
  have written : step env ((unicast.setConnection sessionOne taken).setConnection sessionOne queued)
      (.writeOut sessionOne) = some overheard := by
    have ready : ((unicast.setConnection sessionOne taken).setConnection sessionOne queued).waiting
        sessionOne = some queued :=
      waiting_of_found (connections_setConnection_self _ _ _) rfl rfl
    show writeOutStep sessionOne _ = _
    simp only [writeOutStep, ready, Option.bind_some]
    rfl
  exact Step.run_append_iff.mpr ⟨_, run_signedIn false, Step.run_cons_iff.mpr ⟨_, listened,
    Step.run_cons_iff.mpr ⟨_, step_unicast, Step.run_cons_iff.mpr ⟨_, received,
      Step.run_cons_iff.mpr ⟨_, relayed, Step.run_cons_iff.mpr ⟨_, written, rfl⟩⟩⟩⟩⟩⟩

theorem connections_overheard : overheard.connections sessionOne = some overhearing :=
  connections_setConnection_self _ _ _

end Sample
end RealtimePlatform.Proof
