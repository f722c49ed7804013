import RealtimePlatform.Backend.Moves

/-!
# Several instances on one Redis

Each instance keeps its queue towards the cluster bus and its queue towards the history streams. The bus
delivers an envelope to every instance, the sender included, in the order it was published; the streams
are shared. A step of the cluster is a step of one of its instances.
-/

namespace RealtimePlatform.Backend
open Library UseCases Server

/-- The frame built from an HTTP publish. -/
def HttpRequest.builder (request : HttpRequest) (payload : String) : FrameBuilder :=
  { opcode := .publish, tenantId := request.tenantId, channelId := request.channelId, payload := payload }

/-- The frame that a client hands to `publish_and_fanout` in a step, and the key it is accepted under. -/
def clientPublish (env : Env) (server : Server) : Event → Option (Frame × ChannelKey)
  | .inbound s bytes now => (server.waiting s).bind fun c =>
    (handledFrame server s bytes now).bind fun frame =>
      if c.authenticatedTenant = some frame.tenantId then (publishKey frame).map (frame, ·) else none
  | .http request now => (publishedText env request now server.ctx).bind fun payload =>
    (Frame.parse (request.builder payload).build).toOption.map fun frame =>
      (frame, ⟨request.tenantId, request.channelId⟩)
  | _ => none

section
variable {env : Env} {server : Server} {e : Event} {frame : Frame} {key : ChannelKey}

theorem clientPublish_inbound {s : SessionId} {bytes : List UInt8} {now : Clock}
    (published : clientPublish env server (.inbound s bytes now) = some (frame, key)) :
    ∃ c, Admitted server s bytes now c frame ∧ c.authenticatedTenant = some frame.tenantId ∧
      publishKey frame = some key := by
  obtain ⟨c, ready, rest⟩ := Option.bind_eq_some_iff.mp published
  obtain ⟨found, handled, owned⟩ := Option.bind_eq_some_iff.mp rest
  split at owned
  · rename_i tenant
    obtain ⟨named, key', same⟩ := Option.map_eq_some_iff.mp owned
    obtain ⟨rfl, rfl⟩ := Prod.mk.inj same
    obtain ⟨d, admitted⟩ := admitted_of_handledFrame handled
    obtain rfl := Option.some.inj (ready.symm.trans admitted.ready)
    exact ⟨c, admitted, tenant, key'⟩
  · cases owned

theorem clientPublish_of_admitted (env : Env) {s : SessionId} {bytes : List UInt8} {now : Clock} {c : Connection}
    (admitted : Admitted server s bytes now c frame)
    (owned : c.authenticatedTenant = some frame.tenantId) (named : publishKey frame = some key) :
    clientPublish env server (.inbound s bytes now) = some (frame, key) := by
  simp [clientPublish, admitted.ready, handledFrame_of_admitted admitted, owned, named]

theorem clientPublish_unhandled {s : SessionId} {bytes : List UInt8} {now : Clock}
    (unhandled : handledFrame server s bytes now = none) :
    clientPublish env server (.inbound s bytes now) = none := by
  cases ready : server.waiting s <;> simp [clientPublish, unhandled, ready]

theorem clientPublish_of_http {request : HttpRequest} {now : Clock} {payload : String}
    (text : publishedText env request now server.ctx = some payload)
    (parsed : Frame.parse (request.builder payload).build = .ok frame) :
    clientPublish env server (.http request now) =
      some (frame, ⟨request.tenantId, request.channelId⟩) := by
  simp [clientPublish, text, parsed, Except.toOption]

theorem clientPublish_http {request : HttpRequest} {now : Clock}
    (published : clientPublish env server (.http request now) = some (frame, key)) :
    key = ⟨request.tenantId, request.channelId⟩ ∧ ∃ payload,
      publishedText env request now server.ctx = some payload ∧
      Frame.parse (request.builder payload).build = .ok frame := by
  obtain ⟨payload, text, rest⟩ := Option.bind_eq_some_iff.mp published
  obtain ⟨found, parsed, same⟩ := Option.map_eq_some_iff.mp rest
  obtain ⟨rfl, rfl⟩ := Prod.mk.inj same
  refine ⟨rfl, payload, text, ?_⟩
  cases result : Frame.parse (request.builder payload).build with
  | error err =>
      rw [result] at parsed
      cases parsed
  | ok read =>
      rw [result] at parsed
      rw [Option.some.inj parsed]

theorem remoteKey_http {request : HttpRequest} {payload : String}
    (channelFits : (utf8 request.channelId).length ≤ lenChannel)
    (payloadFits : (utf8 payload).length ≤ lenPayload)
    (parsed : Frame.parse (request.builder payload).build = .ok frame) :
    frame.opcode = .publish ∧
      remoteKey frame = ⟨request.tenantId, trimEndNul request.channelId⟩ := by
  have built := FrameBuilder.parse_build (b := request.builder payload) channelFits payloadFits
  obtain rfl := Except.ok.inj (parsed.symm.trans built)
  exact ⟨rfl, rfl⟩

theorem fits_of_publishedText {request : HttpRequest} {now : Clock} {ctx : RealtimeContext}
    {payload : String} (text : publishedText env request now ctx = some payload) :
    (utf8 request.channelId).length ≤ lenChannel ∧ (utf8 payload).length ≤ lenPayload := by
  unfold publishedText at text
  split at text
  · rename_i passes
    have admissible := (Bool.and_eq_true _ _ |>.mp passes).1
    cases request with
    | message dto token =>
        simp only [HttpRequest.admissible, Bool.and_eq_true, decide_eq_true_eq] at admissible
        obtain rfl := Option.some.inj text
        exact ⟨admissible.1.1, of_decide_eq_true admissible.1.2⟩
    | template tenantId channelId token rendered =>
        simp only [HttpRequest.admissible, Bool.and_eq_true, decide_eq_true_eq] at admissible
        obtain ⟨_, sized⟩ := Option.filter_eq_some_iff.mp text
        exact ⟨admissible.1, of_decide_eq_true sized⟩
    | broadcast tenantId channelId text' =>
        simp only [HttpRequest.admissible, Bool.and_eq_true, decide_eq_true_eq] at admissible
        obtain rfl := Option.some.inj text
        exact ⟨admissible.1, of_decide_eq_true admissible.2⟩
  · cases text

theorem tenantId_of_clientPublish (published : clientPublish env server e = some (frame, key)) :
    frame.tenantId = key.tenantId := by
  cases e with
  | inbound s bytes now =>
      obtain ⟨c, _, _, named⟩ := clientPublish_inbound published
      exact (tenantId_publishKey named).symm
  | http request now =>
      obtain ⟨rfl, payload, text, parsed⟩ := clientPublish_http published
      obtain ⟨channelFits, payloadFits⟩ := fits_of_publishedText text
      exact congrArg ChannelKey.tenantId (remoteKey_http channelFits payloadFits parsed).2
  | _ => cases published

theorem httpStep_unpublished {request : HttpRequest} {now : Clock}
    (nothing : clientPublish env server (.http request now) = none) :
    httpStep env request now server.ctx = server.ctx ∨
      httpStep env request now server.ctx = chargedTenant request.tenantId now server.ctx := by
  have silent : publishedText env request now server.ctx = none := by
    cases text : publishedText env request now server.ctx with
    | none => rfl
    | some payload =>
        obtain ⟨channelFits, payloadFits⟩ := fits_of_publishedText text
        rw [clientPublish_of_http text (FrameBuilder.parse_build channelFits payloadFits)] at nothing
        cases nothing
  rw [httpStep_eq]
  unfold publishedText at silent
  split
  · rename_i admissible
    split
    · rename_i allowed
      rw [admissible, allowed, Bool.and_self, if_pos rfl] at silent
      rw [silent]
      exact Or.inr rfl
    · exact Or.inr rfl
  · exact Or.inl rfl

theorem httpStep_published {request : HttpRequest} {now : Clock}
    (published : clientPublish env server (.http request now) = some (frame, key)) :
    httpStep env request now server.ctx =
      let sent := (chargedTenant request.tenantId now server.ctx).publishAndFanout frame.tenantId key
        frame now
      { sent with metrics := sent.metrics.recordFrame frame.tenantId Opcode.publish.label } := by
  have tenant := tenantId_of_clientPublish published
  obtain ⟨rfl, payload, text, parsed⟩ := clientPublish_http published
  unfold HttpRequest.builder at parsed
  rw [httpStep_of_text text, tenant, publishBuilt, parsed]

end

structure Cluster (ι : Type*) where
  instances : ι → Server
  redis : RedisStreams Message
  inbox : ι → List (List UInt8)

inductive ClusterEvent (ι : Type*) where
  | at (i : ι) (e : Event)
  | forward (i : ι)
  | receive (i : ι) (now : Clock)
  | write (i : ι) (id : Nat × Nat) (evicted : Nat)

namespace Cluster
variable {ι : Type*} [DecidableEq ι]

/-- An instance as it sees the shared streams. -/
def server (cluster : Cluster ι) (i : ι) : Server := { cluster.instances i with redis := cluster.redis }

def setServer (i : ι) (server : Server) (cluster : Cluster ι) : Cluster ι :=
  { cluster with
    instances := Function.update cluster.instances i server
    redis := server.redis }

def isLocal : Event → Bool
  | .clusterSend | .clusterReceive .. | .historyWrite .. | .remoteXadd .. => false
  | _ => true

def step (envs : ι → Env) : Step (Cluster ι) (ClusterEvent ι)
  | cluster, .at i e =>
    if isLocal e then (Server.step (envs i) (cluster.server i) e).map fun server =>
      cluster.setServer i server
    else none
  | cluster, .forward i =>
    (cluster.instances i).ctx.pushFallback.cluster.bind fun queue => queue.head?.bind fun raw =>
      (Server.step (envs i) (cluster.server i) .clusterSend).map fun server =>
        { cluster.setServer i server with
          inbox := fun j => cluster.inbox j ++ [encodeEnvelope (envs i).instanceId raw] }
  | cluster, .receive i now =>
    (cluster.inbox i).head?.bind fun payload =>
      (Server.step (envs i) (cluster.server i) (.clusterReceive payload now)).map fun server =>
        { cluster.setServer i server with
          inbox := Function.update cluster.inbox i (cluster.inbox i).tail }
  | cluster, .write i id evicted =>
    (Server.step (envs i) (cluster.server i) (.historyWrite id evicted)).map fun server =>
      cluster.setServer i server

section
variable {envs : ι → Env} {cluster cluster' : Cluster ι} {i : ι}

theorem step_at {e : Event} (taken : step envs cluster (.at i e) = some cluster') :
    isLocal e = true ∧ ∃ server', Server.step (envs i) (cluster.server i) e = some server' ∧
      cluster' = cluster.setServer i server' := by
  change (if isLocal e then _ else none) = some cluster' at taken
  split at taken
  · rename_i own
    obtain ⟨server', moved, same⟩ := Option.map_eq_some_iff.mp taken
    exact ⟨own, server', moved, same.symm⟩
  · cases taken

theorem step_forward (taken : step envs cluster (.forward i) = some cluster') :
    ∃ raw rest, (cluster.instances i).ctx.pushFallback.cluster = some (raw :: rest) ∧
      cluster' = { cluster.setServer i ((cluster.server i).setCtx { (cluster.instances i).ctx with
          pushFallback := { (cluster.instances i).ctx.pushFallback with cluster := some rest } }) with
        inbox := fun j => cluster.inbox j ++ [encodeEnvelope (envs i).instanceId raw] } := by
  obtain ⟨queue, there, taken⟩ := Option.bind_eq_some_iff.mp taken
  obtain ⟨raw, first, taken⟩ := Option.bind_eq_some_iff.mp taken
  obtain ⟨server', sent, same⟩ := Option.map_eq_some_iff.mp taken
  obtain ⟨rest, rfl⟩ := List.head?_eq_some_iff.mp first
  refine ⟨raw, rest, there, ?_⟩
  change (cluster.server i).clusterSendStep = some server' at sent
  have queue : (cluster.server i).ctx.pushFallback.cluster = some (raw :: rest) := there
  rw [clusterSendStep, queue] at sent
  cases sent
  exact same.symm

theorem step_receive {now : Clock} (taken : step envs cluster (.receive i now) = some cluster') :
    ∃ payload server', (cluster.inbox i).head? = some payload ∧
      server' = (cluster.server i).setCtx ((remoteFrame (envs i).instanceId payload).elim
        (cluster.instances i).ctx fun frame => reinject frame now (cluster.instances i).ctx) ∧
      cluster' = { cluster.setServer i server' with
        inbox := Function.update cluster.inbox i (cluster.inbox i).tail } := by
  obtain ⟨payload, first, taken⟩ := Option.bind_eq_some_iff.mp taken
  obtain ⟨server', received, same⟩ := Option.map_eq_some_iff.mp taken
  refine ⟨payload, server', first, ?_, same.symm⟩
  cases step_cases received with
  | passed silent =>
      rw [silent]
      rfl
  | reinjected found =>
      rw [found]
      rfl

theorem step_write {id : Nat × Nat} {evicted : Nat}
    (taken : step envs cluster (.write i id evicted) = some cluster') :
    ∃ key m rest redis, (cluster.instances i).ctx.channelRouter.historyPort = some ⟨(key, m) :: rest⟩ ∧
      cluster.redis.xadd (envs i).historyStreamMaxlen evicted key id m = some redis ∧
      cluster' = cluster.setServer i { cluster.server i with
        redis := redis
        ctx := { (cluster.instances i).ctx with
          channelRouter := { (cluster.instances i).ctx.channelRouter with
            historyPort := some ⟨rest⟩ } } } := by
  obtain ⟨server', written, same⟩ := Option.map_eq_some_iff.mp taken
  cases step_cases written with
  | persisted port added => exact ⟨_, _, _, _, port, added, same.symm⟩

theorem can_forward {raw : RawFrame} {rest : List RawFrame}
    (there : (cluster.instances i).ctx.pushFallback.cluster = some (raw :: rest)) :
    ∃ next, step envs cluster (.forward i) = some next := by
  have queue : (cluster.server i).ctx.pushFallback.cluster = some (raw :: rest) := there
  simp [step, Server.step, clusterSendStep, there, queue]

theorem can_receive {payload : List UInt8} {rest : List (List UInt8)} (now : Clock)
    (joined : (cluster.instances i).ctx.pushFallback.cluster.isSome = true)
    (there : cluster.inbox i = payload :: rest) :
    ∃ next, step envs cluster (.receive i now) = some next := by
  have attached : (cluster.server i).ctx.pushFallback.cluster.isSome = true := joined
  cases received : remoteFrame (envs i).instanceId payload <;>
    simp [step, Server.step, clusterReceiveStep, there, attached, received]

theorem can_write {key : ChannelKey} {m : Message} {rest : List (ChannelKey × Message)} {id : Nat × Nat}
    (there : (cluster.instances i).ctx.channelRouter.historyPort = some ⟨(key, m) :: rest⟩)
    (fresh : (cluster.redis (streamKey key)).all (fun e => idBefore e.id id) = true) :
    ∃ next, step envs cluster (.write i id 0) = some next := by
  have port : (cluster.server i).ctx.channelRouter.historyPort = some ⟨(key, m) :: rest⟩ := there
  have streams : (cluster.server i).redis = cluster.redis := rfl
  simp [step, Server.step, historyWriteStep, port, RedisStreams.xadd, streams, fresh]

end

end Cluster

theorem decodeEnvelope_encodeEnvelope (origin : Uuid) (raw : RawFrame) :
    decodeEnvelope (encodeEnvelope origin raw) = some (origin, raw) := by
  have sized : (encodeEnvelope origin raw).length = envelopeLen := by
    simp [encodeEnvelope, envelopeLen, originLen, frameSize]
  have lengths : origin.toList.length = originLen := origin.toList_length
  rw [decodeEnvelope, dif_pos sized]
  refine congrArg some (Prod.ext ?_ ?_)
  · apply List.Vector.toList_injective
    show (encodeEnvelope origin raw).take originLen = origin.toList
    rw [encodeEnvelope, ← lengths, List.take_left]
  · apply List.Vector.toList_injective
    show (encodeEnvelope origin raw).drop originLen = raw.toList
    rw [encodeEnvelope, ← lengths, List.drop_left]

theorem remoteFrame_encodeEnvelope (origin other : Uuid) (raw : RawFrame) :
    remoteFrame other (encodeEnvelope origin raw) =
      if origin = other then none else (Frame.parse raw).toOption := by
  simp only [remoteFrame, decodeEnvelope_encodeEnvelope]

end RealtimePlatform.Backend
