import RealtimePlatform.Backend.Cluster
import RealtimePlatform.Proof.Handling

namespace RealtimePlatform.Proof.ClusterRouting
open Library Backend Backend.Server Backend.UseCases

theorem trimEndNul_idem (s : String) : trimEndNul (trimEndNul s) = trimEndNul s := by
  rw [trimEndNul, trimEndNul, String.toList_ofList, List.rdropWhile_idempotent]

theorem channelId_trimmed (frame : Frame) : trimEndNul frame.channelId = frame.channelId := by
  have decoded := frame.channelEq
  unfold decodeText at decoded
  split at decoded
  · rw [← Option.some.inj decoded, trimEndNul_idem]
  · cases decoded

theorem inboxKey_ne_namedKey (frame : Frame) : inboxKey frame frame.channelId ≠ namedKey frame := by
  intro same
  have lengths := congrArg (fun key : ChannelKey => key.channelId.toList.length) same
  simp only [inboxKey, namedKey, unicastInboxChannel, String.toList_append, List.length_append] at lengths
  have longer : 0 < "user:".toList.length := by decide
  omega

/-- The name of a channel that a frame can carry: one that does not end in NUL. -/
def Carried (channelId : String) : Prop :=
  ∀ nonempty : channelId.toList ≠ [], channelId.toList.getLast nonempty ≠ '\x00'

section
variable {env : Env} {server : Server} {e : Event} {frame : Frame} {key : ChannelKey}

theorem remoteKey_eq_iff (published : clientPublish env server e = some (frame, key)) :
    remoteKey frame = key ↔ frame.opcode = .publish ∧ Carried key.channelId := by
  cases e with
  | inbound s bytes now =>
      obtain ⟨c, _, _, named⟩ := clientPublish_inbound published
      unfold publishKey at named
      split at named
      · rename_i opcode
        obtain rfl := Option.some.inj named
        exact iff_of_true rfl ⟨opcode, trimEndNul_eq_self_iff.mp (channelId_trimmed frame)⟩
      · rename_i opcode
        obtain rfl := Option.some.inj named
        refine iff_of_false (fun same => inboxKey_ne_namedKey frame same.symm) fun both => ?_
        rw [opcode] at both
        cases both.1
      · cases named
  | http request now =>
      obtain ⟨rfl, payload, text, parsed⟩ := clientPublish_http published
      obtain ⟨channelFits, payloadFits⟩ := fits_of_publishedText text
      obtain ⟨opcode, read⟩ := remoteKey_http channelFits payloadFits parsed
      have names : remoteKey frame = ⟨request.tenantId, request.channelId⟩ ↔
          trimEndNul request.channelId = request.channelId := by
        rw [read, ChannelKey.mk.injEq]
        exact and_iff_right rfl
      rw [names, trimEndNul_eq_self_iff]
      exact (and_iff_right opcode).symm
  | _ => cases published

end

def Receives (r r' : ChannelRouterService Message) (raw : RawFrame) (source : Source) (rx : ReceiverId) :
    Prop :=
  ∃ log m, r.sent source rx = some log ∧ r'.sent source rx = some (log ++ [m]) ∧ m.frame = raw

theorem receives_publish_iff (r : ChannelRouterService Message) (key : ChannelKey) (raw : RawFrame)
    (nowSecs : Nat) {source : Source} {rx : ReceiverId} :
    Receives r (r.publish key.tenantId key ⟨raw, key⟩ nowSecs).2 raw source rx ↔
      (r.sent source rx).isSome = true ∧ source.matches key = true := by
  unfold Receives
  rw [ChannelRouterService.sent_publish]
  by_cases hit : source.matches key = true
  · simp only [hit, and_self, if_true, and_true]
    constructor
    · rintro ⟨log, m, attached, _⟩
      rw [attached]
      rfl
    · intro attached
      obtain ⟨log, found⟩ := Option.isSome_iff_exists.mp attached
      exact ⟨log, ⟨raw, key⟩, found, by rw [found]; rfl, rfl⟩
  · rw [if_neg fun both => hit both.2]
    refine iff_of_false ?_ fun both => hit both.2
    rintro ⟨log, m, attached, longer, _⟩
    rw [attached, Option.some.injEq] at longer
    have lengths := congrArg List.length longer
    simp at lengths

theorem remoteFrame_other {ι : Type} {ids : ι → Uuid} (distinct : Function.Injective ids) {origin i : ι}
    (apart : i ≠ origin) (frame : Frame) :
    remoteFrame (ids i) (encodeEnvelope (ids origin) frame.raw) = some frame := by
  rw [remoteFrame_encodeEnvelope, if_neg fun same => apart (distinct same).symm, Frame.parse_raw]
  rfl

section
variable {ι : Type} [DecidableEq ι]

def fannedOut (ids : ι → Uuid) (origin : ι) (frame : Frame) (key : ChannelKey) (now : Clock)
    (parts : ι → RealtimeContext) (i : ι) : RealtimeContext :=
  if i = origin then (parts i).publishAndFanout frame.tenantId key frame now
  else match remoteFrame (ids i) (encodeEnvelope (ids origin) frame.raw) with
    | none => parts i
    | some remote => reinject remote now (parts i)

def Placed (whole : RealtimeContext) (parts : ι → RealtimeContext) : Prop :=
  ∀ source rx, (whole.channelRouter.sent source rx).isSome = true ↔
    ∃ i, ((parts i).channelRouter.sent source rx).isSome = true

/-- Every other instance publishes under the key of the origin, and however the receivers are placed,
those that are sent the frame are the ones a single instance would send it to. -/
def RoutesAlike (ids : ι → Uuid) (origin : ι) (frame : Frame) (key : ChannelKey) : Prop :=
  (∀ i, i ≠ origin → ∃ remote,
    remoteFrame (ids i) (encodeEnvelope (ids origin) frame.raw) = some remote ∧
      remoteKey remote = key) ∧
  ∀ (whole : RealtimeContext) (parts : ι → RealtimeContext) (now : Clock), Placed whole parts →
    ∀ source rx,
      (∃ i, Receives (parts i).channelRouter (fannedOut ids origin frame key now parts i).channelRouter
        frame.raw source rx) ↔
      Receives whole.channelRouter
        (whole.publishAndFanout frame.tenantId key frame now).channelRouter frame.raw source rx

theorem receives_publishAndFanout_iff {ctx : RealtimeContext} {key : ChannelKey} {frame : Frame}
    {now : Clock} {source : Source} {rx : ReceiverId} (tenant : frame.tenantId = key.tenantId) :
    Receives ctx.channelRouter (ctx.publishAndFanout frame.tenantId key frame now).channelRouter
        frame.raw source rx ↔
      (ctx.channelRouter.sent source rx).isSome = true ∧ source.matches key = true := by
  rw [RealtimeContext.channelRouter_publishAndFanout, tenant]
  exact receives_publish_iff ctx.channelRouter key frame.raw now.unixSecs

theorem receives_fannedOut_iff {ids : ι → Uuid} (distinct : Function.Injective ids) {origin : ι}
    {frame : Frame} {key : ChannelKey} (tenant : frame.tenantId = key.tenantId)
    {parts : ι → RealtimeContext} {now : Clock} {source : Source} {rx : ReceiverId} {i : ι}
    (named : i ≠ origin → remoteKey frame = key) :
    Receives (parts i).channelRouter (fannedOut ids origin frame key now parts i).channelRouter
        frame.raw source rx ↔
      ((parts i).channelRouter.sent source rx).isSome = true ∧ source.matches key = true := by
  unfold fannedOut
  by_cases here : i = origin
  · rw [if_pos here]
    exact receives_publishAndFanout_iff tenant
  · obtain rfl := named here
    rw [if_neg here, remoteFrame_other distinct here]
    exact receives_publish_iff (parts i).channelRouter (remoteKey frame) frame.raw now.unixSecs

/-- Every publish of a client is routed alike on all instances exactly when it is a PUB whose channel
name does not end in NUL, or there is no other instance. -/
theorem routes_alike_iff {ids : ι → Uuid} (distinct : Function.Injective ids) (origin : ι) {env : Env}
    {server : Server} {e : Event} {frame : Frame} {key : ChannelKey}
    (published : clientPublish env server e = some (frame, key)) :
    RoutesAlike ids origin frame key ↔
      ∀ other, other ≠ origin → frame.opcode = .publish ∧ Carried key.channelId := by
  constructor
  · rintro ⟨keys, _⟩ other apart
    obtain ⟨remote, received, same⟩ := keys other apart
    rw [remoteFrame_other distinct apart] at received
    obtain rfl := Option.some.inj received
    exact (remoteKey_eq_iff published).mp same
  · intro carried
    have named : ∀ i, i ≠ origin → remoteKey frame = key :=
      fun i apart => (remoteKey_eq_iff published).mpr (carried i apart)
    refine ⟨fun i apart => ⟨frame, remoteFrame_other distinct apart frame, named i apart⟩, ?_⟩
    intro whole parts now placed source rx
    have tenant := tenantId_of_clientPublish published
    have each : ∀ i, Receives (parts i).channelRouter
        (fannedOut ids origin frame key now parts i).channelRouter frame.raw source rx ↔
          ((parts i).channelRouter.sent source rx).isSome = true ∧ source.matches key = true :=
      fun i => receives_fannedOut_iff distinct tenant (named i)
    rw [receives_publishAndFanout_iff tenant, placed]
    simp only [each, exists_and_right]

end

section Sample
open SampleToken Sample

def greeting : HttpRequest := .broadcast tenantOne "room" "hi"

def greetingParsed : Frame := (greeting.builder "hi").frame (by decide) (by decide)

theorem clientPublish_greeting :
    clientPublish env (started false) (.http greeting epoch) = some (greetingParsed, ⟨tenantOne, "room"⟩) := by
  have text : publishedText env greeting epoch (started false).ctx = some "hi" := by decide +kernel
  have parsed : Frame.parse (greeting.builder "hi").build = .ok greetingParsed :=
    FrameBuilder.parse_build _ _
  exact clientPublish_of_http text parsed

def instanceIds (second : Bool) : Uuid := if second then sessionTwo else sessionOne

theorem instanceIds_injective : Function.Injective instanceIds := by
  intro i j same
  cases i <;> cases j
  · rfl
  · exact absurd same (by decide)
  · exact absurd same (by decide)
  · rfl

theorem routes_alike_greeting : RoutesAlike instanceIds false greetingParsed ⟨tenantOne, "room"⟩ ↔
    ∀ other, other ≠ false → greetingParsed.opcode = .publish ∧ Carried "room" :=
  routes_alike_iff instanceIds_injective false clientPublish_greeting

theorem unicast_misrouted :
    ¬ ∀ (ι : Type) (_ : DecidableEq ι) (ids : ι → Uuid), Function.Injective ids → ∀ (origin : ι) (env : Env)
      (server : Server) (e : Event) (frame : Frame) (key : ChannelKey),
      clientPublish env server e = some (frame, key) → RoutesAlike ids origin frame key := by
  intro claim
  have admitted : Admitted (signedIn false) sessionOne toBob.build.toList epoch aliceConnection toBobParsed :=
    ⟨waiting_signedIn false, parseInbound_built .webSocket (by decide) (by decide), allowed_signedIn false⟩
  have published := clientPublish_of_admitted env admitted rfl publishKey_toBobParsed
  obtain ⟨keys, _⟩ := claim Bool inferInstance instanceIds instanceIds_injective false env _ _ _ _ published
  obtain ⟨remote, received, same⟩ := keys true (by decide)
  rw [remoteFrame_other instanceIds_injective (by decide)] at received
  obtain rfl := Option.some.inj received
  exact absurd ((remoteKey_eq_iff published).mp same).1 (by decide)

end Sample

end RealtimePlatform.Proof.ClusterRouting
