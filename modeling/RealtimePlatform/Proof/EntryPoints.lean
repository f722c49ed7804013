import RealtimePlatform.Backend.Cluster
import RealtimePlatform.Proof.Handling

namespace RealtimePlatform.Proof.EntryPoints
open Library Backend UseCases Server RealtimeContext

/-- What the caller of an HTTP request is told. -/
def answer (env : Env) (request : HttpRequest) (now : Clock) (ctx : RealtimeContext) : Except PublishError Unit :=
  match request with
  | .message dto token => (publishMessageHttp env.codec dto token now ctx).1
  | .template tenantId channelId token rendered =>
    (publishTemplateHttp env.codec tenantId channelId token rendered now ctx).1
  | .broadcast tenantId channelId payload => (broadcastMessage tenantId channelId payload now ctx).1

/-- Two contexts with the same channels, journal and histories, and the same frames for the other instances. -/
def SameEffect (ctx ctx' : RealtimeContext) : Prop :=
  ctx.channelRouter = ctx'.channelRouter ∧ ctx.pushFallback.cluster = ctx'.pushFallback.cluster

section
variable {env : Env} {request : HttpRequest} {now : Clock} {ctx : RealtimeContext} {payload : String}
  {tenantId : TenantId}

theorem publishedText_of_ok (accepted : answer env request now ctx = .ok ()) (text : request.text = some payload) :
    publishedText env request now ctx = some payload := by
  have passes : (request.admissible env.codec ctx.auth now.unixSecs &&
      (ctx.rateLimiter.checkTenant request.tenantId now.instant).1) = true := by
    cases request with
    | message dto token =>
        simp only [answer, publishMessageHttp] at accepted
        split at accepted
        · cases accepted
        split at accepted
        · cases accepted
        split at accepted
        · cases accepted
        rename_i named sized _ claims valid
        split at accepted
        · cases accepted
        rename_i allowed
        have charged : (ctx.rateLimiter.checkTenant dto.tenantId now.instant).1 = true := by simpa using allowed
        simp only [HttpRequest.admissible, HttpRequest.fits, valid, Bool.and_eq_true, decide_eq_true_eq]
        exact ⟨⟨⟨Nat.not_lt.mp named, Nat.not_lt.mp sized⟩, rfl⟩, charged⟩
    | template tenantId channelId token rendered =>
        simp only [answer, publishTemplateHttp] at accepted
        split at accepted
        · cases accepted
        split at accepted
        · cases accepted
        rename_i named _ claims valid
        split at accepted
        · cases accepted
        rename_i allowed
        have charged : (ctx.rateLimiter.checkTenant tenantId now.instant).1 = true := by simpa using allowed
        simp only [HttpRequest.admissible, valid, Bool.and_eq_true, decide_eq_true_eq]
        exact ⟨⟨Nat.not_lt.mp named, rfl⟩, charged⟩
    | broadcast tenantId channelId text =>
        simp only [answer, broadcastMessage] at accepted
        split at accepted
        · cases accepted
        split at accepted
        · cases accepted
        rename_i named sized
        split at accepted
        · cases accepted
        rename_i allowed
        have charged : (ctx.rateLimiter.checkTenant tenantId now.instant).1 = true := by simpa using allowed
        simp only [HttpRequest.admissible, HttpRequest.fits, Bool.and_eq_true, decide_eq_true_eq]
        exact ⟨⟨Nat.not_lt.mp named, Nat.not_lt.mp sized⟩, charged⟩
  rw [publishedText, if_pos passes, text]

theorem cluster_publishAndFanout {key : ChannelKey} {frame : Frame} (own : tenantId = key.tenantId) :
    (ctx.publishAndFanout tenantId key frame now).pushFallback.cluster =
      ctx.pushFallback.cluster.map (broadcast frame.raw) := by
  simp only [publishAndFanout, ChannelRouterService.publish, own, ne_eq, not_true_eq_false, if_false]
  split <;> rfl

theorem httpStep_of_parsed {frame : Frame} (text : publishedText env request now ctx = some payload)
    (parsed : Frame.parse (request.builder payload).build = .ok frame) :
    SameEffect (httpStep env request now ctx)
      (ctx.publishAndFanout request.tenantId ⟨request.tenantId, request.channelId⟩ frame now) := by
  unfold HttpRequest.builder at parsed
  rw [httpStep_of_text text, publishBuilt]
  simp only [parsed]
  have own : request.tenantId = (ChannelKey.mk request.tenantId request.channelId).tenantId := rfl
  constructor
  · rw [channelRouter_publishAndFanout, channelRouter_publishAndFanout]
    rfl
  · rw [cluster_publishAndFanout own, cluster_publishAndFanout own]
    rfl

theorem publishMessage_eq {frame : Frame} (own : frame.tenantId = tenantId) :
    (publishMessage (some tenantId) frame now ctx).2 =
      ctx.publishAndFanout tenantId ⟨tenantId, frame.channelId⟩ frame now := by
  have tenant : ownTenant (some tenantId) frame = some tenantId := by simp [ownTenant, own]
  simp only [publishMessage, tenant]

theorem sameEffect_iff {frame : Frame} {name name' : String} :
    SameEffect (ctx.publishAndFanout tenantId ⟨tenantId, name⟩ frame now)
      (ctx.publishAndFanout tenantId ⟨tenantId, name'⟩ frame now) ↔ name = name' := by
  constructor
  · rintro ⟨router, -⟩
    rw [channelRouter_publishAndFanout, channelRouter_publishAndFanout] at router
    have journal := congrArg ChannelRouterService.journal router
    simp only [ChannelRouterService.publish, ne_eq, not_true_eq_false, if_false, List.append_cancel_left_eq,
      List.cons.injEq, Prod.mk.injEq, ChannelKey.mk.injEq] at journal
    exact journal.1.1.2
  · rintro rfl
    exact ⟨rfl, rfl⟩

/-- An accepted request over HTTP does to the router and the bus what the PUB frame with its texts does exactly when
its channel name does not end in NUL. -/
theorem entry_points_agree_iff (env : Env) (request : HttpRequest) (now : Clock) (ctx : RealtimeContext)
    (payload : String) (frame : Frame) (accepted : answer env request now ctx = .ok ())
    (text : request.text = some payload) (parsed : Frame.parse (request.builder payload).build = .ok frame) :
    SameEffect (httpStep env request now ctx) (publishMessage (some request.tenantId) frame now ctx).2 ↔
      trimEndNul request.channelId = request.channelId := by
  have published := publishedText_of_ok accepted text
  obtain ⟨channelFits, payloadFits⟩ := fits_of_publishedText published
  obtain ⟨-, remote⟩ := remoteKey_http channelFits payloadFits parsed
  have named : frame.channelId = trimEndNul request.channelId := by
    obtain rfl := Except.ok.inj (parsed.symm.trans (FrameBuilder.parse_build channelFits payloadFits))
    rfl
  have own : frame.tenantId = request.tenantId := by
    obtain rfl := Except.ok.inj (parsed.symm.trans (FrameBuilder.parse_build channelFits payloadFits))
    rfl
  have http := httpStep_of_parsed published parsed
  rw [publishMessage_eq own, named, eq_comm, ← sameEffect_iff]
  exact ⟨fun same => ⟨http.1.symm.trans same.1, http.2.symm.trans same.2⟩,
    fun same => ⟨http.1.trans same.1, http.2.trans same.2⟩⟩

end

section
open SampleToken Sample

theorem answer_broadcast {channelId text : String} (named : (utf8 channelId).length ≤ 24)
    (sized : (utf8 text).length ≤ 211) :
    answer env (.broadcast tenantOne channelId text) epoch (started true).ctx = .ok () := by
  have allowed : ((started true).ctx.rateLimiter.checkTenant tenantOne epoch.instant).1 = true := by decide +kernel
  simp [answer, broadcastMessage, allowed, maxChannelIdBytes, maxPayloadBytes, Nat.not_lt.mpr named,
    Nat.not_lt.mpr sized]

def paddedRoom : HttpRequest := .broadcast tenantOne "room\x00" "hi"

def paddedRoomParsed : Frame := (paddedRoom.builder "hi").frame (by decide) (by decide)

theorem padded_name_diverges : answer env paddedRoom epoch (started true).ctx = .ok () ∧
    paddedRoom.text = some "hi" ∧ Frame.parse (paddedRoom.builder "hi").build = .ok paddedRoomParsed ∧
    ¬ SameEffect (httpStep env paddedRoom epoch (started true).ctx)
      (publishMessage (some tenantOne) paddedRoomParsed epoch (started true).ctx).2 := by
  have accepted : answer env paddedRoom epoch (started true).ctx = .ok () :=
    answer_broadcast (by decide) (by decide)
  have parsed : Frame.parse (paddedRoom.builder "hi").build = .ok paddedRoomParsed :=
    FrameBuilder.parse_build (by decide) (by decide)
  refine ⟨accepted, rfl, parsed, fun same => ?_⟩
  have http : SameEffect _ _ := httpStep_of_parsed (publishedText_of_ok accepted rfl) parsed
  have socket : (publishMessage (some tenantOne) paddedRoomParsed epoch (started true).ctx).2 = _ := publishMessage_eq rfl
  rw [socket] at same
  have names := sameEffect_iff.mp ⟨http.1.symm.trans same.1, http.2.symm.trans same.2⟩
  exact absurd names (by decide)

def plainRoom : HttpRequest := .broadcast tenantOne "room" "hi"

theorem plain_name_agrees : SameEffect (httpStep env plainRoom epoch (started true).ctx)
    (publishMessage (some tenantOne) ((plainRoom.builder "hi").frame (by decide) (by decide)) epoch
      (started true).ctx).2 :=
  (entry_points_agree_iff env plainRoom epoch (started true).ctx "hi"
    ((plainRoom.builder "hi").frame (by decide) (by decide)) (answer_broadcast (by decide) (by decide)) rfl
    (FrameBuilder.parse_build (by decide) (by decide))).mpr (by decide)

end

end RealtimePlatform.Proof.EntryPoints
