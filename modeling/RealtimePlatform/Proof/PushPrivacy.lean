import RealtimePlatform.Backend.PushSubscriptions
import RealtimePlatform.Proof.Handling

namespace RealtimePlatform.Proof.PushPrivacy
open Library Backend Backend.Server Backend.UseCases

/-- A stored subscription lists a name or a pattern of it. -/
def Wanted (channelId : String) (sub : PushSubscription) : Prop :=
  ∃ pattern ∈ sub.channels, pattern = channelId ∨ globMatch pattern channelId = true

theorem wants_iff {channelId : String} {sub : PushSubscription} :
    PushSubscriptionRepository.wants channelId sub = true ↔ Wanted channelId sub := by
  simp [PushSubscriptionRepository.wants, Wanted, List.any_eq_true]

section
variable {repo : PushSubscriptionRepository} {lookup : WebPushLookup} {job : WebPushJob}

theorem mem_findMatching {tenantId : TenantId} {channelId : String} {sub : PushSubscription} :
    sub ∈ repo.findMatching tenantId channelId ↔
      ∃ row ∈ repo.rows, row.subscription = sub ∧ sub.tenantId = tenantId ∧ Wanted channelId sub := by
  unfold PushSubscriptionRepository.findMatching PushSubscriptionRepository.rowsOf
  rw [List.mem_filter, wants_iff, List.mem_map]
  constructor
  · rintro ⟨⟨row, member, rfl⟩, wanted⟩
    obtain ⟨stored, tenant⟩ := List.mem_filter.mp member
    exact ⟨row, stored, rfl, of_decide_eq_true tenant, wanted⟩
  · rintro ⟨row, stored, rfl, tenant, wanted⟩
    exact ⟨⟨row, List.mem_filter.mpr ⟨stored, decide_eq_true tenant⟩, rfl⟩, wanted⟩

theorem job_eq_some (submitted : lookup.job repo = some job) :
    job = ⟨lookup.tenantId, lookup.channelId, lookup.payload,
      (repo.findMatching lookup.tenantId lookup.channelId).map PushSubscription.toWebPush⟩ := by
  unfold WebPushLookup.job at submitted
  dsimp only at submitted
  split at submitted
  · cases submitted
  · exact (Option.some.inj submitted).symm

theorem distinct_targets (submitted : lookup.job repo = some job) :
    (job.subscriptions.map (·.endpoint)).Nodup := by
  rw [job_eq_some submitted, List.map_map]
  have endpoints : (WebPushSubscription.endpoint ∘ PushSubscription.toWebPush) =
      PushSubscription.endpoint := rfl
  rw [endpoints]
  refine repo.distinct.sublist ?_
  have rows : repo.rows.map (·.subscription.endpoint) =
      (repo.rows.map (·.subscription)).map (·.endpoint) := by
    rw [List.map_map]
    rfl
  rw [rows]
  exact (List.filter_sublist.trans (List.filter_sublist.map _)).map _

end

section
variable (ctx : RealtimeContext) (frame : Frame) (now : Clock)

theorem webPush_publishAndFanout (tenantId : TenantId) (key : ChannelKey) :
    ∃ spawned, (spawned = [] ∨ spawned = [⟨tenantId, key.channelId, frame.payload⟩]) ∧
      (ctx.publishAndFanout tenantId key frame now).pushFallback.webPush =
        ctx.pushFallback.webPush.map (· ++ spawned) := by
  have idle : ctx.pushFallback.webPush = ctx.pushFallback.webPush.map (· ++ []) := by simp
  unfold RealtimeContext.publishAndFanout
  split
  · exact ⟨[], Or.inl rfl, idle⟩
  · dsimp only
    split
    · exact ⟨_, Or.inr rfl, rfl⟩
    · exact ⟨[], Or.inl rfl, idle⟩

theorem webPush_unicastMessage (tenant : Option TenantId) :
    ∃ spawned, (spawned = [] ∨ tenant = some frame.tenantId ∧
        spawned = [⟨frame.tenantId, unicastInboxChannel frame.channelId, frame.payload⟩]) ∧
      (unicastMessage tenant frame now ctx).2.pushFallback.webPush =
        ctx.pushFallback.webPush.map (· ++ spawned) := by
  unfold unicastMessage
  split
  · exact ⟨[], Or.inl rfl, by simp⟩
  · rename_i tenantId own
    obtain ⟨signedIn, rfl⟩ := ownTenant_eq_some own
    obtain ⟨spawned, shape, queue⟩ := webPush_publishAndFanout ctx frame now frame.tenantId
      ⟨frame.tenantId, unicastInboxChannel frame.channelId⟩
    refine ⟨spawned, ?_, queue⟩
    rcases shape with none | one
    · exact Or.inl none
    · exact Or.inr ⟨signedIn, one⟩

end

/-- A UNICAST frame to `frame.channelId` submits at most one Web Push job, whatever is stored when its
lookup runs, for the subscriptions of the sender's tenant that list the inbox or a pattern of it. -/
theorem unicast_pushed_to_wanting (codec : TokenCodec) (redis : RedisStreams Message) (s : SessionId)
    (rx : ReceiverId) (tenant : Option TenantId) (frame : Frame) (now : Clock) (ctx : RealtimeContext)
    (unicast : frame.opcode = .unicast) :
    ∃ spawned : List WebPushLookup, spawned.length ≤ 1 ∧
      (dispatchFrame codec redis s rx tenant frame now ctx).2.2.pushFallback.webPush =
        ctx.pushFallback.webPush.map (· ++ spawned) ∧
      ∀ lookup ∈ spawned, ∀ repo job, lookup.job repo = some job →
        tenant = some frame.tenantId ∧ job.tenantId = frame.tenantId ∧ job.payload = frame.payload ∧
        (job.subscriptions.map (·.endpoint)).Nodup ∧
        ∀ target, target ∈ job.subscriptions ↔
          ∃ row ∈ repo.rows, row.subscription.toWebPush = target ∧
            row.subscription.tenantId = frame.tenantId ∧
            Wanted (unicastInboxChannel frame.channelId) row.subscription := by
  obtain ⟨spawned, shape, queue⟩ := webPush_unicastMessage ctx frame now tenant
  refine ⟨spawned, ?_, ?_, ?_⟩
  · rcases shape with rfl | ⟨_, rfl⟩ <;> simp
  · simpa [dispatchFrame, executeInner, unicast] using queue
  · intro lookup member repo job submitted
    rcases shape with rfl | ⟨signedIn, rfl⟩
    · cases member
    · obtain rfl := List.mem_singleton.mp member
      refine ⟨signedIn, ?_, ?_, distinct_targets submitted, fun target => ?_⟩
      · rw [job_eq_some submitted]
      · rw [job_eq_some submitted]
      · rw [job_eq_some submitted, List.mem_map]
        constructor
        · rintro ⟨sub, found, rfl⟩
          obtain ⟨row, stored, rfl, own, wanted⟩ := mem_findMatching.mp found
          exact ⟨row, stored, rfl, own, wanted⟩
        · rintro ⟨row, stored, rfl, own, wanted⟩
          exact ⟨_, mem_findMatching.mpr ⟨row, stored, rfl, own, wanted⟩, rfl⟩

open SampleToken Sample

def devices : PushSubscriptionRepository where
  rows := [⟨⟨"https://a", tenantOne, "a", "p256dh", "auth", ["user:a"], none⟩, 0⟩,
    ⟨⟨"https://b", tenantOne, "b", "p256dh", "auth", ["*"], none⟩, 1⟩]
  distinct := by decide

def toAlice : FrameBuilder :=
  { opcode := .unicast, tenantId := tenantOne, channelId := "a", payload := "hi" }

def toAliceParsed : Frame := toAlice.frame (by decide) (by decide)

def away : Server := start {} 30000000000 false true

theorem unicast_pushed_to_bob : ¬ ∀ (codec : TokenCodec) (redis : RedisStreams Message) (s : SessionId)
    (rx : ReceiverId) (tenant : Option TenantId) (frame : Frame) (now : Clock) (ctx : RealtimeContext)
    (queue spawned : List WebPushLookup), frame.opcode = .unicast → ctx.pushFallback.webPush = some queue →
    (dispatchFrame codec redis s rx tenant frame now ctx).2.2.pushFallback.webPush =
      some (queue ++ spawned) →
    ∀ lookup ∈ spawned, ∀ repo job, lookup.job repo = some job → ∀ target ∈ job.subscriptions,
      ∃ row ∈ repo.rows, row.subscription.toWebPush = target ∧ row.subscription.sub = frame.channelId := by
  intro onlyToTarget
  have spawned : (dispatchFrame codec (fun _ => []) sessionOne ⟨sessionOne, 0⟩ (some tenantOne)
      toAliceParsed epoch away.ctx).2.2.pushFallback.webPush =
        some ([] ++ [⟨tenantOne, "user:a", "hi"⟩]) := by rfl
  have submitted : (⟨tenantOne, "user:a", "hi"⟩ : WebPushLookup).job devices =
      some ⟨tenantOne, "user:a", "hi", devices.rows.map (·.subscription.toWebPush)⟩ := by decide
  obtain ⟨row, stored, device, own⟩ := onlyToTarget codec _ _ _ _ toAliceParsed _ _ _ _ rfl rfl spawned _
    (by simp) devices _ submitted ⟨"https://b", "p256dh", "auth"⟩ (by decide)
  have addressed : toAliceParsed.channelId = "a" := by decide
  rw [addressed] at own
  revert row
  decide

theorem unicast_pushed_to_wanting_devices : ∃ spawned : List WebPushLookup, spawned.length ≤ 1 ∧
    (dispatchFrame codec (fun _ => []) sessionOne ⟨sessionOne, 0⟩ (some tenantOne) toAliceParsed epoch
      away.ctx).2.2.pushFallback.webPush = away.ctx.pushFallback.webPush.map (· ++ spawned) ∧
    ∀ lookup ∈ spawned, ∀ repo job, lookup.job repo = some job →
      some tenantOne = some toAliceParsed.tenantId ∧ job.tenantId = toAliceParsed.tenantId ∧
      job.payload = toAliceParsed.payload ∧ (job.subscriptions.map (·.endpoint)).Nodup ∧
      ∀ target, target ∈ job.subscriptions ↔
        ∃ row ∈ repo.rows, row.subscription.toWebPush = target ∧
          row.subscription.tenantId = toAliceParsed.tenantId ∧
          Wanted (unicastInboxChannel toAliceParsed.channelId) row.subscription :=
  unicast_pushed_to_wanting codec (fun _ => []) sessionOne ⟨sessionOne, 0⟩ (some tenantOne) toAliceParsed
    epoch away.ctx rfl

end RealtimePlatform.Proof.PushPrivacy
