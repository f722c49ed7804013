import RealtimePlatform.Backend.Publications
import RealtimePlatform.Backend.RouterRuns
import RealtimePlatform.Proof.Handling

namespace RealtimePlatform.Proof.PresenceChannels
open Library Backend UseCases RealtimeContext

inductive ContextCall where
  | announce (tenantId : TenantId) (channelId : String) (sessionId : SessionId) (event : PresenceEvent) (now : Clock)
  | router (call : RouterCall Message)

def apply (ctx : RealtimeContext) : ContextCall → RealtimeContext
  | .announce tenantId channelId sessionId event now => ctx.publishPresenceEvent tenantId channelId sessionId event now
  | .router call => { ctx with channelRouter := ctx.channelRouter.apply call }

def eventFrame (key : ChannelKey) (sessionId : SessionId) (event : PresenceEvent) : FrameBuilder where
  opcode := .presence
  tenantId := key.tenantId
  channelId := key.presenceKey.channelId
  payload := event.asStr ++ ":" ++ String.ofList sessionId.toText

def announced (key : ChannelKey) : ContextCall → Option Message
  | .announce tenantId channelId sessionId event _ =>
    if ⟨tenantId, channelId⟩ = key then some ⟨(eventFrame key sessionId event).build, key.presenceKey⟩ else none
  | .router _ => none

def Spares (rx : ReceiverId) : ContextCall → Prop
  | .router (.subscribe _ _ own) => own ≠ rx
  | .router (.subscribeWildcard _ _ own) => own ≠ rx
  | .router (.detach _ own) => own ≠ rx
  | _ => True

/-- Some SUB frame without `*` gives any session of the tenant a receiver that is sent every event of the channel. -/
def Observable (key : ChannelKey) : Prop :=
  ∃ frame : Frame, frame.opcode = .subscribe ∧ isPattern frame.channelId = false ∧
    ∀ s rx now ctx, ∃ name source,
      (subscribeChannel s rx (some key.tenantId) frame now ctx).1 = .subscribed name source ∧
      ∀ calls : List ContextCall, (∀ call ∈ calls, Spares rx call) → ∃ log,
        (calls.foldl apply (subscribeChannel s rx (some key.tenantId) frame now ctx).2).channelRouter.sent source rx =
          some log ∧ (calls.filterMap (announced key)).Sublist log

/-- Every event frame of the channel parses, and names the presence channel. -/
def Labelled (key : ChannelKey) : Prop :=
  ∀ s event, ∃ frame, Frame.parse (eventFrame key s event).build = .ok frame ∧
    frame.channelId = key.presenceKey.channelId

/-- No event frame of the one channel names what an event frame of the other names. -/
def Distinguished (key key' : ChannelKey) : Prop :=
  key ≠ key' → ∀ s event s' event' frame frame', Frame.parse (eventFrame key s event).build = .ok frame →
    Frame.parse (eventFrame key' s' event').build = .ok frame' → frame.channelId ≠ frame'.channelId

section
variable {source : Source} {rx : ReceiverId} {log : List Message} {ctx : RealtimeContext}

theorem sent_call {r : ChannelRouterService Message} {call : RouterCall Message} (spared : Spares rx (.router call))
    (attached : r.sent source rx = some log) : ∃ more, (r.apply call).sent source rx = some (log ++ more) := by
  have kept {r' : ChannelRouterService Message} (same : r'.sent source rx = r.sent source rx) :
      ∃ more, r'.sent source rx = some (log ++ more) := ⟨[], by rw [same, attached, List.append_nil]⟩
  cases call with
  | subscribe tenantId key own =>
      refine kept ?_
      simp only [ChannelRouterService.apply, ChannelRouterService.subscribe]
      split
      · rfl
      · exact (r.sent_attach key own source rx).trans (if_neg fun both => spared both.2.symm)
  | subscribeWildcard tenantId pattern own =>
      exact kept ((r.sent_subscribeWildcard ..).trans (if_neg fun both => spared both.2.symm))
  | publish tenantId key frame now =>
      rw [ChannelRouterService.apply, r.sent_publish, attached]
      split
      · exact ⟨_, rfl⟩
      · exact ⟨[], by rw [List.append_nil]⟩
  | replay tenantId key sinceUnixSecs => exact kept (r.sent_replay ..)
  | detach other own => exact kept ((r.sent_detach ..).trans (if_neg fun both => spared both.2.symm))
  | pruneEmpty key => exact kept (r.sent_pruneEmpty ..)
  | pruneDeadWildcards => exact kept (r.sent_pruneDeadWildcards ..)

theorem sent_announce (attached : ctx.channelRouter.sent source rx = some log) (key : ChannelKey) (s : SessionId)
    (event : PresenceEvent) (now : Clock) :
    (ctx.publishPresenceEvent key.tenantId key.channelId s event now).channelRouter.sent source rx =
      some (log ++ if source.matches key.presenceKey then [⟨(eventFrame key s event).build, key.presenceKey⟩]
        else []) := by
  refine (ctx.channelRouter.sent_publish key.tenantId key.presenceKey _ now.unixSecs source rx).trans ?_
  rw [attached]
  by_cases hit : source.matches key.presenceKey = true
  · rw [if_pos ⟨rfl, hit⟩, if_pos hit]
    rfl
  · rw [if_neg fun both => hit both.2, if_neg hit, List.append_nil]

theorem sent_run {key : ChannelKey} (hit : source.matches key.presenceKey = true) {calls : List ContextCall}
    (spared : ∀ call ∈ calls, Spares rx call) (attached : ctx.channelRouter.sent source rx = some log) :
    ∃ more, (calls.foldl apply ctx).channelRouter.sent source rx = some (log ++ more) ∧
      (calls.filterMap (announced key)).Sublist more := by
  induction calls generalizing ctx log with
  | nil => exact ⟨[], by rw [List.append_nil]; exact attached, .slnil⟩
  | cons call calls ih =>
      have first : ∃ more, (apply ctx call).channelRouter.sent source rx = some (log ++ more) ∧
          (announced key call).toList.Sublist more := by
        cases call with
        | announce tenantId channelId s event now =>
            refine ⟨_, sent_announce attached ⟨tenantId, channelId⟩ s event now, ?_⟩
            simp only [announced]
            split
            · rename_i same
              rw [same, if_pos hit]
              exact .refl _
            · exact List.nil_sublist _
        | router call =>
            obtain ⟨more, sent⟩ := sent_call (spared _ List.mem_cons_self) attached
            exact ⟨more, sent, List.nil_sublist _⟩
      obtain ⟨more, sent, covered⟩ := first
      obtain ⟨rest, later, coveredLater⟩ := ih (fun call member => spared call (List.mem_cons_of_mem _ member)) sent
      refine ⟨more ++ rest, by rw [← List.append_assoc]; exact later, ?_⟩
      have split : (call :: calls).filterMap (announced key) =
          (announced key call).toList ++ calls.filterMap (announced key) := by
        rw [List.filterMap_cons]
        cases announced key call <;> rfl
      rw [split]
      exact covered.append coveredLater

end

theorem length_channelId (frame : Frame) : (utf8 frame.channelId).length ≤ lenChannel := by
  obtain ⟨n, padded⟩ := padded_of_decodeText frame.channelEq
  have size : (frame.raw.slice offChannel lenChannel).length = lenChannel := frame.raw.length_slice (by decide)
  rw [padded, List.length_append] at size
  omega

theorem subscribeChannel_eq {key : ChannelKey} {frame : Frame} (own : frame.tenantId = key.tenantId)
    (exact : isPattern frame.channelId = false) (s : SessionId) (rx : ReceiverId) (now : Clock) (ctx : RealtimeContext) :
    (subscribeChannel s rx (some key.tenantId) frame now ctx).1 =
      .subscribed frame.channelId (.channel ⟨key.tenantId, frame.channelId⟩) ∧
    (subscribeChannel s rx (some key.tenantId) frame now ctx).2.channelRouter.sent
      (.channel ⟨key.tenantId, frame.channelId⟩) rx = some [] := by
  have tenant : ownTenant (some key.tenantId) frame = some key.tenantId := by simp [ownTenant, own]
  simp only [subscribeChannel, tenant, exact, Bool.false_eq_true, if_false,
    ChannelRouterService.subscribe_own ⟨key.tenantId, frame.channelId⟩]
  refine ⟨trivial, ?_⟩
  have attached : (ctx.channelRouter.attach ⟨key.tenantId, frame.channelId⟩ rx).sent
      (.channel ⟨key.tenantId, frame.channelId⟩) rx = some [] := by
    rw [ChannelRouterService.sent_attach, if_pos ⟨rfl, rfl⟩]
  have miss : ¬ (Source.channel ⟨key.tenantId, frame.channelId⟩).matches
      (ChannelKey.mk key.tenantId frame.channelId).presenceKey = true :=
    fun same => presenceKey_ne _ (of_decide_eq_true same).symm
  refine (ChannelRouterService.sent_publish (r := ctx.channelRouter.attach _ rx) key.tenantId
    (ChannelKey.mk key.tenantId frame.channelId).presenceKey _ now.unixSecs _ rx).trans ?_
  rw [if_neg fun both => miss both.2]
  exact attached

theorem length_presenceKey (key : ChannelKey) :
    (utf8 key.presenceKey.channelId).length = (utf8 key.channelId).length + 9 := by
  rw [ChannelKey.presenceKey, utf8_append, List.length_append]
  rfl

theorem trimEndNul_presenceKey (key : ChannelKey) : trimEndNul key.presenceKey.channelId = key.presenceKey.channelId := by
  rw [trimEndNul_eq_self_iff]
  intro nonempty
  have last : key.presenceKey.channelId.toList = key.channelId.toList ++ "-presenc".toList ++ ['e'] := by
    simp [ChannelKey.presenceKey, String.toList_append]
  simp [last]

theorem isPattern_presenceKey {key : ChannelKey} (exact : isPattern key.channelId = false) :
    isPattern key.presenceKey.channelId = false := by
  simp only [isPattern, ChannelKey.presenceKey, String.toList_append] at exact ⊢
  simpa using exact

theorem eq_presenceKey_of_sent {key : ChannelKey} (observable : Observable key) :
    ∃ frame : Frame, frame.channelId = key.presenceKey.channelId := by
  obtain ⟨frame, -, exact, every⟩ := observable
  refine ⟨frame, ?_⟩
  let rx : ReceiverId := ⟨Sample.sessionOne, 0⟩
  obtain ⟨name, source, answer, gets⟩ := every Sample.sessionOne rx Sample.epoch (Sample.started false).ctx
  have own : frame.tenantId = key.tenantId := by
    by_contra other
    have none : ownTenant (some key.tenantId) frame = none := by simp [ownTenant, Ne.symm other]
    simp only [subscribeChannel, none] at answer
    cases answer
  obtain ⟨subscribed, attached⟩ := subscribeChannel_eq own exact Sample.sessionOne rx Sample.epoch (Sample.started false).ctx
  cases answer.symm.trans subscribed
  obtain ⟨log, sent, covered⟩ := gets [.announce key.tenantId key.channelId Sample.sessionOne .join Sample.epoch]
    (by simp [Spares])
  have after := (sent_announce attached key Sample.sessionOne .join Sample.epoch).symm.trans sent
  by_contra apart
  have miss : ¬ (Source.channel ⟨key.tenantId, frame.channelId⟩).matches key.presenceKey = true := by
    intro hit
    exact apart (congrArg ChannelKey.channelId (of_decide_eq_true hit))
  rw [if_neg miss] at after
  rw [← Option.some.inj after] at covered
  simp [announced] at covered

theorem observable_iff {key : ChannelKey} (exact : isPattern key.channelId = false) :
    Observable key ↔ (utf8 key.channelId).length ≤ 15 := by
  constructor
  · intro observable
    obtain ⟨frame, same⟩ := eq_presenceKey_of_sent observable
    have fits := length_channelId frame
    rw [same, length_presenceKey, lenChannel] at fits
    omega
  · intro short
    have fits : (utf8 key.presenceKey.channelId).length ≤ lenChannel := by
      rw [length_presenceKey, lenChannel]
      omega
    let sub : FrameBuilder := { opcode := .subscribe, tenantId := key.tenantId, channelId := key.presenceKey.channelId }
    have named : (sub.frame fits (Nat.zero_le _)).channelId = key.presenceKey.channelId := trimEndNul_presenceKey key
    have plain : isPattern (sub.frame fits (Nat.zero_le _)).channelId = false := by
      rw [named]
      exact isPattern_presenceKey exact
    refine ⟨sub.frame fits (Nat.zero_le _), rfl, plain, fun s rx now ctx => ?_⟩
    have own : (sub.frame fits (Nat.zero_le _)).tenantId = key.tenantId := rfl
    obtain ⟨subscribed, attached⟩ := subscribeChannel_eq own plain s rx now ctx
    refine ⟨_, _, subscribed, fun calls spared => ?_⟩
    have hit : (Source.channel ⟨key.tenantId, (sub.frame fits (Nat.zero_le _)).channelId⟩).matches key.presenceKey =
        true := by
      rw [named]
      exact decide_eq_true rfl
    obtain ⟨more, sent, covered⟩ := sent_run hit spared attached
    exact ⟨[] ++ more, sent, covered⟩

theorem parse_eventFrame (key : ChannelKey) (s : SessionId) (event : PresenceEvent) :
    Frame.parse (eventFrame key s event).build = .ok (eventFrame key s event).built :=
  Frame.parse_eq_ok_iff.mpr (FrameBuilder.raw_built _)

theorem channelId_built (b : FrameBuilder) :
    b.built.channelId = trimEndNul (String.ofList (Utf16.fitting lenChannel b.channelId.toList)) := rfl

theorem labelled_iff {key : ChannelKey} : Labelled key ↔ (utf8 key.channelId).length ≤ 15 := by
  constructor
  · intro labelled
    obtain ⟨frame, parsed, same⟩ := labelled Sample.sessionOne .join
    have fits := length_channelId frame
    rw [same, length_presenceKey, lenChannel] at fits
    omega
  · intro short s event
    refine ⟨_, parse_eventFrame key s event, ?_⟩
    have fits : Utf16.utf8Length (eventFrame key s event).channelId.toList ≤ lenChannel := by
      rw [Utf16.utf8Length, ← utf8_ofList, String.ofList_toList]
      refine (length_presenceKey key).le.trans ?_
      rw [lenChannel]
      omega
    rw [channelId_built, Utf16.fitting_eq_self fits, String.ofList_toList]
    exact trimEndNul_presenceKey key

theorem distinguished_of_labelled {key key' : ChannelKey} (tenant : key.tenantId = key'.tenantId)
    (labelled : Labelled key) (labelled' : Labelled key') : Distinguished key key' := by
  intro apart s event s' event' frame frame' parsed parsed' same
  obtain ⟨other, read, named⟩ := labelled s event
  obtain ⟨other', read', named'⟩ := labelled' s' event'
  cases parsed.symm.trans read
  cases parsed'.symm.trans read'
  have texts : key.presenceKey.channelId = key'.presenceKey.channelId := named.symm.trans (same.trans named')
  simp only [ChannelKey.presenceKey] at texts
  have names := congrArg String.toList texts
  rw [String.toList_append, String.toList_append] at names
  apply apart
  cases key
  cases key'
  simp only [ChannelKey.mk.injEq] at tenant names ⊢
  exact ⟨tenant, String.toList_inj.mp (List.append_cancel_right names)⟩

/-- The presence of two channels can be followed and told apart exactly when both names leave room for the suffix. -/
theorem presence_channels_iff (tenantId : TenantId) (c c' : String) (exact : isPattern c = false)
    (exact' : isPattern c' = false) :
    (Observable ⟨tenantId, c⟩ ∧ Labelled ⟨tenantId, c⟩) ∧ (Observable ⟨tenantId, c'⟩ ∧ Labelled ⟨tenantId, c'⟩) ∧
      Distinguished ⟨tenantId, c⟩ ⟨tenantId, c'⟩ ↔ (utf8 c).length ≤ 15 ∧ (utf8 c').length ≤ 15 := by
  have seen : Observable ⟨tenantId, c⟩ ↔ (utf8 c).length ≤ 15 := observable_iff exact
  have seen' : Observable ⟨tenantId, c'⟩ ↔ (utf8 c').length ≤ 15 := observable_iff exact'
  constructor
  · rintro ⟨⟨-, labelled⟩, ⟨-, labelled'⟩, -⟩
    exact ⟨labelled_iff.mp labelled, labelled_iff.mp labelled'⟩
  · rintro ⟨short, short'⟩
    refine ⟨⟨seen.mpr short, labelled_iff.mpr short⟩, ⟨seen'.mpr short', labelled_iff.mpr short'⟩, ?_⟩
    exact distinguished_of_labelled rfl (labelled_iff.mpr short) (labelled_iff.mpr short')

open SampleToken in
theorem presence_of_room_and_hall :
    (Observable ⟨tenantOne, "room"⟩ ∧ Labelled ⟨tenantOne, "room"⟩) ∧
      (Observable ⟨tenantOne, "hall"⟩ ∧ Labelled ⟨tenantOne, "hall"⟩) ∧
      Distinguished ⟨tenantOne, "room"⟩ ⟨tenantOne, "hall"⟩ :=
  (presence_channels_iff tenantOne "room" "hall" (by decide) (by decide)).mpr ⟨by decide, by decide⟩

theorem sixteen_bytes_unobservable : isPattern "conference-hall1" = false ∧
    (utf8 "conference-hall1").length = 16 ∧ ¬ Observable ⟨SampleToken.tenantOne, "conference-hall1"⟩ ∧
    ¬ Labelled ⟨SampleToken.tenantOne, "conference-hall1"⟩ ∧
    ¬ Distinguished ⟨SampleToken.tenantOne, "conference-hall1"⟩
      ⟨SampleToken.tenantOne, "conference-hall1-presenc"⟩ := by
  refine ⟨by decide, by decide, ?_, ?_, ?_⟩
  · exact fun observable => absurd ((observable_iff (by decide)).mp observable) (by decide)
  · exact fun labelled => absurd (labelled_iff.mp labelled) (by decide)
  · intro distinguished
    refine distinguished (by decide) Sample.sessionOne .join Sample.sessionOne .join _ _ (parse_eventFrame _ _ _)
      (parse_eventFrame _ _ _) ?_
    have cut : Utf16.fitting lenChannel "conference-hall1-presence".toList =
        Utf16.fitting lenChannel "conference-hall1-presenc-presence".toList := by decide
    exact congrArg (fun text => trimEndNul (String.ofList text)) cut

end RealtimePlatform.Proof.PresenceChannels
