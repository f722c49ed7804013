import RealtimePlatform.Backend.Pruning
import RealtimePlatform.Proof.PresenceBalance

namespace RealtimePlatform.Proof.SilentChannels
open Library Backend Backend.Server Backend.UseCases

def Settled (server : Server) : Prop :=
  ∀ s c, server.connections s = some c → c.isOpen = false ∧ c.tasks = ∅

/-- Where the run has settled no channel has an entry without a history. -/
def Disappear (env : Env) (first : Server) (rs : List Raced) : Prop :=
  ∀ ds server, ds <+: rs → (raced env).run first ds = some server → Settled server →
    ∀ key state, AList.lookup key server.ctx.channelRouter.channels = some state → state.history.isEmpty = false

def Subscribed (env : Env) (first : Server) (rs : List Raced) (key : ChannelKey) : Prop :=
  (raced env).SinceAt (fun server r => Attaches env server r.event key) (fun server r => server.Cleared env r key)
    first rs

def Told (env : Env) (first : Server) (rs : List Raced) (key : ChannelKey) : Prop :=
  (raced env).Happened (fun server r => server.Announced r.event key) first rs

/-- Where the run has settled, each channel that was subscribed and not cleared since has announcements. -/
def AllCleared (env : Env) (first : Server) (rs : List Raced) : Prop :=
  ∀ ds server, ds <+: rs → (raced env).run first ds = some server → Settled server →
    ∀ key, Subscribed env first ds key → Told env first ds key

structure Marks (env : Env) (first : Server) (rs : List Raced) (server : Server) : Prop where
  registered : Registered server.ctx.presence server.users
  listed : ∀ key, Listed server.ctx.presence key → Told env first rs key.presenceKey
  told : ∀ key, server.ctx.channelRouter.hasHistory key = some true ↔ Told env first rs key
  silent : ∀ key, server.ctx.channelRouter.hasHistory key = some false ↔
    Subscribed env first rs key ∧ ¬ Told env first rs key

section
variable {env : Env} {first server server' : Server} {rs : List Raced} {r : Raced} {key : ChannelKey}

theorem told_concat (reached : (raced env).run first rs = some server) :
    Told env first (rs ++ [r]) key ↔ Told env first rs key ∨ server.Announced r.event key :=
  Step.happened_concat_iff reached

theorem subscribed_concat (reached : (raced env).run first rs = some server) :
    Subscribed env first (rs ++ [r]) key ↔ Attaches env server r.event key ∨
      Subscribed env first rs key ∧ ¬ server.Cleared env r key :=
  Step.sinceAt_concat reached

theorem Marks.next (marks : Marks env first rs server) (reached : (raced env).run first rs = some server)
    (silent : Silent env server r.event) (taken : raced env server r = some server') :
    Marks env first (rs ++ [r]) server' := by
  have longer : ∀ key, Told env first rs key → Told env first (rs ++ [r]) key :=
    fun key told => (told_concat reached).mpr (Or.inl told)
  have same : ∀ key, ¬ server.Announced r.event key → (Told env first (rs ++ [r]) key ↔ Told env first rs key) :=
    fun key untold => (told_concat reached).trans (or_iff_left untold)
  have marked : ∀ key, Marked env server r key (server.ctx.channelRouter.hasHistory key)
      (server'.ctx.channelRouter.hasHistory key) := fun key => marked_of_raced marks.registered silent taken
  refine ⟨registered_raced marks.registered taken, fun key listed => ?_, fun key => ?_, fun key => ?_⟩
  · rcases listed_raced marks.registered taken listed with before | announced
    · exact longer _ (marks.listed key before)
    · exact (told_concat reached).mpr (Or.inr announced)
  · have before := marks.told key
    have change := marked key
    generalize server.ctx.channelRouter.hasHistory key = x, server'.ctx.channelRouter.hasHistory key = y at before change
    cases change with
    | told spoken =>
        refine iff_of_true rfl ?_
        rcases spoken with announced | ⟨own, leaves, rfl⟩
        · exact (told_concat reached).mpr (Or.inr announced)
        · exact longer _ (marks.listed own (listed_of_leaves leaves))
    | attached attaches untold =>
        rw [same key untold, ← before]
        rcases x with _ | _ | _ <;> simp
    | cleared cleared unattached untold =>
        rw [same key untold, ← before]
        rcases x with _ | _ | _ <;> simp [Option.filter]
    | kept _ _ untold => rw [same key untold, before]
  · have before := marks.silent key
    have spoken := marks.told key
    have change := marked key
    generalize server.ctx.channelRouter.hasHistory key = x, server'.ctx.channelRouter.hasHistory key = y
      at before spoken change
    cases change with
    | told spoken =>
        refine iff_of_false (by simp) fun both => both.2 ?_
        rcases spoken with announced | ⟨own, leaves, rfl⟩
        · exact (told_concat reached).mpr (Or.inr announced)
        · exact longer _ (marks.listed own (listed_of_leaves leaves))
    | attached attaches untold =>
        rw [same key untold, subscribed_concat reached, ← spoken]
        rcases x with _ | _ | _ <;> simp [attaches]
    | cleared cleared unattached untold =>
        rw [same key untold, subscribed_concat reached]
        refine iff_of_false (by rcases x with _ | _ | _ <;> simp [Option.filter]) ?_
        rintro ⟨attaches | ⟨_, lasting⟩, _⟩
        · exact unattached attaches
        · exact lasting cleared
    | kept stays unattached untold =>
        rw [same key untold, subscribed_concat reached, before, or_iff_right unattached, and_iff_left stays]

theorem marks_start (config : RateLimitConfig) (timeout : Nat) (hasRedis hasWebPush : Bool) :
    Marks env (start config timeout hasRedis hasWebPush) [] (start config timeout hasRedis hasWebPush) := by
  have absent : ∀ key, (start config timeout hasRedis hasWebPush).ctx.channelRouter.hasHistory key = none := by
    intro key
    cases hasRedis <;> rfl
  have untold : ∀ first key, ¬ Told env first [] key := by
    rintro first key ⟨ds, r, t, short, _⟩
    simp at short
  refine ⟨registered_start config timeout hasRedis hasWebPush, ?_, fun key => ?_, fun key => ?_⟩
  · rintro key ⟨s, entry, found, _⟩
    cases found
  · rw [absent]
    exact iff_of_false (by simp) (untold _ key)
  · rw [absent]
    exact iff_of_false (by simp) fun both => Step.not_sinceAt_nil _ _ _ _ both.1

theorem marks_run {config : RateLimitConfig} {timeout : Nat} {hasRedis hasWebPush : Bool}
    (reached : (raced env).run (start config timeout hasRedis hasWebPush) rs = some server)
    (silent : (raced env).Meets (fun server r => Silent env server r.event)
      (start config timeout hasRedis hasWebPush) rs) :
    Marks env (start config timeout hasRedis hasWebPush) rs server := by
  revert silent
  refine Step.run_induction (fun rs server => (raced env).Meets (fun server r => Silent env server r.event)
    (start config timeout hasRedis hasWebPush) rs → Marks env (start config timeout hasRedis hasWebPush) rs server)
    (fun _ => marks_start config timeout hasRedis hasWebPush) ?_ reached
  intro rs server r server' reached marks taken silent
  obtain ⟨earlier, now⟩ := (Step.meets_concat reached).mp silent
  exact (marks earlier).next reached now taken

end

/-- In a run in which nothing is published, silent channels disappear exactly when each that was subscribed
is cleared after its last subscription: a session that lists it departs when no receiver is left. -/
theorem disappear_iff (env : Env) (config : RateLimitConfig) (timeout : Nat) (hasRedis hasWebPush : Bool)
    (rs : List Raced) (silent : (raced env).Meets (fun server r => Silent env server r.event)
      (start config timeout hasRedis hasWebPush) rs) :
    Disappear env (start config timeout hasRedis hasWebPush) rs ↔
      AllCleared env (start config timeout hasRedis hasWebPush) rs := by
  have marks : ∀ ds server, ds <+: rs → (raced env).run (start config timeout hasRedis hasWebPush) ds = some server →
      Marks env (start config timeout hasRedis hasWebPush) ds server := by
    rintro ds server ⟨later, rfl⟩ reached
    exact marks_run reached ((Step.meets_append reached).mp silent).1
  constructor
  · intro disappear ds server short reached settled key subscribed
    by_contra untold
    have silent := ((marks ds server short reached).silent key).mpr ⟨subscribed, untold⟩
    obtain ⟨state, found, empty⟩ := Option.map_eq_some_iff.mp silent
    rw [disappear ds server short reached settled key state found] at empty
    cases empty
  · intro cleared ds server short reached settled key state found
    by_contra empty
    have silent : server.ctx.channelRouter.hasHistory key = some false := by
      rw [ChannelRouterService.hasHistory, found, Option.map_some, Bool.eq_true_of_not_eq_false empty]
      rfl
    obtain ⟨subscribed, untold⟩ := ((marks ds server short reached).silent key).mp silent
    exact untold (cleared ds server short reached settled key subscribed)

theorem deserted_of_unsent {r : ChannelRouterService Message} {key : ChannelKey}
    (unsent : ∀ rx, r.sent (.channel key) rx = none) : r.deserted key = true := by
  cases found : AList.lookup key r.channels with
  | none => simp [ChannelRouterService.deserted, found]
  | some state =>
      have empty : state.sender.receiverCount = 0 := by
        refine Bus.receiverCount_eq_zero_iff.mpr fun rx => ?_
        have nobody := unsent rx
        simpa [ChannelRouterService.sent, ChannelRouterService.bus, found] using nobody
      simp [ChannelRouterService.deserted, found, empty]

section Sample
open SampleToken Sample

def roomConnection : Connection :=
  aliceConnection.spawnRelay roomParsed.channelId (.channel (namedKey roomParsed)) false

def leaveRoom : List Event := [.disconnect sessionOne epoch, .taskDrop sessionOne 0, .taskDrop sessionOne 1]

def roomRun : List Raced := ((signInEvents ++ [subRoom]) ++ leaveRoom).map plain

theorem silent_built {b : FrameBuilder} (channelFits : (utf8 b.channelId).length ≤ lenChannel)
    (payloadFits : (utf8 b.payload).length ≤ lenPayload)
    (opcode : b.opcode ≠ .publish ∧ b.opcode ≠ .unicast ∧ b.opcode ≠ .replay) (server : Server) (s : SessionId) :
    Silent env server (.inbound s b.build.toList epoch) where
  publishes := by
    rintro key (⟨frame, ⟨_, _, _, _, same, admitted, _⟩, named⟩ | ⟨_, _, same, _⟩ | ⟨_, _, _, same, _⟩)
    · cases same
      obtain rfl := frame_of_admitted admitted channelFits payloadFits
      simp only [publishKey, FrameBuilder.frame] at named
      split at named
      · exact opcode.1 ‹_›
      · exact opcode.2.1 ‹_›
      · cases named
    · cases same
    · cases same
  replays := by
    rintro key ⟨_, frame, ⟨_, _, _, _, same, admitted, _⟩, replay, _⟩
    cases same
    obtain rfl := frame_of_admitted admitted channelFits payloadFits
    exact opcode.2.2 replay

def Internal : Event → Prop
  | .inbound _ _ _ | .http _ _ | .clusterReceive _ _ => False
  | _ => True

theorem silent_internal {e : Event} (internal : Internal e) (server : Server) : Silent env server e where
  publishes := by
    rintro key (⟨_, ⟨_, _, _, _, rfl, _⟩, _⟩ | ⟨_, _, rfl, _⟩ | ⟨_, _, _, rfl, _⟩) <;> exact internal
  replays := by
    rintro key ⟨_, _, ⟨_, _, _, _, rfl, _⟩, _⟩
    exact internal

theorem silent_roomRun : (raced env).Meets (fun server r => Silent env server r.event) (started false) roomRun := by
  refine Step.meets_of_forall ?_ _
  intro r member server
  obtain ⟨e, listed, rfl⟩ := List.mem_map.mp member
  change Silent env server e
  simp only [signInEvents, subRoom, leaveRoom, List.cons_append, List.nil_append, List.mem_cons, List.not_mem_nil,
    or_false] at listed
  rcases listed with rfl | rfl | rfl | rfl | rfl | rfl | rfl
  · exact silent_internal (by trivial) server
  · exact silent_internal (by trivial) server
  · exact silent_built alice.channel_fits (text_fits alice (by simp [SampleToken.all])) (by decide) server sessionOne
  · exact silent_built (b := subFrame "room") (by decide) (Nat.zero_le _) (by decide) server sessionOne
  · exact silent_internal (by trivial) server
  · exact silent_internal (by trivial) server
  · exact silent_internal (by trivial) server

theorem not_presence (own : ChannelKey) : own.presenceKey ≠ namedKey roomParsed := by
  intro same
  have lengths := congrArg (fun key => key.channelId.length) same
  have named : (namedKey roomParsed).channelId.length = 4 := by decide
  simp only [ChannelKey.presenceKey, String.length_append, named] at lengths
  have suffix : "-presence".length = 9 := by decide
  omega

theorem hasHistory_inRoom : inRoom.ctx.channelRouter.hasHistory (namedKey roomParsed) = some false := by
  have joined : inRoom.ctx.channelRouter.hasHistory (namedKey roomParsed) =
      if namedKey roomParsed = (namedKey roomParsed).presenceKey then some true
      else ((signedIn false).ctx.channelRouter.attach (namedKey roomParsed) ⟨sessionOne, 1⟩).hasHistory
        (namedKey roomParsed) := ChannelRouterService.hasHistory_publish _ (namedKey roomParsed).presenceKey _ _ _
  have signed : (signedIn false).ctx.channelRouter.hasHistory (namedKey roomParsed) = none :=
    (ChannelRouterService.hasHistory_attach _ (inboxKey aliceParsed "a") _ _).trans (if_neg (by decide))
  rw [joined, if_neg (presenceKey_ne _).symm, ChannelRouterService.hasHistory_attach, if_pos rfl, signed]
  rfl

def roomTasks : Table Nat RelayTask := roomConnection.shut.tasks

theorem step_taskDrop {server : Server} {s : SessionId} {seq : Nat} {c : Connection} {task : RelayTask}
    (there : server.connections s = some c) (found : AList.lookup seq c.tasks = some task)
    (aborted : task.aborted = true) : step env server (.taskDrop s seq) = some (server.dropTask s seq task c) := by
  show server.taskDropStep s seq = _
  rw [taskDropStep, there, Option.bind_some, found, Option.bind_some, if_pos aborted]

theorem connections_subscribed (frame : Frame) (s : SessionId) :
    (subscribed sessionOne aliceConnection frame epoch (signedIn false)).connections s = if s = sessionOne
      then some (aliceConnection.spawnRelay frame.channelId (.channel (namedKey frame)) false) else none := by
  refine (connections_setConnection sessionOne s _ _).trans ?_
  split
  · rfl
  · rename_i other
    exact (connections_signedIn false s).trans (if_neg other)

theorem connections_inRoom (s : SessionId) : inRoom.connections s = if s = sessionOne then some roomConnection else none :=
  connections_subscribed roomParsed s

theorem run_inRoom : (step env).run (started false) (signInEvents ++ [subRoom]) = some inRoom :=
  Step.run_concat_iff.mpr ⟨_, run_signedIn false, step_inRoom⟩

theorem waiting_inRoom : inRoom.waiting sessionOne = some roomConnection := waiting_set rfl rfl

theorem hasHistory_leave : (leave sessionOne roomConnection epoch inRoom.ctx).channelRouter.hasHistory
    (namedKey roomParsed) = some false := by
  have registered : Registered inRoom.ctx.presence inRoom.users :=
    Step.run_invariant registered_step run_inRoom (registered_start {} 30000000000 false false)
  have user : inRoom.users sessionOne = some ⟨roomConnection.isOpen, roomConnection.authenticatedTenant⟩ := by
    simp [users, (waiting_eq_some waiting_inRoom).1]
  have heard : inRoom.ctx.channelRouter.deserted (namedKey roomParsed) = false :=
    ChannelRouterService.deserted_of_sent _ _ (sent_subscribed sessionOne aliceConnection roomParsed epoch _)
  have prunes : Prunes _ inRoom.ctx.channelRouter (leave sessionOne roomConnection epoch inRoom.ctx).channelRouter :=
    prunes_leave registered user
  have kept := prunes.kept (namedKey roomParsed) (fun own _ => not_presence own) fun both => by
    rw [heard] at both
    cases both.2
  exact kept.trans hasHistory_inRoom

def left : Server :=
  (inRoom.setCtx (leave sessionOne roomConnection epoch inRoom.ctx)).setConnection sessionOne roomConnection.shut

theorem step_left : step env inRoom (.disconnect sessionOne epoch) = some left :=
  step_disconnect env epoch waiting_inRoom

theorem room_left : ∃ server, (raced env).run (started false) roomRun = some server ∧ Settled server ∧
    server.ctx.channelRouter.hasHistory (namedKey roomParsed) = some false := by
  have first : (AList.lookup 0 roomTasks).any (·.aborted) = true := by decide
  have second : (AList.lookup 1 (AList.erase 0 roomTasks)).any (·.aborted) = true := by decide
  obtain ⟨inbox, foundInbox, stopped⟩ := (Option.any_eq_true _ _).mp first
  obtain ⟨relay, foundRelay, stoppedToo⟩ := (Option.any_eq_true _ _).mp second
  let fewer := left.dropTask sessionOne 0 inbox roomConnection.shut
  let last : Connection := { roomConnection.shut with tasks := AList.erase 0 roomTasks }
  refine ⟨fewer.dropTask sessionOne 1 relay last, ?_, ?_, ?_⟩
  · rw [roomRun, run_plain]
    refine Step.run_append_iff.mpr ⟨_, run_inRoom, Step.run_cons_iff.mpr ⟨_, step_left, ?_⟩⟩
    refine Step.run_cons_iff.mpr ⟨fewer, step_taskDrop (connections_setConnection_self _ _ _) foundInbox stopped, ?_⟩
    exact Step.run_cons_iff.mpr ⟨_, step_taskDrop (connections_dropTask _ _ _ _ _) foundRelay stoppedToo, rfl⟩
  · intro s c there
    by_cases own : s = sessionOne
    · subst own
      rw [connections_dropTask] at there
      obtain rfl := Option.some.inj there
      have length : (AList.erase 1 (AList.erase 0 roomTasks)).entries.length = 0 := by decide
      exact ⟨rfl, AList.ext (List.length_eq_zero_iff.mp length)⟩
    · have closed : (fewer.dropTask sessionOne 1 relay last).connections s = inRoom.connections s :=
        (connections_setConnection sessionOne s _ _).trans ((if_neg own).trans
          ((connections_setConnection sessionOne s _ _).trans ((if_neg own).trans
            ((connections_setConnection sessionOne s _ _).trans (if_neg own)))))
      rw [closed, connections_inRoom, if_neg own] at there
      cases there
  · show ((((leave sessionOne roomConnection epoch inRoom.ctx).channelRouter.detach _ _).detach _ _).hasHistory _) = _
    rw [ChannelRouterService.hasHistory_detach, ChannelRouterService.hasHistory_detach, hasHistory_leave]

theorem not_disappear : ¬ ∀ (env : Env) (config : RateLimitConfig) (timeout : Nat) (hasRedis hasWebPush : Bool)
    (rs : List Raced), (raced env).Meets (fun server r => Silent env server r.event)
      (start config timeout hasRedis hasWebPush) rs →
    Disappear env (start config timeout hasRedis hasWebPush) rs := by
  intro claim
  obtain ⟨server, reached, settled, silent⟩ := room_left
  obtain ⟨state, found, empty⟩ := Option.map_eq_some_iff.mp silent
  have history := claim env {} 30000000000 false false roomRun silent_roomRun roomRun server List.prefix_rfl
    reached settled _ state found
  rw [history] at empty
  cases empty

def inboxParsed : Frame := subParsed (unicastInboxChannel "a") (by decide)

def subInbox : Event := .inbound sessionOne (subFrame (unicastInboxChannel "a")).build.toList epoch

/-- Alice subscribes to her own inbox, and her relay tasks are gone when `handle_leave` runs. -/
def inboxRun : List Raced :=
  [plain (.admin (.registerTenant tenantOne secret)), plain (.connect sessionOne .webSocket),
    plain (.inbound sessionOne alice.authFrame.build.toList epoch), plain subInbox,
    ⟨.disconnect sessionOne epoch, [0, 1]⟩, plain (.taskDrop sessionOne 0), plain (.taskDrop sessionOne 1)]

def home : Server := subscribed sessionOne aliceConnection inboxParsed epoch (signedIn false)

def homeConnection : Connection :=
  aliceConnection.spawnRelay inboxParsed.channelId (.channel (namedKey inboxParsed)) false

def homeTasks : Table Nat RelayTask := homeConnection.shut.tasks

theorem step_home : step env (signedIn false) subInbox = some home :=
  step_subscribe _ _ (by decide) (waiting_signedIn false) rfl (by decide) (allowed_signedIn false)

theorem connections_home (s : SessionId) :
    home.connections s = if s = sessionOne then some homeConnection else none :=
  connections_subscribed inboxParsed s

theorem inbox_eq : (⟨tenantOne, unicastInboxChannel "a"⟩ : ChannelKey) = namedKey inboxParsed := by
  have trimmed : trimEndNul (unicastInboxChannel "a") = unicastInboxChannel "a" := by decide
  simp [namedKey, inboxParsed, subParsed, FrameBuilder.frame, subFrame, trimmed]

theorem hasHistory_home (key : ChannelKey) : home.ctx.channelRouter.hasHistory key =
    if key = (namedKey inboxParsed).presenceKey then some true
    else if key = namedKey inboxParsed then some false else none := by
  have joined : home.ctx.channelRouter.hasHistory key = if key = (namedKey inboxParsed).presenceKey then some true
      else ((signedIn false).ctx.channelRouter.attach (namedKey inboxParsed) ⟨sessionOne, 1⟩).hasHistory key :=
    ChannelRouterService.hasHistory_publish _ (namedKey inboxParsed).presenceKey _ _ _
  have signed : (signedIn false).ctx.channelRouter.hasHistory key =
      if key = namedKey inboxParsed then some false else none := by
    rw [← inbox_eq]
    exact ChannelRouterService.hasHistory_attach _ (inboxKey aliceParsed "a") _ _
  rw [joined, ChannelRouterService.hasHistory_attach, signed]
  split
  · rfl
  · split <;> rfl

theorem sent_subscribed_ne {s : SessionId} {c : Connection} {frame : Frame} {now : Clock} {server : Server}
    {rx : ReceiverId} (other : rx ≠ ⟨s, c.spawned⟩) :
    (subscribed s c frame now server).ctx.channelRouter.sent (.channel (namedKey frame)) rx =
      server.ctx.channelRouter.sent (.channel (namedKey frame)) rx := by
  have miss : ¬ (frame.tenantId = (namedKey frame).presenceKey.tenantId ∧
      (Source.channel (namedKey frame)).matches (namedKey frame).presenceKey = true) :=
    fun both => presenceKey_ne _ (of_decide_eq_true both.2).symm
  show ((server.ctx.channelRouter.attach (namedKey frame) ⟨s, c.spawned⟩).publish frame.tenantId
    (namedKey frame).presenceKey _ now.unixSecs).2.sent _ _ = _
  rw [ChannelRouterService.sent_publish, if_neg miss, ChannelRouterService.sent_attach, if_neg fun both => other both.2]

theorem sent_home (rx : ReceiverId) (others : rx ≠ ⟨sessionOne, 0⟩) (others' : rx ≠ ⟨sessionOne, 1⟩) :
    home.ctx.channelRouter.sent (.channel (namedKey inboxParsed)) rx = none := by
  rw [home, sent_subscribed_ne others']
  exact (ChannelRouterService.sent_attach _ (inboxKey aliceParsed "a") ⟨sessionOne, 0⟩ _ rx).trans
    (if_neg fun both => others both.2)

def emptied : Server := home.early env ⟨.disconnect sessionOne epoch, [0, 1]⟩

theorem deserted_emptied : emptied.ctx.channelRouter.deserted (namedKey inboxParsed) = true := by
  refine deserted_of_unsent fun rx => ?_
  have first : (AList.lookup 0 homeConnection.tasks).map (·.source) = some (.channel (namedKey inboxParsed)) := by
    rw [← inbox_eq]
    rfl
  have second : (AList.lookup 1 homeConnection.tasks).map (·.source) = some (.channel (namedKey inboxParsed)) := rfl
  obtain ⟨inbox, foundInbox, source⟩ := Option.map_eq_some_iff.mp first
  obtain ⟨relay, foundRelay, source'⟩ := Option.map_eq_some_iff.mp second
  have there : home.connections sessionOne = some homeConnection := (connections_home sessionOne).trans (if_pos rfl)
  have router : emptied.ctx.channelRouter = (home.ctx.channelRouter.detach (.channel (namedKey inboxParsed))
      ⟨sessionOne, 0⟩).detach (.channel (namedKey inboxParsed)) ⟨sessionOne, 1⟩ := by
    show home.dropReceiver sessionOne (home.dropReceiver sessionOne home.ctx.channelRouter 0) 1 = _
    simp only [dropReceiver, there, Option.bind_some, foundInbox, foundRelay, source, source']
  rw [router, ChannelRouterService.sent_detach, ChannelRouterService.sent_detach]
  split
  · rfl
  · split
    · rfl
    · rename_i later earlier
      exact sent_home rx (fun same => earlier ⟨rfl, same⟩) fun same => later ⟨rfl, same⟩

theorem lists_inbox : ∃ entry, AList.lookup sessionOne home.ctx.presence.sessions = some entry ∧
    entry.tenantId = (namedKey inboxParsed).tenantId ∧ (namedKey inboxParsed).channelId ∈ entry.channels := by
  have tracked : AList.lookup sessionOne home.ctx.presence.sessions = _ :=
    (Table.lookup_adjust _ _ _).trans (congrArg _ PresenceBalance.entry_signedIn)
  exact ⟨_, tracked, rfl, List.mem_singleton.mpr rfl⟩

def away : Server :=
  (emptied.setCtx (leave sessionOne homeConnection epoch emptied.ctx)).setConnection sessionOne homeConnection.shut

theorem hasHistory_away (key : ChannelKey) : away.ctx.channelRouter.hasHistory key ≠ some false := by
  have reached : (step env).run (started false) (signInEvents ++ [subInbox]) = some home :=
    Step.run_concat_iff.mpr ⟨_, run_signedIn false, step_home⟩
  have registered : Registered home.ctx.presence home.users :=
    Step.run_invariant registered_step reached (registered_start {} 30000000000 false false)
  have user : home.users sessionOne = some ⟨homeConnection.isOpen, homeConnection.authenticatedTenant⟩ := by
    simp [users, connections_home]
  have early : emptied.ctx.channelRouter.hasHistory key = home.ctx.channelRouter.hasHistory key :=
    hasHistory_early env ⟨.disconnect sessionOne epoch, [0, 1]⟩ key
  have prunes : Prunes _ emptied.ctx.channelRouter (leave sessionOne homeConnection epoch emptied.ctx).channelRouter :=
    @prunes_leave _ epoch home.users homeConnection emptied.ctx registered user
  intro silent
  by_cases told : ∃ own : ChannelKey, (∃ entry, AList.lookup sessionOne emptied.ctx.presence.sessions = some entry ∧
      entry.tenantId = own.tenantId ∧ own.channelId ∈ entry.channels) ∧ own.presenceKey = key
  · obtain ⟨own, leaves, rfl⟩ := told
    exact absurd ((prunes.told own leaves).symm.trans silent) (by decide)
  · have apart := fun own leaves same => told ⟨own, leaves, same⟩
    by_cases clears : (∃ entry, AList.lookup sessionOne emptied.ctx.presence.sessions = some entry ∧
        entry.tenantId = key.tenantId ∧ key.channelId ∈ entry.channels) ∧ emptied.ctx.channelRouter.deserted key = true
    · have filtered := (prunes.cleared key apart clears.1 clears.2).symm.trans silent
      exact absurd (Option.filter_eq_some_iff.mp filtered).2 Bool.false_ne_true
    · have kept := (prunes.kept key apart clears).symm.trans silent
      rw [early, hasHistory_home] at kept
      split at kept
      · cases kept
      · split at kept
        · rename_i same
          subst same
          exact clears ⟨lists_inbox, deserted_emptied⟩
        · cases kept

theorem silent_inboxRun : (raced env).Meets (fun server r => Silent env server r.event) (started false) inboxRun := by
  refine Step.meets_of_forall ?_ _
  intro r member server
  simp only [inboxRun, List.mem_cons, List.not_mem_nil, or_false] at member
  rcases member with rfl | rfl | rfl | rfl | rfl | rfl | rfl
  · exact silent_internal (by trivial) server
  · exact silent_internal (by trivial) server
  · exact silent_built alice.channel_fits (text_fits alice (by simp [SampleToken.all])) (by decide) server sessionOne
  · exact silent_built (b := subFrame (unicastInboxChannel "a")) (by decide) (Nat.zero_le _) (by decide) server
      sessionOne
  · exact silent_internal (by trivial) server
  · exact silent_internal (by trivial) server
  · exact silent_internal (by trivial) server

theorem not_settled {server : Server} {s : SessionId} {c : Connection} (there : server.connections s = some c)
    (busy : c.isOpen = true ∨ ∃ seq, (AList.lookup seq c.tasks).isSome = true) : ¬ Settled server := by
  intro settled
  obtain ⟨shut, empty⟩ := settled s c there
  rcases busy with opened | ⟨seq, running⟩
  · exact absurd (shut.symm.trans opened) Bool.false_ne_true
  · rw [empty] at running
    exact absurd running Bool.false_ne_true

theorem step_away : raced env home ⟨.disconnect sessionOne epoch, [0, 1]⟩ = some away := by
  have ready : emptied.waiting sessionOne = some homeConnection :=
    waiting_of_found ((connections_home sessionOne).trans (if_pos rfl)) rfl rfl
  exact step_disconnect env epoch ready

theorem throughout_cons {P : Server → Prop} {server server' : Server} {r : Raced} {rs : List Raced}
    (taken : raced env server r = some server') (now : P server) (later : (raced env).Throughout P server' rs) :
    (raced env).Throughout P server (r :: rs) := by
  refine ⟨now, fun t next => ?_⟩
  obtain rfl := Option.some.inj (taken.symm.trans next)
  exact later

theorem throughout_plain {P : Server → Prop} {server server' : Server} {e : Event} {rs : List Raced}
    (taken : step env server e = some server') (now : P server) (later : (raced env).Throughout P server' rs) :
    (raced env).Throughout P server (plain e :: rs) :=
  throughout_cons ((raced_plain env server e).trans taken) now later

/-- Where the run has settled no channel is without a history. -/
def Spoken (server : Server) : Prop := Settled server → ∀ key, server.ctx.channelRouter.hasHistory key ≠ some false

theorem spoken_inboxRun : (raced env).Throughout Spoken (started false) inboxRun := by
  have stopped : (AList.lookup 0 homeTasks).any (·.aborted) = true := by decide
  have stoppedToo : (AList.lookup 1 (AList.erase 0 homeTasks)).any (·.aborted) = true := by decide
  obtain ⟨inbox, foundInbox, aborted⟩ := (Option.any_eq_true _ _).mp stopped
  obtain ⟨relay, foundRelay, abortedToo⟩ := (Option.any_eq_true _ _).mp stoppedToo
  let fewer := away.dropTask sessionOne 0 inbox homeConnection.shut
  let last : Connection := { homeConnection.shut with tasks := AList.erase 0 homeTasks }
  have gone : away.connections sessionOne = some homeConnection.shut := connections_setConnection_self _ _ _
  have left : fewer.connections sessionOne = some last := connections_dropTask _ _ _ _ _
  have open_ : ∀ {server : Server} {c : Connection}, server.connections sessionOne = some c → c.isOpen = true →
      Spoken server := fun there isOpen settled => absurd settled (not_settled there (Or.inl isOpen))
  have running : ∀ {server : Server} {c : Connection} {seq : Nat} {task : RelayTask},
      server.connections sessionOne = some c → AList.lookup seq c.tasks = some task → Spoken server :=
    fun there found settled => absurd settled (not_settled there (Or.inr ⟨_, Option.isSome_of_eq_some found⟩))
  refine throughout_plain (step_registered false) (fun _ key => nofun) ?_
  refine throughout_plain (step_connected rfl) (fun _ key => nofun) ?_
  refine throughout_plain (step_signedIn false) (open_ (connections_setConnection_self _ _ _) rfl) ?_
  refine throughout_plain step_home (open_ ((connections_signedIn false sessionOne).trans (if_pos rfl)) rfl) ?_
  refine throughout_cons step_away (open_ ((connections_home sessionOne).trans (if_pos rfl)) rfl) ?_
  refine throughout_plain (step_taskDrop gone foundInbox aborted) (running gone foundInbox) ?_
  refine throughout_plain (step_taskDrop left foundRelay abortedToo) (running left foundRelay) fun _ key => ?_
  show (((away.ctx.channelRouter.detach _ _).detach _ _).hasHistory key) ≠ _
  rw [ChannelRouterService.hasHistory_detach, ChannelRouterService.hasHistory_detach]
  exact hasHistory_away key

theorem allCleared_inbox : AllCleared env (started false) inboxRun := by
  intro ds server short reached settled key subscribed
  by_contra untold
  have spoken := Step.throughout_iff_prefixes.mp spoken_inboxRun ds server short reached
  obtain ⟨later, whole⟩ := short
  have quiet := silent_inboxRun
  rw [← whole] at quiet
  have marks := marks_run reached ((Step.meets_append reached).mp quiet).1
  exact spoken settled key ((marks.silent key).mpr ⟨subscribed, untold⟩)

theorem disappear_iff_inbox : AllCleared env (started false) inboxRun ∧ Disappear env (started false) inboxRun :=
  ⟨allCleared_inbox, (disappear_iff env {} 30000000000 false false inboxRun silent_inboxRun).mpr allCleared_inbox⟩

end Sample

end RealtimePlatform.Proof.SilentChannels
