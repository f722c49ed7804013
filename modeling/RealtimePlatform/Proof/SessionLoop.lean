import RealtimePlatform.Proof.Handling

namespace RealtimePlatform.Proof.SessionLoop
open Library Backend Backend.Server Backend.UseCases

def Suspended (c : Connection) : Prop :=
  c.isOpen = true ∧ c.replaying ≠ [] ∧ relayBuffer ≤ c.outQueue.length

def Responsive (server : Server) : Prop :=
  ∀ s c, server.connections s = some c → ¬ Suspended c

/-- Responsive in every state of a run, and however long the session tasks then go on sending. -/
def StaysResponsive (env : Env) (server : Server) (es : List Event) : Prop :=
  ∀ ds t, ds <+: es → (step env).run server ds = some t →
    ∀ s count t', (step env).run t (List.replicate count (.replaySend s)) = some t' → Responsive t'

/-- The frames with which a REPLAY of its own tenant would be answered. -/
def retained (server : Server) (frame : Frame) : List Message :=
  match (server.ctx.channelRouter.replay server.redis frame.tenantId (namedKey frame)
    (sinceSecs frame)).1 with
  | .ok frames => frames
  | .error _ => []

/-- A REPLAY is handled only when the queue has room for every retained frame, and a relay task takes
a place in the queue during a replay only when one is left over. -/
def RoomLeft (server : Server) : Event → Prop
  | .inbound s bytes now => ∀ c frame, Admitted server s bytes now c frame →
      frame.opcode = .replay → c.authenticatedTenant = some frame.tenantId →
      isPattern frame.channelId = false →
      c.outQueue.length + (retained server frame).length ≤ relayBuffer
  | .relaySend s _ => ∀ c, server.connections s = some c → c.isOpen = true → c.replaying ≠ [] →
      c.outQueue.length + c.replaying.length < relayBuffer
  | _ => True

def Roomy (c : Connection) : Prop := c.outQueue.length + c.replaying.length ≤ relayBuffer

theorem not_suspended_of_roomy {c : Connection} (roomy : Roomy c) : ¬ Suspended c := by
  rintro ⟨_, pending, full⟩
  have some : 0 < c.replaying.length := List.length_pos_iff.mpr pending
  unfold Roomy at roomy
  omega

theorem roomy_shut (c : Connection) (idle : c.replaying = []) : Roomy c.shut := by
  show 0 + c.replaying.length ≤ relayBuffer
  rw [idle]
  decide

theorem roomy_of_moved {env : Env} {server : Server} {s : SessionId} {e : Event} {c c' : Connection}
    (roomy : Roomy c) (room : RoomLeft server e) (there : server.connections s = some c)
    (moved : Moved env server s e c c') : Roomy c' := by
  cases moved with
  | still => exact roomy
  | handled handles =>
      rename_i bytes now frame command tenant ctx
      have idle : c.replaying = [] := (waiting_eq_some handles.ready).2.2
      have dispatched := handles.dispatched
      cases command with
      | subscribed key source => exact roomy
      | unsubscribed key => exact roomy
      | closeAuthFailed => exact roomy_shut _ idle
      | none => exact roomy
      | replayed frames =>
          cases dispatched with
          | replayed frames router opcode owned exact found =>
              have fits := room c frame handles.toAdmitted opcode owned exact
              have answer : retained server frame = frames := by
                have same := congrArg Prod.fst found
                simp only [charged] at same
                simp only [retained, same]
              rwa [answer] at fits
  | received => exact roomy
  | ended => exact roomy
  | queued _ _ isOpen spare =>
      unfold Roomy
      simp only [List.length_append, List.length_singleton]
      by_cases idle : c.replaying = []
      · rw [idle, List.length_nil]
        omega
      · have left := room c there isOpen idle
        omega
  | replayed pending isOpen spare =>
      unfold Roomy at roomy ⊢
      rw [pending, List.length_cons] at roomy
      simp only [List.length_append, List.length_singleton]
      omega
  | wrote ready queue =>
      unfold Roomy at roomy
      rw [queue, List.length_cons] at roomy
      show _ + _ ≤ _
      simp only [Connection.write]
      omega
  | closed ready => exact roomy_shut c (waiting_eq_some ready).2.2

def AllRoomy (server : Server) : Prop := ∀ s c, server.connections s = some c → Roomy c

theorem allRoomy_step {env : Env} (server : Server) (e : Event) (server' : Server)
    (roomy : AllRoomy server) (room : RoomLeft server e) (taken : step env server e = some server') :
    AllRoomy server' := by
  intro s c' found
  rcases step_moved taken found with ⟨transport, _, _, rfl⟩ | ⟨c, there, moved⟩
  · exact Nat.zero_le _
  · exact roomy_of_moved (roomy s c there) room there moved

theorem responsive_of_allRoomy {server : Server} (roomy : AllRoomy server) : Responsive server :=
  fun s c there => not_suspended_of_roomy (roomy s c there)

def Overfull (c : Connection) : Prop :=
  c.isOpen = true ∧ c.replaying ≠ [] ∧ relayBuffer < c.outQueue.length + c.replaying.length

theorem suspended_of_overfull (env : Env) (spare : Nat) {server : Server} {s : SessionId}
    {c : Connection} (there : server.connections s = some c) (overfull : Overfull c)
    (bound : relayBuffer ≤ c.outQueue.length + spare) :
    ∃ count server', (step env).run server (List.replicate count (.replaySend s)) = some server' ∧
      ¬ Responsive server' := by
  induction spare generalizing server c with
  | zero =>
      exact ⟨0, server, rfl, fun responsive =>
        responsive s c there ⟨overfull.1, overfull.2.1, bound⟩⟩
  | succ spare ih =>
      by_cases full : relayBuffer ≤ c.outQueue.length
      · exact ⟨0, server, rfl, fun responsive =>
          responsive s c there ⟨overfull.1, overfull.2.1, full⟩⟩
      obtain ⟨isOpen, pending, excess⟩ := overfull
      obtain ⟨m, rest, split⟩ := List.exists_cons_of_ne_nil pending
      let next : Connection :=
        { c with replaying := rest, outQueue := c.outQueue ++ [⟨m, .replay⟩] }
      have sent : step env server (.replaySend s) = some (server.setConnection s next) := by
        have room : c.outQueue.length < relayBuffer := by omega
        show server.replaySendStep s = _
        simp only [replaySendStep, there, Option.bind_some, split]
        rw [if_pos (by simp [isOpen, room])]
      have found : (server.setConnection s next).connections s = some next :=
        (connections_setConnection s s next server).trans (if_pos rfl)
      have longer : next.outQueue.length = c.outQueue.length + 1 := by simp [next]
      have shorter : c.replaying.length = next.replaying.length + 1 := by simp [next, split]
      have remains : next.replaying ≠ [] := by
        apply List.length_pos_iff.mp
        omega
      obtain ⟨count, server', reached, stuck⟩ :=
        ih found ⟨isOpen, remains, by omega⟩ (by omega)
      exact ⟨count + 1, server', Step.run_cons_iff.mpr ⟨_, sent, reached⟩, stuck⟩

theorem executeInner_replay {codec : TokenCodec} {redis : RedisStreams Message} {s : SessionId}
    {rx : ReceiverId} {frame : Frame} {now : Clock} {ctx : RealtimeContext}
    (opcode : frame.opcode = .replay) (exact : isPattern frame.channelId = false) :
    (executeInner codec redis s rx (some frame.tenantId) frame now ctx).1 =
      match (ctx.channelRouter.replay redis frame.tenantId (namedKey frame) (sinceSecs frame)).1 with
      | .ok frames => .replayed frames
      | .error _ => .none := by
  have own := ownTenant_self frame
  simp only [executeInner, opcode, replayHistory, own, exact]
  rcases found : ctx.channelRouter.replay redis frame.tenantId ⟨frame.tenantId, frame.channelId⟩
    (sinceSecs frame) with ⟨err | frames, router⟩ <;> simp [namedKey, found]

theorem overfull_of_no_room {env : Env} {server server' : Server} {e : Event}
    (roomy : AllRoomy server) (taken : step env server e = some server')
    (noRoom : ¬ RoomLeft server e) :
    ∃ s c, server'.connections s = some c ∧ Overfull c := by
  cases e with
  | inbound s bytes now =>
      simp only [RoomLeft, not_forall, Nat.not_le] at noRoom
      obtain ⟨c, frame, admitted, opcode, owned, exact, excess⟩ := noRoom
      obtain ⟨command, tenant, ctx, handles, rfl⟩ := admitted.handled taken
      obtain ⟨there, isOpen, idle⟩ := waiting_eq_some admitted.ready
      have answer : command = .replayed (retained server frame) := by
        have first := congrArg Prod.fst handles.executed
        rw [owned, executeInner_replay opcode exact] at first
        rcases found : server.ctx.channelRouter.replay server.redis frame.tenantId (namedKey frame)
          (sinceSecs frame) with ⟨err | frames, router⟩
        · have empty : retained server frame = [] := by simp only [retained, found]
          have bound := roomy s c there
          unfold Roomy at bound
          rw [empty, List.length_nil] at excess
          omega
        · simp only [charged, found] at first
          rw [← first]
          simp only [retained, found]
      subst answer
      refine ⟨s, _, connections_setConnection_self s _ _, isOpen, ?_, excess⟩
      intro empty
      have bound := roomy s c there
      unfold Roomy at bound
      have none : (retained server frame).length = 0 := List.length_eq_zero_iff.mpr empty
      omega
  | relaySend s seq =>
      simp only [RoomLeft, not_forall, Nat.not_lt] at noRoom
      obtain ⟨c, there, isOpen, pending, excess⟩ := noRoom
      obtain ⟨c₂, there₂, rest⟩ := Option.bind_eq_some_iff.mp taken
      obtain rfl := Option.some.inj (there.symm.trans there₂)
      obtain ⟨task, running, rest⟩ := Option.bind_eq_some_iff.mp rest
      obtain ⟨m, holding, action⟩ := Option.bind_eq_some_iff.mp rest
      rw [if_neg (by simp [isOpen])] at action
      split at action
      · cases action
        refine ⟨s, _, connections_setConnection_self s _ _, isOpen, pending, ?_⟩
        simp only [List.length_append, List.length_singleton]
        omega
      · cases action
  | _ => exact absurd trivial noRoom

/-- No session task blocks on its own queue, in any state of the run or after its sends, exactly when
every step of the run leaves room. -/
theorem responsive_iff_room_left (env : Env) (config : RateLimitConfig) (timeout : Nat)
    (hasRedis hasWebPush : Bool) {es : List Event} {server : Server}
    (reached : (step env).run (start config timeout hasRedis hasWebPush) es = some server) :
    (step env).Meets RoomLeft (start config timeout hasRedis hasWebPush) es ↔
      StaysResponsive env (start config timeout hasRedis hasWebPush) es := by
  have opened : AllRoomy (start config timeout hasRedis hasWebPush) := by
    intro s c there
    cases there
  constructor
  · rintro met ds t ⟨rest, rfl⟩ short s count t' sent
    have early := ((Step.meets_append short).mp met).1
    have roomy := Step.run_invariant_of_meets allRoomy_step short opened early
    have free : (step env).Meets RoomLeft t (List.replicate count (.replaySend s)) := by
      apply Step.meets_of_forall
      intro e member u
      rw [List.eq_of_mem_replicate member]
      trivial
    exact responsive_of_allRoomy (Step.run_invariant_of_meets allRoomy_step sent roomy free)
  · intro every
    refine Step.run_induction (fun ds _ => ds <+: es →
      (step env).Meets RoomLeft (start config timeout hasRedis hasWebPush) ds)
      (fun _ => trivial) ?_ reached List.prefix_rfl
    intro ds t e u before earlier taken short
    have met := earlier ((List.prefix_append ds [e]).trans short)
    refine (Step.meets_concat before).mpr ⟨met, ?_⟩
    by_contra noRoom
    have roomy := Step.run_invariant_of_meets allRoomy_step before opened met
    obtain ⟨s, c, there, overfull⟩ := overfull_of_no_room roomy taken noRoom
    obtain ⟨count, t', sent, stuck⟩ := suspended_of_overfull env relayBuffer there overfull
      (Nat.le_add_left _ _)
    exact stuck (every (ds ++ [e]) u short (Step.run_concat_iff.mpr ⟨t, before, taken⟩) s count t' sent)

section Sample
open SampleToken Sample

def room : ChannelKey := ⟨tenantOne, "room"⟩

def xadds (raw : RawFrame) (count : Nat) : List Event :=
  (List.range count).map fun i => .remoteXadd room raw (0, i) 0

theorem run_xadds (raw : RawFrame) (count : Nat) (server : Server)
    (empty : server.redis (streamKey room) = []) :
    ∃ redis, (step env).run server (xadds raw count) = some { server with redis := redis } ∧
      (redis (streamKey room)).length = count ∧
      ∀ e ∈ redis (streamKey room), e.id.1 = 0 ∧ e.id.2 < count := by
  induction count with
  | zero => exact ⟨server.redis, rfl, by simp [empty], by simp [empty]⟩
  | succ count ih =>
      obtain ⟨redis, reached, size, ids⟩ := ih
      have earlier : (redis (streamKey room)).all (fun e => idBefore e.id (0, count)) = true := by
        rw [List.all_eq_true]
        intro e member
        simp [idBefore, ids e member]
      let grown := Function.update redis (streamKey room)
        (redis (streamKey room) ++ [⟨(0, count), ⟨raw, room⟩⟩])
      have entries : grown (streamKey room) =
          redis (streamKey room) ++ [⟨(0, count), ⟨raw, room⟩⟩] := Function.update_self _ _ _
      have added : step env { server with redis := redis } (.remoteXadd room raw (0, count) 0) =
          some { server with redis := grown } := by
        show remoteXaddStep env room raw (0, count) 0 { server with redis := redis } = _
        simp only [remoteXaddStep, RedisStreams.xadd, earlier]
        rfl
      refine ⟨grown, ?_, ?_, ?_⟩
      · rw [xadds, List.range_succ, List.map_append]
        exact Step.run_concat_iff.mpr ⟨_, reached, added⟩
      · simp [entries, size]
      · intro e member
        rw [entries, List.mem_append, List.mem_singleton] at member
        rcases member with old | rfl
        · exact ⟨(ids e old).1, Nat.lt_succ_of_lt (ids e old).2⟩
        · exact ⟨rfl, Nat.lt_succ_self count⟩

def replayRoom : FrameBuilder := { opcode := .replay, tenantId := tenantOne, channelId := "room" }

def replayParsed : Frame := replayRoom.frame (by decide) (by decide)

theorem length_retained (redis : RedisStreams Message) :
    (retained { signedIn true with redis := redis } replayParsed).length = (redis (streamKey room)).length := by
  have named : namedKey replayParsed = room := by
    have trimmed : trimEndNul "room" = "room" := by decide
    simp [namedKey, replayParsed, FrameBuilder.frame, replayRoom, room, trimmed]
  have whole : sinceSecs replayParsed = 0 := by decide
  have stored : retained { signedIn true with redis := redis } replayParsed =
      RedisStreamsHistoryAdapter.since redis room 0 := by
    simp only [retained, named, whole]
    rfl
  rw [stored]
  simp [RedisStreamsHistoryAdapter.since]

theorem meets_signIn : (step env).Meets RoomLeft (started true) signInEvents := by
  refine ⟨trivial, fun _ _ => ⟨trivial, fun t _ => ⟨?_, fun _ _ => trivial⟩⟩⟩
  intro c frame admitted opcode
  have parsed := admitted.parsed
  rw [parseInbound_built c.transport alice.channel_fits (text_fits alice (by simp [all]))] at parsed
  cases parsed
  cases opcode

/-- A replay of three entries. -/
def replayEvents : List Event :=
  signInEvents ++ (xadds replayRoom.build 3 ++ [.inbound sessionOne replayRoom.build.toList epoch])

theorem responsive_replay : ∃ server, (step env).run (started true) replayEvents = some server ∧
    StaysResponsive env (started true) replayEvents := by
  obtain ⟨redis, recorded, size, _⟩ := run_xadds replayRoom.build 3 (signedIn true) rfl
  have ready : ({ signedIn true with redis := redis } : Server).waiting sessionOne = some aliceConnection :=
    waiting_signedIn true
  have taken := step_inbound_built env replayRoom epoch (by decide) (by decide) ready
  have reached : (step env).run (started true) replayEvents = some _ :=
    Step.run_append_iff.mpr ⟨_, run_signedIn true, Step.run_append_iff.mpr ⟨_, recorded,
      Step.run_cons_iff.mpr ⟨_, taken, rfl⟩⟩⟩
  refine ⟨_, reached, (responsive_iff_room_left env {} 30000000000 true false reached).mp ?_⟩
  refine (Step.meets_append (run_signedIn true)).mpr ⟨meets_signIn, (Step.meets_append recorded).mpr ⟨?_, ?_, ?_⟩⟩
  · apply Step.meets_of_forall
    intro e member server
    obtain ⟨i, _, rfl⟩ := List.mem_map.mp member
    trivial
  · intro c frame admitted _ _ _
    obtain rfl := Option.some.inj (ready.symm.trans admitted.ready)
    obtain rfl : replayParsed = frame := (frame_of_admitted admitted (by decide) (by decide)).symm
    rw [length_retained, size]
    decide
  · intro _ _
    trivial

theorem session_blocks :
    ¬ ∀ (env : Env) (config : RateLimitConfig) (timeout : Nat) (hasRedis hasWebPush : Bool)
      (es : List Event) (server : Server),
      (step env).run (start config timeout hasRedis hasWebPush) es = some server →
        Responsive server := by
  intro claim
  obtain ⟨redis, recorded, size, _⟩ := run_xadds replayRoom.build 257 (signedIn true) rfl
  let server : Server := { signedIn true with redis := redis }
  have roomy : AllRoomy server := by
    intro s c there
    change (signedIn true).connections s = some c at there
    rw [connections_signedIn] at there
    split at there <;> cases there
    exact Nat.zero_le _
  have ready : server.waiting sessionOne = some aliceConnection := waiting_signedIn true
  have taken := step_inbound_built env replayRoom epoch (by decide) (by decide)
    ready
  have allowed : (server.ctx.rateLimiter.check sessionOne tenantOne epoch.instant).1 = true := allowed_signedIn true
  have parsed : parseInbound aliceConnection.transport replayRoom.build.toList =
      some (.ok replayParsed) :=
    congrArg some (Frame.parseSlice_raw replayParsed)
  have answer : (retained server replayParsed).length = 257 := (length_retained redis).trans size
  have noRoom : ¬ RoomLeft server (.inbound sessionOne replayRoom.build.toList epoch) := by
    intro room
    have fits := room aliceConnection _ ⟨ready, parsed, allowed⟩ rfl rfl (by decide)
    rw [answer] at fits
    exact absurd fits (by decide)
  obtain ⟨s, c, there, overfull⟩ := overfull_of_no_room roomy taken noRoom
  obtain ⟨count, stuck, sent, suspended⟩ := suspended_of_overfull env relayBuffer there
    overfull (Nat.le_add_left _ _)
  have reached : (step env).run (started true) (signInEvents ++ (xadds replayRoom.build 257 ++
      (.inbound sessionOne replayRoom.build.toList epoch :: List.replicate count (.replaySend s)))) =
      some stuck :=
    Step.run_append_iff.mpr ⟨_, run_signedIn true, Step.run_append_iff.mpr ⟨server, recorded,
      Step.run_cons_iff.mpr ⟨_, taken, sent⟩⟩⟩
  exact suspended (claim env {} 30000000000 true false _ stuck reached)

end Sample

end RealtimePlatform.Proof.SessionLoop
