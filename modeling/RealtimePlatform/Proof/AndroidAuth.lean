import RealtimePlatform.Sdk.AndroidClient

namespace RealtimePlatform.Proof.AndroidAuth
open Library Sdk.Kotlin Sdk.Kotlin.RealtimeClient
open Backend (Opcode RawFrame FrameBuilder offOpcode)

def IsAuth (raw : RawFrame) : Prop := Opcode.tryFrom (raw.byteAt offOpcode) = .ok .auth

/-- The first frame on every socket is AUTH. -/
def AuthFirst (client : RealtimeClient) : Prop :=
  ∀ (w : Nat) (socket : Socket), client.sockets[w]? = some socket →
    ∀ raw, socket.frames.head? = some raw → IsAuth raw

/-- A frame of the application comes to a socket after `onOpen`, or to one that refuses it. -/
def AfterOpen (client : RealtimeClient) : Event → Prop
  | .handOver i => ∀ (w : Nat) (raw : RawFrame) (socket : Socket), client.handed[i]? = some (w, raw) → client.sockets[w]? = some socket →
      socket.stage = .connecting → socket.refuses = true
  | _ => True

theorem isAuth_frame_iff (config : RealtimeClientConfig) (opcode : Opcode) (channelId payload : String) :
    IsAuth (frame config opcode channelId payload) ↔ opcode = .auth := by
  rw [IsAuth, frame, FrameBuilder.byteAt_opcode_build, Opcode.tryFrom_toByte, Except.ok.injEq]

theorem plain_frame {config : RealtimeClientConfig} {opcode : Opcode} {channelId payload : String}
    (plain : opcode ≠ .auth) : ¬IsAuth (frame config opcode channelId payload) :=
  fun auth => plain ((isAuth_frame_iff config opcode channelId payload).mp auth)

def Sends (raw : RawFrame) (socket socket' : Socket) : Prop :=
  if socket.refuses then socket'.frames = socket.frames ∧ socket'.refuses = true
  else socket'.frames = socket.frames ++ [raw]

inductive Grown (config : RealtimeClientConfig) (client : RealtimeClient) (e : Event) (w : Nat) :
    Socket → Socket → Prop where
  | kept {socket socket' : Socket} (frames : socket'.frames = socket.frames)
      (stage : socket'.stage = .connecting ↔ socket.stage = .connecting)
      (refuses : socket.refuses = true → socket'.refuses = true) : Grown config client e w socket socket'
  | greeted {socket socket' : Socket} (before : socket.stage = .connecting)
      (after : socket'.stage ≠ .connecting) (sends : Sends (frame config .auth "" socket.token) socket socket') :
      Grown config client e w socket socket'
  | wrote {socket socket' : Socket} (raw : RawFrame) (before : socket.stage ≠ .connecting)
      (after : socket'.stage ≠ .connecting) (sends : Sends raw socket socket') :
      Grown config client e w socket socket'
  | handed {socket socket' : Socket} {i : Nat} {raw : RawFrame} (event : e = .handOver i)
      (handed : client.handed[i]? = some (w, raw)) (stage : socket'.stage = socket.stage)
      (sends : Sends raw socket socket') : Grown config client e w socket socket'

structure Effect (config : RealtimeClientConfig) (client : RealtimeClient) (e : Event)
    (client' : RealtimeClient) : Prop where
  length : client.sockets.length ≤ client'.sockets.length
  comes : ∀ (w : Nat) (socket' : Socket), client'.sockets[w]? = some socket' →
    client.sockets[w]? = none ∧ socket'.frames = [] ∧ socket'.stage = .connecting ∨
      ∃ socket, client.sockets[w]? = some socket ∧ Grown config client e w socket socket'
  beats : ∀ w, client'.heartbeatFuture = some w → client.heartbeatFuture = some w ∨
    ∃ socket', client'.sockets[w]? = some socket' ∧ socket'.stage ≠ .connecting
  handed : ∀ w raw, (w, raw) ∈ client'.handed → (w, raw) ∈ client.handed ∨ ¬IsAuth raw

def Quiet (client client' : RealtimeClient) : Prop :=
  (client'.heartbeatFuture = client.heartbeatFuture ∨ client'.heartbeatFuture = none) ∧
    client'.handed ⊆ client.handed

section
variable {config : RealtimeClientConfig} {client client' : RealtimeClient} {e : Event} {w : Nat}
  {raw : RawFrame} {socket : Socket}

theorem sends_send (raw : RawFrame) (socket : Socket) : Sends raw socket (socket.send raw) := by
  unfold Sends Socket.send
  split
  · rename_i refused
    exact ⟨rfl, refused⟩
  · rfl

theorem sends_staged (raw : RawFrame) (socket : Socket) (stage : Stage) :
    Sends raw socket (({ socket with stage } : Socket).send raw) :=
  sends_send raw { socket with stage }

theorem stage_send (raw : RawFrame) (socket : Socket) : (socket.send raw).stage = socket.stage := by
  unfold Socket.send
  split <;> rfl

theorem sockets_scheduleReconnect : (scheduleReconnect config client).sockets = client.sockets := by
  unfold scheduleReconnect
  split <;> rfl

theorem heartbeatFuture_scheduleReconnect :
    (scheduleReconnect config client).heartbeatFuture = client.heartbeatFuture := by
  unfold scheduleReconnect
  split <;> rfl

theorem handed_scheduleReconnect : (scheduleReconnect config client).handed = client.handed := by
  unfold scheduleReconnect
  split <;> rfl

theorem sockets_onFailure :
    (client.onFailure config w socket).sockets = client.sockets.set w { socket with failed := true } := by
  rw [onFailure, sockets_scheduleReconnect]
  rfl

theorem onClosed_cases (code : Nat) (reason : String) : ∃ closed : RealtimeClient,
    closed.sockets = client.sockets.set w { socket with closed := true } ∧ closed.heartbeatFuture = none ∧
      closed.handed = client.handed ∧ (client.onClosed config w socket code reason = closed ∨
        client.onClosed config w socket code reason = scheduleReconnect config closed) := by
  unfold onClosed
  dsimp only
  split
  · split
    · refine ⟨_, ?_, ?_, ?_, Or.inl rfl⟩ <;> rfl
    · refine ⟨_, ?_, ?_, ?_, Or.inr rfl⟩ <;> rfl
  · refine ⟨_, ?_, ?_, ?_, Or.inr rfl⟩ <;> rfl

theorem refuses_failed : ({ socket with failed := true } : Socket).refuses = true := by
  simp [Socket.refuses]

theorem refuses_closed : ({ socket with closed := true } : Socket).refuses = true := by
  simp [Socket.refuses]

theorem Quiet.beats (quiet : Quiet client client') (beats : client'.heartbeatFuture = some w) :
    client.heartbeatFuture = some w := by
  rcases quiet.1 with same | none
  · exact same ▸ beats
  · rw [none] at beats
    cases beats

theorem effect_of_eq (same : client'.sockets = client.sockets) (quiet : Quiet client client') :
    Effect config client e client' where
  length := Nat.le_of_eq (congrArg List.length same.symm)
  comes _ socket' found := Or.inr ⟨socket', same ▸ found, .kept rfl Iff.rfl id⟩
  beats _ beats := Or.inl (quiet.beats beats)
  handed _ _ member := Or.inl (quiet.2 member)

theorem effect_map {f : Socket → Socket} (same : client'.sockets = client.sockets.map f)
    (grown : ∀ w socket, Grown config client e w socket (f socket)) (quiet : Quiet client client') :
    Effect config client e client' where
  length := by rw [same, List.length_map]
  comes w socket' found := by
    rw [same, List.getElem?_map, Option.map_eq_some_iff] at found
    obtain ⟨socket, there, rfl⟩ := found
    exact Or.inr ⟨socket, there, grown w socket⟩
  beats _ beats := Or.inl (quiet.beats beats)
  handed _ _ member := Or.inl (quiet.2 member)

theorem effect_modify {f : Socket → Socket} (same : client'.sockets = client.sockets.modify w f)
    (grown : ∀ socket, client.sockets[w]? = some socket → Grown config client e w socket (f socket))
    (quiet : Quiet client client') : Effect config client e client' where
  length := by rw [same, List.length_modify]
  comes v socket' found := by
    rw [same, List.getElem?_modify] at found
    split at found
    · rename_i here
      subst here
      obtain ⟨socket, there, rfl⟩ := Option.map_eq_some_iff.mp found
      exact Or.inr ⟨socket, there, grown socket there⟩
    · obtain ⟨socket, there, rfl⟩ := Option.map_eq_some_iff.mp found
      exact Or.inr ⟨socket, there, .kept rfl Iff.rfl id⟩
  beats _ beats := Or.inl (quiet.beats beats)
  handed _ _ member := Or.inl (quiet.2 member)

theorem effect_set {socket' : Socket} (there : client.sockets[w]? = some socket)
    (same : client'.sockets = client.sockets.set w socket') (grown : Grown config client e w socket socket')
    (beats : ∀ v, client'.heartbeatFuture = some v →
      client.heartbeatFuture = some v ∨ v = w ∧ socket'.stage ≠ .connecting)
    (handed : client'.handed ⊆ client.handed) : Effect config client e client' where
  length := by rw [same, List.length_set]
  comes v found' found := by
    rw [same, List.getElem?_set] at found
    split at found
    · rename_i here
      subst here
      split at found
      · exact Or.inr ⟨socket, there, Option.some.inj found ▸ grown⟩
      · cases found
    · exact Or.inr ⟨found', found, .kept rfl Iff.rfl id⟩
  beats v now := by
    refine (beats v now).imp_right fun started => ⟨socket', ?_, started.2⟩
    rw [same, started.1, List.getElem?_set_self (List.getElem?_eq_some_iff.mp there).1]
  handed _ _ member := Or.inl (handed member)

theorem effect_take (effect : Effect config client e client') (raw : RawFrame) (plain : ¬IsAuth raw) :
    Effect config client e (client'.take raw) := by
  unfold take
  split
  · refine ⟨effect.length, effect.comes, effect.beats, fun v r member => ?_⟩
    rcases List.mem_append.mp member with old | new
    · exact effect.handed v r old
    · obtain ⟨_, rfl⟩ := Prod.mk.inj (List.mem_singleton.mp new)
      exact Or.inr plain
  · exact effect

theorem quiet_scheduleReconnect {closed : RealtimeClient} (quiet : Quiet client closed) :
    Quiet client (scheduleReconnect config closed) := by
  rw [Quiet, heartbeatFuture_scheduleReconnect, handed_scheduleReconnect]
  exact quiet

theorem quiet_refl : Quiet client client := ⟨Or.inl rfl, List.Subset.refl _⟩

theorem enter_connecting (channelId : String) (met : Bool) (stage : Stage) :
    stage.enter channelId met = .connecting ↔ stage = .connecting := by
  cases stage with
  | greeting ahead passed =>
      rw [Stage.enter]
      split <;> exact iff_of_false nofun nofun
  | _ => exact Iff.rfl

theorem leave_connecting (channelId : String) (stage : Stage) :
    stage.leave channelId = .connecting ↔ stage = .connecting := by
  cases stage with
  | greeting ahead passed => exact iff_of_false nofun nofun
  | _ => exact Iff.rfl

structure Sound (client : RealtimeClient) : Prop where
  before : ∀ (w : Nat) (socket : Socket), client.sockets[w]? = some socket → socket.stage = .connecting →
    ∀ raw ∈ socket.frames, ¬IsAuth raw
  after : ∀ (w : Nat) (socket : Socket), client.sockets[w]? = some socket → socket.stage ≠ .connecting →
    socket.frames ≠ [] ∨ socket.refuses = true
  beats : ∀ w, client.heartbeatFuture = some w → ∃ socket, client.sockets[w]? = some socket ∧
    socket.stage ≠ .connecting
  handed : ∀ w raw, (w, raw) ∈ client.handed → ¬IsAuth raw

theorem effect_step (sound : Sound client) (taken : step config client e = some client') :
    Effect config client e client' := by
  cases e with
  | connect => exact Option.some.inj taken ▸ effect_of_eq rfl quiet_refl
  | disconnect =>
      rw [← Option.some.inj taken, disconnect]
      cases current : client.webSocket with
      | none => exact effect_of_eq rfl ⟨Or.inr rfl, List.Subset.refl _⟩
      | some w =>
          exact effect_modify (w := w) (f := Socket.close) rfl (fun _ _ => .kept rfl Iff.rfl fun _ => rfl)
            ⟨Or.inr rfl, List.Subset.refl _⟩
  | subscribe channelId listener met =>
      rw [← Option.some.inj taken, subscribe]
      split
      · exact effect_of_eq rfl quiet_refl
      · apply effect_take
        · refine effect_map rfl (fun w socket => ?_) ⟨Or.inl rfl, List.Subset.refl _⟩
          exact .kept rfl (enter_connecting channelId met socket.stage) id
        · exact plain_frame nofun
  | unsubscribe channelId listener =>
      rw [← Option.some.inj taken, unsubscribe]
      split
      · exact effect_of_eq rfl quiet_refl
      · split
        · apply effect_take
          · refine effect_map rfl (fun w socket => ?_) ⟨Or.inl rfl, List.Subset.refl _⟩
            exact .kept rfl (leave_connecting channelId socket.stage) id
          · exact plain_frame nofun
        · exact effect_of_eq rfl quiet_refl
  | publish channelId payload => exact Option.some.inj taken ▸ effect_take (effect_of_eq rfl quiet_refl) _ (plain_frame nofun)
  | unicast userId payload => exact Option.some.inj taken ▸ effect_take (effect_of_eq rfl quiet_refl) _ (plain_frame nofun)
  | replay channelId sinceUnixSeconds => exact Option.some.inj taken ▸ effect_take (effect_of_eq rfl quiet_refl) _ (plain_frame nofun)
  | handOver i =>
      obtain ⟨⟨w, raw⟩, handed, rfl⟩ := Option.map_eq_some_iff.mp taken
      exact effect_modify (w := w) (f := Socket.send raw) rfl
        (fun socket _ => .handed rfl handed (stage_send raw socket) (sends_send raw socket))
        ⟨Or.inl rfl, List.eraseIdx_subset⟩
  | runQueued =>
      simp only [step] at taken
      split at taken
      · rw [← Option.some.inj taken, openSocket]
        split <;> exact effect_of_eq rfl quiet_refl
      · cases taken
  | timer =>
      simp only [step] at taken
      split at taken
      · rw [← Option.some.inj taken, openSocket]
        split
        · exact effect_of_eq rfl quiet_refl
        · split <;> exact effect_of_eq rfl quiet_refl
      · cases taken
  | provided token =>
      simp only [step] at taken
      split at taken
      · rw [← Option.some.inj taken]
        unfold provided
        split
        · exact effect_of_eq sockets_scheduleReconnect (quiet_scheduleReconnect quiet_refl)
        · exact effect_of_eq rfl quiet_refl
      · cases taken
  | create =>
      simp only [step] at taken
      split at taken
      · rename_i token _
        rw [← Option.some.inj taken]
        refine ⟨?_, fun w socket' found => ?_, fun _ => Or.inl, fun _ _ => Or.inl⟩
        · have grown : (client.sockets ++ [({ token } : Socket)]).length = client.sockets.length + 1 := List.length_append
          exact (Nat.le_add_right _ 1).trans grown.ge
        change (client.sockets ++ [({ token } : Socket)])[w]? = some socket' at found
        rw [List.getElem?_append] at found
        split at found
        · exact Or.inr ⟨socket', found, .kept rfl Iff.rfl id⟩
        · rename_i beyond
          rw [List.mem_singleton.mp (List.mem_of_getElem? found)]
          exact Or.inl ⟨List.getElem?_eq_none (Nat.le_of_not_lt beyond), rfl, rfl⟩
      · cases taken
  | heartbeat =>
      simp only [step] at taken
      split at taken
      · rename_i w _ beats
        obtain ⟨socket, there, started⟩ := sound.beats w beats
        rw [← Option.some.inj taken]
        refine effect_modify (w := w) (f := Socket.send _) rfl (fun s found => ?_) quiet_refl
        obtain rfl := Option.some.inj (there.symm.trans found)
        exact .wrote _ started (by rw [stage_send]; exact started) (sends_send _ socket)
      · cases taken
  | onOpen w =>
      obtain ⟨socket, there, taken⟩ := Option.bind_eq_some_iff.mp taken
      obtain ⟨guard, same⟩ := Option.ite_none_right_eq_some.mp taken
      rw [← Option.some.inj same]
      refine effect_set there rfl (.greeted guard.1 ?_ ?_) (fun _ => Or.inl) (List.Subset.refl _)
      · rw [stage_send]
        exact nofun
      · exact sends_staged (frame config .auth "" socket.token) socket _
  | resubscribe w channelId =>
      obtain ⟨socket, there, taken⟩ := Option.bind_eq_some_iff.mp taken
      split at taken
      · rename_i ahead passed stage
        obtain ⟨_, same⟩ := Option.ite_none_right_eq_some.mp taken
        rw [← Option.some.inj same]
        refine effect_set there rfl (.wrote (frame config .subscribe channelId "") ?_ ?_ ?_) (fun _ => Or.inl)
          (List.Subset.refl _)
        · rw [stage]
          exact nofun
        · rw [stage_send]
          exact nofun
        · exact sends_staged (frame config .subscribe channelId "") socket _
      · cases taken
  | opened w =>
      obtain ⟨socket, there, taken⟩ := Option.bind_eq_some_iff.mp taken
      split at taken
      · rename_i ahead passed stage
        obtain ⟨_, same⟩ := Option.ite_none_right_eq_some.mp taken
        rw [← Option.some.inj same]
        refine effect_set there rfl (.kept rfl (iff_of_false nofun (by rw [stage]; exact nofun)) id)
          (fun v beats => ?_) (List.Subset.refl _)
        exact Or.inr ⟨(Option.some.inj beats).symm, nofun⟩
      · cases taken
  | peerCloses w code reason =>
      obtain ⟨socket, there, taken⟩ := Option.bind_eq_some_iff.mp taken
      obtain ⟨_, same⟩ := Option.ite_none_right_eq_some.mp taken
      rw [← Option.some.inj same]
      exact effect_set there rfl (.kept rfl Iff.rfl id) (fun _ => Or.inl) (List.Subset.refl _)
  | onClosed w =>
      obtain ⟨socket, there, taken⟩ := Option.bind_eq_some_iff.mp taken
      split at taken
      · rename_i code reason _
        obtain ⟨_, same⟩ := Option.ite_none_right_eq_some.mp taken
        rw [← Option.some.inj same]
        obtain ⟨closed, sockets, still, handed, plain | again⟩ :=
          @onClosed_cases config client w socket code reason
        · rw [plain]
          exact effect_set there sockets (.kept rfl Iff.rfl fun _ => refuses_closed) (by simp [still])
            (handed ▸ List.Subset.refl _)
        · rw [again]
          refine effect_set there (sockets_scheduleReconnect.trans sockets) (.kept rfl Iff.rfl fun _ => refuses_closed)
            (by simp [heartbeatFuture_scheduleReconnect, still]) ?_
          rw [handed_scheduleReconnect, handed]
          exact List.Subset.refl _
      · cases taken
  | onFailure w =>
      obtain ⟨socket, there, taken⟩ := Option.bind_eq_some_iff.mp taken
      obtain ⟨_, same⟩ := Option.ite_none_right_eq_some.mp taken
      rw [← Option.some.inj same]
      refine effect_set there sockets_onFailure (.kept rfl Iff.rfl fun _ => refuses_failed) (fun v beats => ?_) ?_
      · rw [onFailure, heartbeatFuture_scheduleReconnect] at beats
        cases beats
      · rw [onFailure, handed_scheduleReconnect]
        exact List.Subset.refl _

theorem sound_start : Sound {} :=
  ⟨fun _ _ found => by simp at found, fun _ _ found => by simp at found, nofun, nofun⟩

theorem sound_step (sound : Sound client) (taken : step config client e = some client') : Sound client' := by
  have effect := effect_step sound taken
  refine ⟨fun w socket' found still raw member => ?_, fun w socket' found started => ?_, fun w beats => ?_,
    fun w raw member => ?_⟩
  · rcases effect.comes w socket' found with ⟨_, none, _⟩ | ⟨socket, there, grown⟩
    · rw [none] at member
      cases member
    · cases grown with
      | kept frames stage _ => exact sound.before w socket there (stage.mp still) raw (frames ▸ member)
      | greeted _ after _ => exact absurd still after
      | wrote _ _ after _ => exact absurd still after
      | handed _ handed stage sends =>
          have old := sound.before w socket there (stage ▸ still)
          unfold Sends at sends
          split at sends
          · exact old raw (sends.1 ▸ member)
          · rw [sends, List.mem_append, List.mem_singleton] at member
            rcases member with was | rfl
            · exact old raw was
            · exact sound.handed w raw (List.mem_of_getElem? handed)
  · rcases effect.comes w socket' found with ⟨_, _, fresh⟩ | ⟨socket, there, grown⟩
    · exact absurd fresh started
    · have sent : ∀ raw, Sends raw socket socket' → socket'.frames ≠ [] ∨ socket'.refuses = true := by
        intro raw sends
        unfold Sends at sends
        split at sends
        · exact Or.inr sends.2
        · rw [sends]
          exact Or.inl (by simp)
      cases grown with
      | kept frames stage refuses =>
          rw [frames]
          exact (sound.after w socket there fun still => started (stage.mpr still)).imp_right refuses
      | greeted _ _ sends | wrote _ _ _ sends => exact sent _ sends
      | handed _ _ _ sends => exact sent _ sends
  · rcases effect.beats w beats with before | now
    · obtain ⟨socket, there, started⟩ := sound.beats w before
      have bound := (List.getElem?_eq_some_iff.mp there).1
      have still : w < client'.sockets.length := Nat.lt_of_lt_of_le bound effect.length
      refine ⟨client'.sockets.get ⟨w, still⟩, List.getElem?_eq_getElem still, ?_⟩
      rcases effect.comes w _ (List.getElem?_eq_getElem still) with ⟨none, _⟩ | ⟨old, found, grown⟩
      · rw [there] at none
        cases none
      · obtain rfl := Option.some.inj (there.symm.trans found)
        cases grown with
        | kept _ stage _ => exact fun fresh => started (stage.mp fresh)
        | greeted before _ _ => exact absurd before started
        | wrote _ _ after _ => exact after
        | handed _ _ stage _ => exact fun fresh => started (stage.symm.trans fresh)
    · exact now
  · rcases effect.handed w raw member with old | plain
    · exact sound.handed w raw old
    · exact plain

theorem frames_nil (sound : Sound client) (first : AuthFirst client) (there : client.sockets[w]? = some socket)
    (fresh : socket.stage = .connecting) : socket.frames = [] := by
  cases frames : socket.frames with
  | nil => rfl
  | cons raw rest =>
      have auth := first w socket there raw (by rw [frames]; rfl)
      exact absurd auth (sound.before w socket there fresh raw (by simp [frames]))

theorem auth_first_of_sends {socket' : Socket} (sends : Sends raw socket socket')
    (first : ∀ raw, socket.frames.head? = some raw → IsAuth raw) (begun : socket.frames ≠ [] ∨ socket.refuses = true) :
    ∀ raw, socket'.frames.head? = some raw → IsAuth raw := by
  unfold Sends at sends
  split at sends
  · rw [sends.1]
    exact first
  · rename_i takes
    obtain ⟨one, rest, frames⟩ := List.exists_cons_of_ne_nil (begun.resolve_right takes)
    rw [sends, frames]
    rw [frames] at first
    exact first

theorem auth_first_step_iff (sound : Sound client) (first : AuthFirst client)
    (taken : step config client e = some client') : AfterOpen client e ↔ AuthFirst client' := by
  have effect := effect_step sound taken
  constructor
  · intro ordered w socket' found
    rcases effect.comes w socket' found with ⟨_, none, _⟩ | ⟨socket, there, grown⟩
    · rw [none]
      exact nofun
    · have was := first w socket there
      cases grown with
      | kept frames _ _ =>
          rw [frames]
          exact was
      | greeted before _ sends =>
          have none := frames_nil sound first there before
          unfold Sends at sends
          split at sends
          · rw [sends.1, none]
            exact nofun
          · intro raw head
            rw [sends, none] at head
            exact Option.some.inj head ▸ (isAuth_frame_iff config .auth "" socket.token).mpr rfl
      | wrote _ before _ sends => exact auth_first_of_sends sends was (sound.after w socket there before)
      | handed event handed _ sends =>
          subst event
          have late := ordered w _ socket handed there
          by_cases fresh : socket.stage = .connecting
          · exact auth_first_of_sends sends was (Or.inr (late fresh))
          · exact auth_first_of_sends sends was (sound.after w socket there fresh)
  · intro after
    cases e with
    | handOver i =>
        intro w raw socket handed there fresh
        by_contra takes
        have none := frames_nil sound first there fresh
        have result : client' = send w raw { client with handed := client.handed.eraseIdx i } := by
          simp only [step, handed, Option.map_some, Option.some.injEq] at taken
          exact taken.symm
        have found : client'.sockets[w]? = some (socket.send raw) := by
          rw [result]
          show (client.sockets.modify w (Socket.send raw))[w]? = _
          simp [there]
        have sent : (socket.send raw).frames = [raw] := by
          rw [Socket.send, if_neg takes, none]
          rfl
        have auth := after w _ found raw (by rw [sent]; rfl)
        exact sound.handed w raw (List.mem_of_getElem? handed) auth
    | _ => trivial

end

/-- In every run AUTH is first on every socket, in every state, exactly while no frame of the application
comes to a socket between its creation and its `onOpen`. -/
theorem auth_first_iff (config : RealtimeClientConfig) (es : List Event) (client : RealtimeClient)
    (reached : (step config).run {} es = some client) :
    (step config).Meets AfterOpen {} es ↔ (step config).Throughout AuthFirst {} es := by
  have start : AuthFirst {} := fun _ _ found => by simp at found
  exact Step.meets_iff_throughout (fun _ _ _ sound taken => sound_step sound taken)
    (fun _ _ _ sound first taken => auth_first_step_iff sound first taken) reached sound_start start

def sample : RealtimeClientConfig := ⟨List.Vector.replicate 16 0, .token "t", true⟩

def early : List Event := [.connect, .runQueued, .create, .publish "room" "hi", .handOver 0]

theorem published_first : ∃ client, (step sample).run {} early = some client ∧ ¬AuthFirst client := by
  refine ⟨_, rfl, fun first => ?_⟩
  have auth := first 0 _ rfl (frame sample .publish "room" "hi") rfl
  cases (isAuth_frame_iff sample .publish "room" "hi").mp auth

theorem auth_first_iff_early : (step sample).Meets AfterOpen {} early ↔ (step sample).Throughout AuthFirst {} early :=
  auth_first_iff sample early _ rfl

end RealtimePlatform.Proof.AndroidAuth
