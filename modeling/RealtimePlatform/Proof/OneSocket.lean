import RealtimePlatform.Sdk.Link

namespace RealtimePlatform.Proof.OneSocket
open Library Sdk Sdk.Link Utf16
open Backend (Opcode)

def Live (socket : Socket) : Prop := socket.readyState = .connecting ∨ socket.readyState = .opened

def authFrame (config : RealtimeClientConfig) (socket : Socket) : FrameFields := frame config .auth [] socket.token

structure OneLive {η : Type*} (config : RealtimeClientConfig) (link : Link η) : Prop where
  one : ∀ (w v : Nat) (socket other : Socket), link.sockets[w]? = some socket → link.sockets[v]? = some other →
    Live socket → Live other → w = v
  current : ∀ w, link.ws = some w ↔ ∃ socket, link.sockets[w]? = some socket ∧ Live socket
  auth : ∀ socket ∈ link.sockets, ∀ first, socket.frames.head? = some first → first = authFrame config socket

def Superseded {η : Type*} (link : Link η) : LinkEvent η → Prop
  | .onOpen w | .onMessage w _ | .onError w | .onClose w _ => link.ws ≠ some w
  | .emitted => link.emitting = some true
  | _ => False

structure Unmoved {η : Type*} (link link' : Link η) : Prop where
  ws : link'.ws = link.ws
  heartbeatTimer : link'.heartbeatTimer = link.heartbeatTimer
  reconnectAttempt : link'.reconnectAttempt = link.reconnectAttempt
  reconnectTimer : link'.reconnectTimer = link.reconnectTimer
  timers : link'.timers = link.timers

/-- No event of a superseded socket moves anything. -/
def Harmless {η : Type*} [DecidableEq η] (config : RealtimeClientConfig) (link : Link η) : Prop :=
  ∀ e link', Superseded link e → step config link e = some link' → Unmoved link link'

structure AtRest {η : Type*} (link : Link η) : Prop where
  fetching : link.fetching = 0
  resolving : link.resolving = 0
  timers : link.timers = []
  emitting : link.emitting = none
  sockets : ∀ socket ∈ link.sockets, socket.readyState = .closed

/-- `connect` is called at rest. -/
def Rested {η : Type*} (link : Link η) : LinkEvent η → Prop
  | .connect => AtRest link
  | _ => True

section
variable {η : Type*} {config : RealtimeClientConfig} {link link' : Link η}

def busy (link : Link η) : Nat :=
  link.fetching + link.resolving + link.timers.length + link.emitting.elim 0 fun _ => 1

structure Greeted (config : RealtimeClientConfig) (socket : Socket) : Prop where
  connecting : socket.readyState = .connecting → socket.frames = []
  opened : socket.readyState = .opened → socket.frames ≠ []
  auth : ∀ first, socket.frames.head? = some first → first = authFrame config socket

structure Alone (config : RealtimeClientConfig) (link : Link η) : Prop where
  busy : busy link ≤ 1
  last : ∀ (w : Nat) (socket : Socket), link.sockets[w]? = some socket → socket.readyState ≠ .closed →
    w + 1 = link.sockets.length ∧ OneSocket.busy link = 0
  current : ∀ w, link.ws = some w ↔ ∃ socket, link.sockets[w]? = some socket ∧ Live socket
  closing : ∀ (w : Nat) (socket : Socket), link.sockets[w]? = some socket → socket.readyState = .closing →
    link.closedByUser = true
  beating : link.heartbeatTimer = true → link.ws ≠ none
  stale : link.emitting = some true → link.closedByUser = true
  greeted : ∀ (w : Nat) (socket : Socket), link.sockets[w]? = some socket → Greeted config socket

theorem live_not_closed {socket : Socket} (live : Live socket) : socket.readyState ≠ .closed := by
  intro closed
  rcases live with connecting | opened
  · exact absurd (connecting.symm.trans closed) nofun
  · exact absurd (opened.symm.trans closed) nofun

theorem oneLive_of_alone (alone : Alone config link) : OneLive config link := by
  refine ⟨fun w v socket other found there live lives => ?_, alone.current, fun socket member => ?_⟩
  · have one := (alone.current w).mpr ⟨socket, found, live⟩
    exact Option.some.inj (one.symm.trans ((alone.current v).mpr ⟨other, there, lives⟩))
  · obtain ⟨w, found⟩ := List.mem_iff_getElem?.mp member
    exact (alone.greeted w socket found).auth

theorem not_closed_of_live_iff {socket : Socket} :
    Live socket ↔ socket.readyState ≠ .closed ∧ socket.readyState ≠ .closing := by
  rw [Live]
  cases socket.readyState <;> simp

theorem closed_of_busy (alone : Alone config link) (under : 0 < OneSocket.busy link) (w : Nat) (socket : Socket)
    (found : link.sockets[w]? = some socket) : socket.readyState = .closed := by
  by_contra still
  have idle := (alone.last w socket found still).2
  omega

theorem alone_without_sockets (alone : Alone config link)
    (closed : ∀ (w : Nat) (socket : Socket), link.sockets[w]? = some socket → socket.readyState = .closed)
    (busy : OneSocket.busy link' ≤ 1) (sockets : link'.sockets = link.sockets) (ws : link'.ws = link.ws)
    (heartbeat : link'.heartbeatTimer = link.heartbeatTimer)
    (stale : link'.emitting = some true → link'.closedByUser = true) : Alone config link' := by
  refine ⟨busy, ?_, ?_, ?_, ?_, stale, ?_⟩
  · rw [sockets]
    exact fun w socket found still => absurd (closed w socket found) still
  · rw [sockets, ws]
    exact alone.current
  · rw [sockets]
    exact fun w socket found closing => absurd ((closed w socket found).symm.trans closing) nofun
  · rw [heartbeat, ws]
    exact alone.beating
  · rw [sockets]
    exact alone.greeted

theorem alone_modify {w : Nat} {f : Socket → Socket} (alone : Alone config link)
    (sockets : link'.sockets = link.sockets.modify w f)
    (closed : ∀ socket, link.sockets[w]? = some socket →
      ((f socket).readyState = .closed ↔ socket.readyState = .closed))
    (closing : ∀ socket, link.sockets[w]? = some socket →
      ((f socket).readyState = .closing ↔ socket.readyState = .closing))
    (greeted : ∀ socket, link.sockets[w]? = some socket → Greeted config socket → Greeted config (f socket))
    (busy : OneSocket.busy link' = OneSocket.busy link) (ws : link'.ws = link.ws)
    (user : link'.closedByUser = link.closedByUser) (beating : link'.heartbeatTimer = true → link.ws ≠ none)
    (emitting : link'.emitting = link.emitting) : Alone config link' := by
  refine ⟨busy ▸ alone.busy, fun v socket' found still => ?_, fun v => ?_, fun v socket' found leaving => ?_, ?_, ?_,
    fun v socket' found => ?_⟩
  · rw [sockets] at found
    rw [busy, sockets, List.length_modify]
    obtain ⟨socket, there, ⟨rfl, rfl⟩ | ⟨_, rfl⟩⟩ := modify_cases found
    · exact alone.last v socket there fun ended => still ((closed socket there).mpr ended)
    · exact alone.last v socket' there still
  · rw [ws, alone.current, sockets]
    constructor
    · rintro ⟨socket, there, live⟩
      by_cases own : v = w
      · subst own
        refine ⟨f socket, by rw [List.getElem?_modify_eq, there]; rfl, not_closed_of_live_iff.mpr ?_⟩
        rw [ne_eq, ne_eq, closed socket there, closing socket there]
        exact not_closed_of_live_iff.mp live
      · exact ⟨socket, by rw [List.getElem?_modify_ne _ _ (Ne.symm own), there], live⟩
    · rintro ⟨socket', found, live⟩
      obtain ⟨socket, there, ⟨rfl, rfl⟩ | ⟨_, rfl⟩⟩ := modify_cases found
      · refine ⟨socket, there, not_closed_of_live_iff.mpr ?_⟩
        rw [ne_eq, ne_eq, ← closed socket there, ← closing socket there]
        exact not_closed_of_live_iff.mp live
      · exact ⟨socket', there, live⟩
  · rw [sockets] at found
    rw [user]
    obtain ⟨socket, there, ⟨rfl, rfl⟩ | ⟨_, rfl⟩⟩ := modify_cases found
    · exact alone.closing v socket there ((closing socket there).mp leaving)
    · exact alone.closing v socket' there leaving
  · rw [ws]
    exact beating
  · rw [emitting, user]
    exact alone.stale
  · rw [sockets] at found
    obtain ⟨socket, there, ⟨rfl, rfl⟩ | ⟨_, rfl⟩⟩ := modify_cases found
    · exact greeted socket there (alone.greeted v socket there)
    · exact alone.greeted v socket' there

theorem greeted_put {socket : Socket} (greeted : Greeted config socket) (opened : socket.readyState = .opened)
    (frames : List FrameFields) (flushed : List PendingSend) : Greeted config (put frames flushed socket) := by
  have begun := greeted.opened opened
  refine ⟨fun connecting => absurd (opened.symm.trans connecting) nofun, fun _ none => ?_, fun first head => ?_⟩
  · exact begun (List.append_eq_nil_iff.mp none).1
  · rw [put, List.head?_append_of_ne_nil _ begun] at head
    exact greeted.auth first head

theorem alone_write (alone : Alone config link) {frames : List FrameFields} (ready : frames = [] ∨ link.isOpen = true) :
    Alone config (write frames [] link) := by
  cases current : link.ws with
  | none =>
      rw [write_of_none current]
      exact alone
  | some w =>
      rw [write_of_ws current]
      refine alone_modify alone rfl (fun _ _ => Iff.rfl) (fun _ _ => Iff.rfl) (fun socket there greeted => ?_) rfl rfl
        rfl (fun _ => by rw [current]; exact nofun) rfl
      rcases ready with rfl | opened
      · rw [put, List.append_nil, List.append_nil]
        exact greeted
      · obtain ⟨v, other, now, found, opened⟩ := isOpen_iff.mp opened
        obtain rfl := Option.some.inj (current.symm.trans now)
        obtain rfl := Option.some.inj (there.symm.trans found)
        exact greeted_put greeted opened frames []

theorem alone_of_eq (alone : Alone config link) (sockets : link'.sockets = link.sockets) (ws : link'.ws = link.ws)
    (user : link'.closedByUser = link.closedByUser) (heartbeat : link'.heartbeatTimer = link.heartbeatTimer)
    (busy : OneSocket.busy link' = OneSocket.busy link) (emitting : link'.emitting = link.emitting) :
    Alone config link' := by
  refine alone_modify (w := 0) (f := id) alone ?_ (fun _ _ => Iff.rfl) (fun _ _ => Iff.rfl) (fun _ _ => id) busy ws user
    (fun beats => alone.beating (heartbeat ▸ beats)) emitting
  rw [List.modify_id, sockets]

theorem alone_call (alone : Alone config link) (opcode : Opcode) (channelId payload : Utf16) :
    Alone config (sendOrQueue config opcode channelId payload link) := by
  unfold sendOrQueue
  split
  · rename_i opened
    exact alone_write alone (Or.inr opened)
  · exact alone_of_eq alone rfl rfl rfl rfl rfl rfl

theorem alone_sendChunks (alone : Alone config link) (opcode : Opcode) (rolls : List.Vector (Fin 36) 4)
    (channelId payload : Utf16) : Alone config (sendChunks config opcode rolls channelId payload link) := by
  unfold sendChunks
  split
  · exact alone
  · rename_i chunks cut
    clear cut
    induction chunks generalizing link with
    | nil => exact alone
    | cons chunk chunks ih => exact ih (alone_call alone opcode channelId chunk)

theorem busy_openSocket : OneSocket.busy (openSocket config link) = OneSocket.busy link + 1 := by
  unfold openSocket
  split
  · rw [OneSocket.busy, OneSocket.busy]
    dsimp only
    omega
  · rw [OneSocket.busy, OneSocket.busy]
    dsimp only
    omega

theorem alone_openSocket (alone : Alone config link) (idle : OneSocket.busy link' = 0)
    (closed : ∀ (w : Nat) (socket : Socket), link.sockets[w]? = some socket → socket.readyState = .closed)
    (sockets : link'.sockets = link.sockets) (ws : link'.ws = link.ws)
    (heartbeat : link'.heartbeatTimer = link.heartbeatTimer) (emitting : link'.emitting = none) :
    Alone config (openSocket config link') := by
  have begun : OneSocket.busy (openSocket config link') ≤ 1 := by rw [busy_openSocket, idle]
  unfold openSocket at begun ⊢
  split at begun
  · rename_i getToken
    rw [if_pos getToken]
    refine alone_without_sockets alone closed begun sockets ws heartbeat fun stale => ?_
    exact absurd (emitting.symm.trans stale) nofun
  · rename_i getToken
    rw [if_neg getToken]
    refine alone_without_sockets alone closed begun sockets ws heartbeat fun stale => ?_
    exact absurd (emitting.symm.trans stale) nofun

theorem closed_of_atRest (rest : AtRest link) (w : Nat) (socket : Socket) (found : link.sockets[w]? = some socket) :
    socket.readyState = .closed :=
  rest.sockets socket (List.mem_of_getElem? found)

theorem alone_connect (alone : Alone config link) (rest : AtRest link) : Alone config (connect config link) := by
  refine alone_openSocket alone ?_ (closed_of_atRest rest) rfl rfl rfl rest.emitting
  rw [OneSocket.busy, rest.fetching, rest.resolving, rest.timers, rest.emitting]
  rfl

theorem alone_resolved (alone : Alone config link) (busy : OneSocket.busy link ≤ 0) (found : Bool)
    (closed : ∀ (w : Nat) (socket : Socket), link.sockets[w]? = some socket → socket.readyState = .closed) :
    Alone config (resolved found link) := by
  unfold resolved
  split
  · exact alone
  · split
    · exact alone
    · exact alone
    · rename_i token _ _
      have idle := Nat.le_zero.mp busy
      refine ⟨idle.le.trans (Nat.zero_le 1), fun w socket there _ => ?_, fun w => ?_, fun w socket there closing => ?_,
        fun _ => nofun, alone.stale, fun w socket there => ?_⟩
      · rcases append_cases there with old | ⟨rfl, _⟩
        · rename_i still
          exact absurd (closed w socket old) still
        · exact ⟨by rw [List.length_append]; rfl, idle⟩
      · constructor
        · intro current
          obtain rfl := Option.some.inj current
          exact ⟨_, List.getElem?_concat_length, Or.inl rfl⟩
        · rintro ⟨socket, there, live⟩
          rcases append_cases there with old | ⟨rfl, _⟩
          · exact absurd (closed w socket old) (live_not_closed live)
          · rfl
      · rcases append_cases there with old | ⟨_, rfl⟩
        · exact alone.closing w socket old closing
        · cases closing
      · rcases append_cases there with old | ⟨_, rfl⟩
        · exact alone.greeted w socket old
        · exact ⟨fun _ => rfl, nofun, nofun⟩

theorem busy_disconnect : OneSocket.busy (disconnect link) ≤ OneSocket.busy link := by
  have shorter : link.clearReconnect.length ≤ link.timers.length := by
    unfold clearReconnect
    split
    · exact List.length_erase_le
    · exact Nat.le_refl _
  rw [OneSocket.busy, OneSocket.busy, disconnect]
  dsimp only
  omega

theorem not_live_leave (socket : Socket) : ¬Live (leave socket) := by
  unfold leave
  split
  · rename_i closed
    exact fun live => live_not_closed live closed
  · exact fun live => (not_closed_of_live_iff.mp live).2 rfl

theorem greeted_leave {socket : Socket} (greeted : Greeted config socket) : Greeted config (leave socket) := by
  unfold leave
  split
  · exact greeted
  · exact ⟨nofun, nofun, greeted.auth⟩

theorem closed_leave {socket : Socket} (closed : socket.readyState = .closed) : (leave socket).readyState = .closed := by
  rw [leave, if_pos closed, closed]

theorem alone_disconnect (alone : Alone config link) : Alone config (disconnect link) := by
  have comes : ∀ (v : Nat) (socket' : Socket), (disconnect link).sockets[v]? = some socket' →
      ∃ socket, link.sockets[v]? = some socket ∧ (socket' = leave socket ∨ link.ws ≠ some v ∧ socket' = socket) := by
    intro v socket' found
    unfold disconnect at found
    cases current : link.ws with
    | none =>
        rw [current] at found
        exact ⟨socket', found, Or.inr ⟨nofun, rfl⟩⟩
    | some w =>
        rw [current] at found
        obtain ⟨socket, there, ⟨_, rfl⟩ | ⟨other, rfl⟩⟩ := modify_cases found
        · exact ⟨socket, there, Or.inl rfl⟩
        · exact ⟨socket', there, Or.inr ⟨fun same => other (Option.some.inj same).symm, rfl⟩⟩
  have length : (disconnect link).sockets.length = link.sockets.length := by
    unfold disconnect
    cases link.ws with
    | none => rfl
    | some w => exact List.length_modify ..
  refine ⟨busy_disconnect.trans alone.busy, fun v socket' found still => ?_, fun v => iff_of_false nofun ?_,
    fun _ _ _ _ => rfl, nofun, fun _ => rfl, fun v socket' found => ?_⟩
  · obtain ⟨socket, there, left | ⟨_, rfl⟩⟩ := comes v socket' found
    · obtain ⟨last, idle⟩ := alone.last v socket there fun closed => still (left ▸ closed_leave closed)
      exact ⟨by rw [length, last], Nat.le_zero.mp (idle ▸ busy_disconnect)⟩
    · obtain ⟨last, idle⟩ := alone.last v socket' there still
      exact ⟨by rw [length, last], Nat.le_zero.mp (idle ▸ busy_disconnect)⟩
  · rintro ⟨socket', found, live⟩
    obtain ⟨socket, there, rfl | ⟨other, rfl⟩⟩ := comes v socket' found
    · exact not_live_leave socket live
    · exact other ((alone.current v).mpr ⟨socket', there, live⟩)
  · obtain ⟨socket, there, rfl | ⟨_, rfl⟩⟩ := comes v socket' found
    · exact greeted_leave (alone.greeted v socket there)
    · exact alone.greeted v socket' there

theorem alone_onClose (alone : Alone config link) {w code : Nat} {socket : Socket}
    (found : link.sockets[w]? = some socket) (unclosed : socket.readyState ≠ .closed) :
    Alone config (onClose config w code link) := by
  obtain ⟨last, idle⟩ := alone.last w socket found unclosed
  have closed : ∀ (v : Nat) (socket' : Socket), (onClose config w code link).sockets[v]? = some socket' →
      socket'.readyState = .closed := by
    intro v socket' there
    obtain ⟨other, before, ⟨_, rfl⟩ | ⟨different, rfl⟩⟩ := modify_cases there
    · rfl
    · by_contra still
      have := (alone.last v socket' before still).1
      omega
  refine ⟨?_, fun v socket' there still => absurd (closed v socket' there) still, fun v => iff_of_false nofun ?_,
    fun v socket' there closing => absurd ((closed v socket' there).symm.trans closing) nofun, nofun, ?_,
    fun v socket' there => ?_⟩
  · rw [OneSocket.busy] at idle ⊢
    rw [onClose]
    dsimp only [setReadyState]
    split
    · rw [Option.elim_some]
      omega
    · rw [Option.elim_none]
      omega
  · rintro ⟨socket', there, live⟩
    exact live_not_closed live (closed v socket' there)
  · intro stale
    rw [onClose] at stale
    dsimp only at stale
    split at stale
    · have other := of_decide_eq_true (Option.some.inj stale)
      refine alone.closing w socket found ?_
      by_contra notClosing
      exact other ((alone.current w).mpr ⟨socket, found, not_closed_of_live_iff.mpr ⟨unclosed, notClosing⟩⟩)
    · cases stale
  · obtain ⟨other, before, ⟨rfl, rfl⟩ | ⟨_, rfl⟩⟩ := modify_cases there
    · exact ⟨nofun, nofun, (alone.greeted v other before).auth⟩
    · exact alone.greeted v socket' before

theorem alone_judged (alone : Alone config link) (w : Nat) (accepted : Bool) :
    Alone config { link with sockets := link.sockets.modify w fun socket => { socket with accepted := some accepted } } := by
  refine alone_modify alone rfl (fun _ _ => Iff.rfl) (fun _ _ => Iff.rfl) (fun _ _ greeted => ?_) rfl rfl rfl
    alone.beating rfl
  exact ⟨greeted.connecting, greeted.opened, greeted.auth⟩

theorem alone_onOpen [DecidableEq η] (alone : Alone config link) {w : Nat} {socket : Socket}
    (found : link.sockets[w]? = some socket) (connecting : socket.readyState = .connecting) :
    Alone config (onOpen config w socket.token link) := by
  have current : link.ws = some w := (alone.current w).mpr ⟨socket, found, Or.inl connecting⟩
  have now : (opened w link).ws = some w := current
  rw [onOpen, if_pos (isOpen_opened found current), greet, write_of_ws now, onopen_frames]
  refine alone_modify alone (List.modify_modify_eq ..) (fun other there => ?_) (fun other there => ?_)
    (fun other there greeted => ?_) rfl rfl rfl (fun _ => by rw [current]; exact nofun) rfl
  · obtain rfl := Option.some.inj (found.symm.trans there)
    exact iff_of_false nofun fun closed => absurd (connecting.symm.trans closed) nofun
  · obtain rfl := Option.some.inj (found.symm.trans there)
    exact iff_of_false nofun fun closing => absurd (connecting.symm.trans closing) nofun
  · obtain rfl := Option.some.inj (found.symm.trans there)
    -- AUTH is the first frame, as there were none.
    have none := greeted.connecting connecting
    refine ⟨nofun, fun _ => ?_, fun first head => ?_⟩
    · rw [Function.comp_apply, put, none]
      exact nofun
    · rw [Function.comp_apply, put, none] at head
      exact (Option.some.inj head).symm

theorem alone_emitted (alone : Alone config link) (emitting : link.emitting.isSome = true) :
    Alone config (emitted config { link with emitting := none }) := by
  obtain ⟨stale, origin⟩ := Option.isSome_iff_exists.mp emitting
  have under : 0 < OneSocket.busy link := by
    rw [OneSocket.busy, origin, Option.elim_some]
    omega
  have idle : OneSocket.busy { link with emitting := none } = 0 := by
    have one := alone.busy
    rw [OneSocket.busy, origin, Option.elim_some] at one
    rw [OneSocket.busy, Option.elim_none]
    dsimp only
    omega
  unfold emitted
  split
  · refine alone_without_sockets alone (closed_of_busy alone under) ?_ rfl rfl rfl nofun
    rw [OneSocket.busy] at idle ⊢
    rw [scheduleReconnect]
    dsimp only at idle ⊢
    rw [List.length_append, List.length_singleton]
    omega
  · exact alone_without_sockets alone (closed_of_busy alone under) (idle.le.trans (Nat.zero_le 1)) rfl rfl rfl nofun

theorem alone_start : Alone config (Link.initial config : Link η) :=
  ⟨Nat.zero_le 1, nofun, fun _ => iff_of_false nofun nofun, nofun, nofun, nofun, nofun⟩

theorem nowhere_of_leaving (alone : Alone config link) {w : Nat} {socket : Socket}
    (found : link.sockets[w]? = some socket) (unclosed : socket.readyState ≠ .closed) (other : link.ws ≠ some w) :
    link.ws = none ∧ link.closedByUser = true := by
  constructor
  · cases current : link.ws with
    | none => rfl
    | some v =>
        obtain ⟨newer, there, live⟩ := (alone.current v).mp current
        have one := (alone.last w socket found unclosed).1
        have two := (alone.last v newer there (live_not_closed live)).1
        obtain rfl : v = w := by omega
        exact absurd current other
  · refine alone.closing w socket found ?_
    by_contra notClosing
    exact other ((alone.current w).mpr ⟨socket, found, not_closed_of_live_iff.mpr ⟨unclosed, notClosing⟩⟩)

variable [DecidableEq η] {e : LinkEvent η}

theorem alone_callback (alone : Alone config link) (quiet : ¬link.emitting.isSome = true)
    (taken : callback config link e = some link') : Alone config link' := by
  have nothing : link.emitting = none := Option.not_isSome_iff_eq_none.mp quiet
  cases e with
  | fetched fresh =>
      simp only [callback] at taken
      split at taken
      · cases taken
      · rename_i fetching under
        rw [← Option.some.inj taken]
        have one := alone.busy
        rw [OneSocket.busy, under, nothing, Option.elim_none] at one
        have closed := closed_of_busy alone (by rw [OneSocket.busy, under]; omega)
        unfold fetched
        split
        · refine alone_without_sockets alone closed ?_ rfl rfl rfl nofun
          rw [OneSocket.busy, Option.elim_some]
          dsimp only
          omega
        · split
          · refine alone_without_sockets alone closed ?_ rfl rfl rfl alone.stale
            rw [OneSocket.busy]
            dsimp only
            rw [nothing, Option.elim_none]
            omega
          · refine alone_without_sockets alone closed ?_ rfl rfl rfl alone.stale
            rw [OneSocket.busy]
            dsimp only
            rw [nothing, Option.elim_none]
            omega
  | resolved found =>
      simp only [callback] at taken
      split at taken
      · cases taken
      · rename_i resolving under
        obtain ⟨_, same⟩ := Option.ite_none_left_eq_some.mp taken
        rw [← Option.some.inj same]
        have one := alone.busy
        rw [OneSocket.busy, under, nothing, Option.elim_none] at one
        have closed := closed_of_busy alone (by rw [OneSocket.busy, under]; omega)
        have idle : OneSocket.busy { link with resolving, wsImpl := some found } ≤ 0 := by
          rw [OneSocket.busy]
          dsimp only
          rw [nothing, Option.elim_none]
          omega
        exact alone_resolved (alone_without_sockets alone closed (idle.trans (Nat.zero_le 1)) rfl rfl rfl alone.stale)
          idle found closed
  | timer id =>
      obtain ⟨scheduled, same⟩ := Option.ite_none_right_eq_some.mp taken
      rw [← Option.some.inj same]
      have one := alone.busy
      have fewer := List.length_erase_of_mem scheduled
      have scheduledOne := List.length_pos_of_mem scheduled
      rw [OneSocket.busy, nothing, Option.elim_none] at one
      have closed := closed_of_busy alone (by rw [OneSocket.busy]; omega)
      have idle : OneSocket.busy { link with timers := link.timers.erase id } = 0 := by
        rw [OneSocket.busy]
        dsimp only
        rw [nothing, Option.elim_none]
        omega
      dsimp only
      split
      · exact alone_without_sockets alone closed (idle.le.trans (Nat.zero_le 1)) rfl rfl rfl alone.stale
      · exact alone_openSocket alone idle closed rfl rfl rfl nothing
  | beat =>
      obtain ⟨_, same⟩ := Option.ite_none_right_eq_some.mp taken
      rw [← Option.some.inj same, beat]
      split
      · rename_i opened
        exact alone_write alone (Or.inr opened)
      · exact alone
  | onOpen w =>
      obtain ⟨socket, found, taken⟩ := Option.bind_eq_some_iff.mp taken
      obtain ⟨connecting, same⟩ := Option.ite_none_right_eq_some.mp taken
      exact Option.some.inj same ▸ alone_onOpen alone found connecting
  | onMessage w arrival =>
      obtain ⟨socket, found, taken⟩ := Option.bind_eq_some_iff.mp taken
      obtain ⟨_, same⟩ := Option.ite_none_right_eq_some.mp taken
      exact Option.some.inj same ▸ alone_of_eq alone rfl rfl rfl rfl rfl rfl
  | onError w =>
      obtain ⟨socket, found, taken⟩ := Option.bind_eq_some_iff.mp taken
      obtain ⟨_, same⟩ := Option.ite_none_right_eq_some.mp taken
      exact Option.some.inj same ▸ alone
  | onClose w code =>
      obtain ⟨socket, found, taken⟩ := Option.bind_eq_some_iff.mp taken
      obtain ⟨unclosed, same⟩ := Option.ite_none_right_eq_some.mp taken
      exact Option.some.inj same ▸ alone_onClose alone found unclosed
  | judged w accepted =>
      obtain ⟨socket, found, taken⟩ := Option.bind_eq_some_iff.mp taken
      obtain ⟨_, same⟩ := Option.ite_none_right_eq_some.mp taken
      exact Option.some.inj same ▸ alone_judged alone w accepted
  | _ => cases taken

theorem alone_step (alone : Alone config link) (rested : Rested link e) (taken : step config link e = some link') :
    Alone config link' := by
  cases e with
  | connect => exact Option.some.inj taken ▸ alone_connect alone rested
  | disconnect => exact Option.some.inj taken ▸ alone_disconnect alone
  | subscribe channelId handler =>
      rw [← Option.some.inj taken]
      have same : Alone config { link with subscriptions := link.subscriptions.add channelId handler } :=
        alone_of_eq alone rfl rfl rfl rfl rfl rfl
      refine alone_write same ?_
      split
      · rename_i fresh
        exact Or.inr fresh.2
      · exact Or.inl rfl
  | unsubscribe channelId handler =>
      rw [← Option.some.inj taken]
      have same : Alone config { link with subscriptions := link.subscriptions.remove channelId handler } :=
        alone_of_eq alone rfl rfl rfl rfl rfl rfl
      refine alone_write same ?_
      split
      · rename_i gone
        exact Or.inr gone.2
      · exact Or.inl rfl
  | publish rolls channelId payload =>
      exact Option.some.inj taken ▸ alone_sendChunks alone .publish rolls channelId payload
  | unicast rolls userId payload =>
      exact Option.some.inj taken ▸ alone_sendChunks alone .unicast rolls userId payload
  | replay channelId sinceUnixSeconds =>
      exact Option.some.inj taken ▸ alone_call alone .replay channelId sinceUnixSeconds
  | emitted =>
      obtain ⟨emitting, same⟩ := Option.ite_none_right_eq_some.mp taken
      exact Option.some.inj same ▸ alone_emitted alone emitting
  | fetched | resolved | timer | beat | onOpen | onMessage | onError | onClose | judged =>
      obtain ⟨quiet, taken⟩ := Option.ite_none_left_eq_some.mp taken
      exact alone_callback alone quiet taken

theorem harmless_of_alone (alone : Alone config link) : Harmless config link := by
  intro e link' superseded taken
  cases e with
  | onOpen w =>
      obtain ⟨_, taken⟩ := Option.ite_none_left_eq_some.mp taken
      obtain ⟨socket, found, taken⟩ := Option.bind_eq_some_iff.mp taken
      obtain ⟨connecting, _⟩ := Option.ite_none_right_eq_some.mp taken
      exact absurd ((alone.current w).mpr ⟨socket, found, Or.inl connecting⟩) superseded
  | onMessage w arrival =>
      obtain ⟨_, taken⟩ := Option.ite_none_left_eq_some.mp taken
      obtain ⟨socket, found, taken⟩ := Option.bind_eq_some_iff.mp taken
      obtain ⟨_, same⟩ := Option.ite_none_right_eq_some.mp taken
      exact Option.some.inj same ▸ ⟨rfl, rfl, rfl, rfl, rfl⟩
  | onError w =>
      obtain ⟨_, taken⟩ := Option.ite_none_left_eq_some.mp taken
      obtain ⟨socket, found, taken⟩ := Option.bind_eq_some_iff.mp taken
      obtain ⟨_, same⟩ := Option.ite_none_right_eq_some.mp taken
      exact Option.some.inj same ▸ ⟨rfl, rfl, rfl, rfl, rfl⟩
  | onClose w code =>
      obtain ⟨_, taken⟩ := Option.ite_none_left_eq_some.mp taken
      obtain ⟨socket, found, taken⟩ := Option.bind_eq_some_iff.mp taken
      obtain ⟨unclosed, same⟩ := Option.ite_none_right_eq_some.mp taken
      obtain ⟨nowhere, _⟩ := nowhere_of_leaving alone found unclosed superseded
      have silent : link.heartbeatTimer = false :=
        Bool.eq_false_iff.mpr fun beats => alone.beating beats nowhere
      exact Option.some.inj same ▸ ⟨nowhere.symm, silent.symm, rfl, rfl, rfl⟩
  | emitted =>
      obtain ⟨_, same⟩ := Option.ite_none_right_eq_some.mp taken
      have user := alone.stale superseded
      rw [← Option.some.inj same, emitted, if_neg (by simp [user])]
      exact ⟨rfl, rfl, rfl, rfl, rfl⟩
  | _ => cases superseded

end

def sample : RealtimeClientConfig := ⟨List.Vector.replicate 16 0, some (ofString "t"), false, true, 65536⟩

def reopened : List (LinkEvent Unit) := [.connect, .disconnect, .connect, .resolved true, .resolved true]

def closedFirst : List (LinkEvent Unit) :=
  [.connect, .resolved true, .onOpen 0, .disconnect, .onClose 0 1000, .emitted, .connect, .resolved true, .onOpen 1]

end RealtimePlatform.Proof.OneSocket
