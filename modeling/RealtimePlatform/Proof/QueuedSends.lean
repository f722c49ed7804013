import RealtimePlatform.Sdk.Link

namespace RealtimePlatform.Proof.QueuedSends
open Library Sdk Sdk.Link Utf16
open Backend (Opcode)

def Refused (socket : Socket) : Prop :=
  socket.accepted = some false ∨ socket.accepted = none ∧ socket.readyState = .closed

/-- Each call that was queued is in the queue still or among the frames of one connection, in the order of
the calls, and no connection that was refused has any. -/
structure NothingLost {η : Type*} (config : RealtimeClientConfig) (link : Link η) : Prop where
  inOrder : link.sockets.flatMap (·.flushed) ++ link.pendingSends = link.queuedCalls
  sent : ∀ socket ∈ link.sockets,
    (socket.flushed.map fun (opcode, channelId, payload) => frame config opcode channelId payload).Sublist socket.frames
  emptied : ∀ (w : Nat) (socket : Socket), link.ws = some w → link.sockets[w]? = some socket →
    socket.readyState = .opened → link.pendingSends = []
  kept : ∀ socket ∈ link.sockets, Refused socket → socket.flushed = []

/-- A connection is rejected, or ends without a judgement, only if it was given nothing from the queue. -/
def RefusedEmpty {η : Type*} (link : Link η) : LinkEvent η → Prop
  | .judged w false => ∀ socket : Socket, link.sockets[w]? = some socket → socket.flushed = []
  | .onClose w _ => ∀ socket : Socket, link.sockets[w]? = some socket → socket.accepted = none → socket.flushed = []
  | _ => True

section
variable {α : Type*} {g : Socket → List α} {f : Socket → Socket} {more : List α}

theorem flatMap_modify (same : ∀ socket, g (f socket) = g socket) (sockets : List Socket) (w : Nat) :
    (sockets.modify w f).flatMap g = sockets.flatMap g := by
  induction sockets generalizing w with
  | nil => rw [List.modify_nil]
  | cons socket sockets ih =>
      cases w with
      | zero => rw [List.modify_zero_cons, List.flatMap_cons, List.flatMap_cons, same]
      | succ w => rw [List.modify_succ_cons, List.flatMap_cons, List.flatMap_cons, ih]

theorem flatMap_modify_last (grows : ∀ socket, g (f socket) = g socket ++ more) (sockets : List Socket) (w : Nat)
    (last : w + 1 = sockets.length) : (sockets.modify w f).flatMap g = sockets.flatMap g ++ more := by
  induction sockets generalizing w with
  | nil => cases last
  | cons socket sockets ih =>
      cases w with
      | zero =>
          obtain rfl := List.eq_nil_of_length_eq_zero (Nat.succ.inj last).symm
          simp [grows]
      | succ w =>
          rw [List.modify_succ_cons, List.flatMap_cons, List.flatMap_cons, ih w (Nat.succ.inj last), List.append_assoc]

end

section
variable {η : Type*} {config : RealtimeClientConfig} {link link' : Link η} {e : LinkEvent η}

structure Sound (config : RealtimeClientConfig) (link : Link η) : Prop where
  inOrder : link.sockets.flatMap (·.flushed) ++ link.pendingSends = link.queuedCalls
  sent : ∀ (w : Nat) (socket : Socket), link.sockets[w]? = some socket →
    (callFrames config socket.flushed).Sublist socket.frames
  emptied : ∀ (w : Nat) (socket : Socket), link.ws = some w → link.sockets[w]? = some socket →
    socket.readyState = .opened → link.pendingSends = []
  last : ∀ w, link.ws = some w → w + 1 = link.sockets.length
  fresh : ∀ (w : Nat) (socket : Socket), link.sockets[w]? = some socket → socket.readyState = .connecting →
    socket.frames = [] ∧ socket.accepted = none

def KeptFromRefused (link : Link η) : Prop :=
  ∀ (w : Nat) (socket : Socket), link.sockets[w]? = some socket → Refused socket → socket.flushed = []

theorem nothingLost_iff (sound : Sound config link) : NothingLost config link ↔ KeptFromRefused link := by
  constructor
  · intro lost w socket found
    exact lost.kept socket (List.mem_of_getElem? found)
  · intro kept
    refine ⟨sound.inOrder, fun socket member => ?_, sound.emptied, fun socket member => ?_⟩
    · obtain ⟨w, found⟩ := List.mem_iff_getElem?.mp member
      exact sound.sent w socket found
    · obtain ⟨w, found⟩ := List.mem_iff_getElem?.mp member
      exact kept w socket found

structure Carries (socket socket' : Socket) : Prop where
  flushed : socket'.flushed = socket.flushed
  frames : socket.frames.Sublist socket'.frames
  fresh : socket'.readyState = .connecting → socket.readyState = .connecting ∧
    socket'.frames = socket.frames ∧ socket'.accepted = socket.accepted
  refused : Refused socket' → Refused socket

theorem carries_refl (socket : Socket) : Carries socket socket :=
  ⟨rfl, List.Sublist.refl _, fun fresh => ⟨fresh, rfl, rfl⟩, id⟩

theorem Carries.trans {socket₁ socket₂ socket₃ : Socket} (first : Carries socket₁ socket₂)
    (second : Carries socket₂ socket₃) : Carries socket₁ socket₃ := by
  refine ⟨second.flushed.trans first.flushed, first.frames.trans second.frames, fun fresh => ?_,
    fun refused => first.refused (second.refused refused)⟩
  obtain ⟨between, frames, accepted⟩ := second.fresh fresh
  obtain ⟨before, frames', accepted'⟩ := first.fresh between
  exact ⟨before, frames.trans frames', accepted.trans accepted'⟩

structure Held (link link' : Link η) : Prop where
  pendingSends : link'.pendingSends = link.pendingSends
  queuedCalls : link'.queuedCalls = link.queuedCalls
  ws : ∀ w, link'.ws = some w → link.ws = some w
  length : link'.sockets.length = link.sockets.length
  flushed : link'.sockets.flatMap (·.flushed) = link.sockets.flatMap (·.flushed)
  sockets : ∀ (w : Nat) (socket' : Socket), link'.sockets[w]? = some socket' →
    ∃ socket, link.sockets[w]? = some socket ∧ Carries socket socket'
  opened : link'.isOpen = true → link.isOpen = true

theorem held_of_eq (pendingSends : link'.pendingSends = link.pendingSends)
    (queuedCalls : link'.queuedCalls = link.queuedCalls) (ws : link'.ws = link.ws)
    (sockets : link'.sockets = link.sockets) : Held link link' := by
  refine ⟨pendingSends, queuedCalls, fun w => ws ▸ id, by rw [sockets], by rw [sockets],
    fun w socket' found => ?_, ?_⟩
  · rw [sockets] at found
    exact ⟨socket', found, carries_refl socket'⟩
  · rw [isOpen, isOpen, ws, sockets]
    exact id

theorem held_modify {w : Nat} {f : Socket → Socket} (pendingSends : link'.pendingSends = link.pendingSends)
    (queuedCalls : link'.queuedCalls = link.queuedCalls) (ws : ∀ w, link'.ws = some w → link.ws = some w)
    (sockets : link'.sockets = link.sockets.modify w f) (flushed : ∀ socket, (f socket).flushed = socket.flushed)
    (carries : ∀ socket, link.sockets[w]? = some socket → Carries socket (f socket))
    (opened : link'.isOpen = true → link.isOpen = true) : Held link link' := by
  refine ⟨pendingSends, queuedCalls, ws, ?_, ?_, fun v socket' found => ?_, opened⟩
  · rw [sockets, List.length_modify]
  · rw [sockets, flatMap_modify flushed]
  · rw [sockets] at found
    obtain ⟨socket, there, ⟨rfl, rfl⟩ | ⟨_, rfl⟩⟩ := modify_cases found
    · exact ⟨socket, there, carries socket there⟩
    · exact ⟨socket', there, carries_refl socket'⟩

theorem Held.trans {link₁ link₂ link₃ : Link η} (first : Held link₁ link₂) (second : Held link₂ link₃) :
    Held link₁ link₃ := by
  refine ⟨second.pendingSends.trans first.pendingSends, second.queuedCalls.trans first.queuedCalls,
    fun w current => first.ws w (second.ws w current), second.length.trans first.length,
    second.flushed.trans first.flushed, fun w socket₃ found => ?_, fun now => first.opened (second.opened now)⟩
  obtain ⟨socket₂, there, later⟩ := second.sockets w socket₃ found
  obtain ⟨socket₁, before, earlier⟩ := first.sockets w socket₂ there
  exact ⟨socket₁, before, earlier.trans later⟩

theorem emptied_of_isOpen (sound : Sound config link) (opened : link.isOpen = true) : link.pendingSends = [] := by
  obtain ⟨w, socket, current, found, opened⟩ := isOpen_iff.mp opened
  exact sound.emptied w socket current found opened

theorem sound_held (sound : Sound config link) (held : Held link link') : Sound config link' := by
  refine ⟨?_, fun w socket' found => ?_, fun w socket' current found opened => ?_, fun w current => ?_,
    fun w socket' found connecting => ?_⟩
  · rw [held.flushed, held.pendingSends, held.queuedCalls]
    exact sound.inOrder
  · obtain ⟨socket, there, carries⟩ := held.sockets w socket' found
    rw [carries.flushed]
    exact (sound.sent w socket there).trans carries.frames
  · rw [held.pendingSends]
    exact emptied_of_isOpen sound (held.opened (isOpen_iff.mpr ⟨w, socket', current, found, opened⟩))
  · rw [held.length]
    exact sound.last w (held.ws w current)
  · obtain ⟨socket, there, carries⟩ := held.sockets w socket' found
    obtain ⟨was, frames, accepted⟩ := carries.fresh connecting
    rw [frames, accepted]
    exact sound.fresh w socket there was

theorem kept_held (kept : KeptFromRefused link) (held : Held link link') : KeptFromRefused link' := by
  intro w socket' found refused
  obtain ⟨socket, there, carries⟩ := held.sockets w socket' found
  rw [carries.flushed]
  exact kept w socket there (carries.refused refused)

theorem held_write {frames : List FrameFields} (ready : frames = [] ∨ link.isOpen = true) :
    Held link (write frames [] link) := by
  cases current : link.ws with
  | none =>
      rw [write_of_none current]
      exact held_of_eq rfl rfl rfl rfl
  | some w =>
      have still : (write frames [] link).isOpen = link.isOpen := isOpen_write frames []
      rw [write_of_ws current] at still ⊢
      refine held_modify rfl rfl (fun _ => id) rfl (fun socket => List.append_nil _) (fun socket there => ?_)
        (fun now => still ▸ now)
      refine ⟨List.append_nil _, List.sublist_append_left _ _, fun connecting => ?_, id⟩
      rcases ready with rfl | opened
      · exact ⟨connecting, List.append_nil _, rfl⟩
      · obtain ⟨v, other, now, found, opened⟩ := isOpen_iff.mp opened
        obtain rfl := Option.some.inj (current.symm.trans now)
        obtain rfl := Option.some.inj (there.symm.trans found)
        exact absurd (opened.symm.trans connecting) nofun

theorem held_write_subscriptions (subscriptions : Subscriptions η) {frames : List FrameFields}
    (ready : frames = [] ∨ link.isOpen = true) : Held link (write frames [] { link with subscriptions }) := by
  have left : Held link { link with subscriptions } := held_of_eq rfl rfl rfl rfl
  exact left.trans (held_write ready)

def Safe (config : RealtimeClientConfig) (link link' : Link η) : Prop :=
  Sound config link → Sound config link' ∧ (KeptFromRefused link → KeptFromRefused link')

theorem safe_held (held : Held link link') : Safe config link link' :=
  fun sound => ⟨sound_held sound held, fun kept => kept_held kept held⟩

theorem safe_call (opcode : Opcode) (channelId payload : Utf16) :
    Safe config link (sendOrQueue config opcode channelId payload link) := by
  unfold sendOrQueue
  split
  · rename_i opened
    exact safe_held (held_write (Or.inr opened))
  · rename_i notOpen
    intro sound
    refine ⟨⟨?_, sound.sent, fun w socket current found opened => ?_, sound.last, sound.fresh⟩, id⟩
    · rw [← sound.inOrder, List.append_assoc]
    · exact absurd (isOpen_iff.mpr ⟨w, socket, current, found, opened⟩) notOpen

theorem Safe.trans {link₁ link₂ link₃ : Link η} (first : Safe config link₁ link₂) (second : Safe config link₂ link₃) :
    Safe config link₁ link₃ := by
  intro sound
  obtain ⟨between, kept⟩ := first sound
  obtain ⟨after, still⟩ := second between
  exact ⟨after, fun before => still (kept before)⟩

theorem safe_sendChunks (opcode : Opcode) (rolls : List.Vector (Fin 36) 4) (channelId payload : Utf16) :
    Safe config link (sendChunks config opcode rolls channelId payload link) := by
  unfold sendChunks
  split
  · exact fun sound => ⟨sound, id⟩
  · rename_i chunks cut
    clear cut
    induction chunks generalizing link with
    | nil => exact fun sound => ⟨sound, id⟩
    | cons chunk chunks ih => exact (safe_call opcode channelId chunk).trans ih

theorem safe_resolved (found : Bool) : Safe config link (resolved found link) := by
  unfold resolved
  split
  · exact fun sound => ⟨sound, id⟩
  · split
    · exact fun sound => ⟨sound, id⟩
    · exact fun sound => ⟨sound, id⟩
    · rename_i token _ _
      intro sound
      refine ⟨⟨?_, fun w socket found => ?_, fun w socket current found opened => ?_, fun w current => ?_,
        fun w socket found connecting => ?_⟩, fun kept w socket found refused => ?_⟩
      · rw [← sound.inOrder, List.flatMap_append, List.flatMap_singleton, List.append_nil]
      · rcases append_cases found with old | ⟨_, rfl⟩
        · exact sound.sent w socket old
        · exact List.Sublist.refl _
      · obtain rfl := Option.some.inj current
        rcases append_cases found with old | ⟨_, rfl⟩
        · exact absurd (List.getElem?_eq_some_iff.mp old).1 (Nat.lt_irrefl _)
        · cases opened
      · rw [← Option.some.inj current, List.length_append]
        rfl
      · rcases append_cases found with old | ⟨_, rfl⟩
        · exact sound.fresh w socket old connecting
        · exact ⟨rfl, rfl⟩
      · rcases append_cases found with old | ⟨_, rfl⟩
        · exact kept w socket old refused
        · rfl

theorem safe_disconnect : Safe config link (disconnect link) := by
  refine safe_held ?_
  unfold disconnect
  cases current : link.ws with
  | none =>
      refine ⟨rfl, rfl, nofun, rfl, rfl, fun w socket found => ⟨socket, found, carries_refl socket⟩, nofun⟩
  | some w =>
      refine held_modify rfl rfl nofun rfl (fun socket => ?_) (fun socket _ => ?_) nofun
      · rw [leave]
        split <;> rfl
      · rw [leave]
        split
        · exact carries_refl socket
        · exact ⟨rfl, List.Sublist.refl _, nofun, Or.imp id fun ended => absurd ended.2 nofun⟩

theorem safe_flush {w : Nat} {socket : Socket} (found : link.sockets[w]? = some socket)
    (connecting : socket.readyState = .connecting) (current : link.ws = some w)
    (pendingSends : link'.pendingSends = []) (queuedCalls : link'.queuedCalls = link.queuedCalls)
    (ws : link'.ws = link.ws) {greeting : List FrameFields} (sockets : link'.sockets =
      link.sockets.modify w fun socket => put (greeting ++ callFrames config link.pendingSends) link.pendingSends
        { socket with readyState := .opened }) : Safe config link link' := by
  intro sound
  have fresh := sound.fresh w socket found connecting
  refine ⟨⟨?_, fun v socket' there => ?_, fun _ _ _ _ _ => pendingSends, fun v now => ?_,
    fun v socket' there still => ?_⟩, fun kept v socket' there refused => ?_⟩
  · have emptied : link'.sockets.flatMap (·.flushed) = link.sockets.flatMap (·.flushed) ++ link.pendingSends := by
      rw [sockets]
      exact flatMap_modify_last (fun _ => rfl) link.sockets w (sound.last w current)
    rw [emptied, pendingSends, List.append_nil, queuedCalls, sound.inOrder]
  · rw [sockets] at there
    obtain ⟨old, before, ⟨rfl, rfl⟩ | ⟨_, rfl⟩⟩ := modify_cases there
    · have both := (sound.sent v old before).append (List.sublist_append_right greeting
        (callFrames config link.pendingSends))
      rwa [callFrames, callFrames, ← List.map_append] at both
    · exact sound.sent v socket' before
  · rw [sockets, List.length_modify]
    exact sound.last v (ws ▸ now)
  · rw [sockets] at there
    obtain ⟨old, before, ⟨rfl, rfl⟩ | ⟨_, rfl⟩⟩ := modify_cases there
    · cases still
    · exact sound.fresh v socket' before still
  · rw [sockets] at there
    obtain ⟨old, before, ⟨rfl, rfl⟩ | ⟨_, rfl⟩⟩ := modify_cases there
    · obtain rfl := Option.some.inj (found.symm.trans before)
      rcases refused with rejected | ⟨_, closed⟩
      · exact absurd (fresh.2.symm.trans rejected) nofun
      · cases closed
    · exact kept v socket' before refused

theorem held_opened {w : Nat} (other : link.ws ≠ some w) : Held link (opened w link) := by
  refine held_modify rfl rfl (fun _ => id) rfl (fun _ => rfl) (fun socket _ => ?_) fun now => ?_
  · exact ⟨rfl, List.Sublist.refl _, nofun, Or.imp id fun ended => absurd ended.2 nofun⟩
  · obtain ⟨v, socket, current, found, opened⟩ := isOpen_iff.mp now
    obtain ⟨old, before, ⟨rfl, _⟩ | ⟨_, rfl⟩⟩ := modify_cases found
    · exact absurd current other
    · exact isOpen_iff.mpr ⟨v, socket, current, before, opened⟩

theorem held_greet [DecidableEq η] {token : Utf16} (ready : link.isOpen = true) (nothing : link.pendingSends = []) :
    Held link (greet config token link) := by
  rw [greet, nothing]
  have written : Held link (write ((link.client config).onopen token).1 [] link) := held_write (Or.inr ready)
  exact written.trans (held_of_eq (nothing.symm.trans written.pendingSends.symm) rfl rfl rfl)

theorem safe_onOpen [DecidableEq η] {w : Nat} {socket : Socket} (found : link.sockets[w]? = some socket)
    (connecting : socket.readyState = .connecting) : Safe config link (onOpen config w socket.token link) := by
  unfold onOpen
  by_cases current : link.ws = some w
  · have now : (opened w link).ws = some w := current
    rw [if_pos (isOpen_opened found current), greet, write_of_ws now, onopen_frames]
    exact safe_flush found connecting current rfl rfl rfl (List.modify_modify_eq ..)
  · have held := held_opened (w := w) current
    split
    · rename_i ready
      intro sound
      have nothing : link.pendingSends = [] := emptied_of_isOpen sound (held.opened ready)
      exact safe_held (held.trans (held_greet ready nothing)) sound
    · exact safe_held held

theorem sound_judged {w : Nat} {f : Socket → Socket} (sound : Sound config link)
    (pendingSends : link'.pendingSends = link.pendingSends)
    (queuedCalls : link'.queuedCalls = link.queuedCalls) (ws : ∀ w, link'.ws = some w → link.ws = some w)
    (sockets : link'.sockets = link.sockets.modify w f) (flushed : ∀ socket, (f socket).flushed = socket.flushed)
    (frames : ∀ socket, (f socket).frames = socket.frames) (opened : link'.isOpen = true → link.isOpen = true)
    (fresh : ∀ socket, link.sockets[w]? = some socket → (f socket).readyState ≠ .connecting) :
    Sound config link' := by
  refine ⟨?_, fun v socket' found => ?_, fun v socket' current found now => ?_, fun v current => ?_,
    fun v socket' found connecting => ?_⟩
  · rw [sockets, flatMap_modify flushed, pendingSends, queuedCalls, sound.inOrder]
  · rw [sockets] at found
    obtain ⟨socket, there, ⟨rfl, rfl⟩ | ⟨_, rfl⟩⟩ := modify_cases found
    · rw [flushed, frames]
      exact sound.sent v socket there
    · exact sound.sent v socket' there
  · rw [pendingSends]
    exact emptied_of_isOpen sound (opened (isOpen_iff.mpr ⟨v, socket', current, found, now⟩))
  · rw [sockets, List.length_modify]
    exact sound.last v (ws v current)
  · rw [sockets] at found
    obtain ⟨socket, there, ⟨rfl, rfl⟩ | ⟨_, rfl⟩⟩ := modify_cases found
    · exact absurd connecting (fresh socket there)
    · exact sound.fresh v socket' there connecting

theorem kept_judged_iff {w : Nat} {socket : Socket} {f : Socket → Socket} (found : link.sockets[w]? = some socket)
    (sockets : link'.sockets = link.sockets.modify w f) (flushed : ∀ socket, (f socket).flushed = socket.flushed)
    (kept : KeptFromRefused link) : KeptFromRefused link' ↔ (Refused (f socket) → socket.flushed = []) := by
  constructor
  · intro after refused
    rw [← flushed]
    refine after w (f socket) ?_ refused
    rw [sockets, List.getElem?_modify_eq, found]
    rfl
  · intro here v socket' there refused
    rw [sockets] at there
    obtain ⟨old, before, ⟨rfl, rfl⟩ | ⟨_, rfl⟩⟩ := modify_cases there
    · obtain rfl := Option.some.inj (found.symm.trans before)
      rw [flushed]
      exact here refused
    · exact kept v socket' before refused

theorem exact_onClose {w code : Nat} {socket : Socket} (sound : Sound config link)
    (found : link.sockets[w]? = some socket) : Sound config (onClose config w code link) ∧
      (KeptFromRefused link → (RefusedEmpty link (.onClose w code) ↔ KeptFromRefused (onClose config w code link))) := by
  refine ⟨sound_judged (w := w) (f := fun socket => { socket with readyState := .closed }) sound rfl rfl nofun rfl
    (fun _ => rfl) (fun _ => rfl) nofun (fun _ _ => nofun), fun kept => ?_⟩
  rw [kept_judged_iff (f := fun socket => { socket with readyState := .closed }) found rfl (fun _ => rfl) kept]
  constructor
  · rintro empty (rejected | ⟨unjudged, _⟩)
    · exact kept w socket found (Or.inl rejected)
    · exact empty socket found unjudged
  · intro empty other there unjudged
    obtain rfl := Option.some.inj (found.symm.trans there)
    exact empty (Or.inr ⟨unjudged, rfl⟩)

theorem exact_judged {w : Nat} {socket : Socket} {accepted : Bool} (sound : Sound config link)
    (found : link.sockets[w]? = some socket) (begun : socket.frames ≠ [])
    (pendingSends : link'.pendingSends = link.pendingSends) (queuedCalls : link'.queuedCalls = link.queuedCalls)
    (ws : link'.ws = link.ws) (sockets : link'.sockets =
      link.sockets.modify w fun socket => { socket with accepted := some accepted }) : Sound config link' ∧
      (KeptFromRefused link → (RefusedEmpty link (.judged w accepted) ↔ KeptFromRefused link')) := by
  have opened : link'.isOpen = true → link.isOpen = true := by
    intro now
    obtain ⟨v, socket', current, there, opened⟩ := isOpen_iff.mp now
    rw [sockets] at there
    obtain ⟨old, before, ⟨_, rfl⟩ | ⟨_, rfl⟩⟩ := modify_cases there
    · exact isOpen_iff.mpr ⟨v, old, ws ▸ current, before, opened⟩
    · exact isOpen_iff.mpr ⟨v, socket', ws ▸ current, before, opened⟩
  refine ⟨sound_judged sound pendingSends queuedCalls (fun v => ws ▸ id) sockets (fun _ => rfl) (fun _ => rfl) opened
    (fun other there connecting => ?_), fun kept => ?_⟩
  · obtain rfl := Option.some.inj (found.symm.trans there)
    exact begun (sound.fresh w socket found connecting).1
  · rw [kept_judged_iff found sockets (fun _ => rfl) kept]
    cases accepted with
    | true => exact iff_of_true trivial (Or.rec nofun fun unjudged => absurd unjudged.1 nofun)
    | false =>
        constructor
        · exact fun empty _ => empty socket found
        · intro empty other there
          obtain rfl := Option.some.inj (found.symm.trans there)
          exact empty (Or.inl rfl)

theorem exact_of_safe {e : LinkEvent η} (safe : Safe config link link') (sound : Sound config link)
    (free : RefusedEmpty link e) : Sound config link' ∧
      (KeptFromRefused link → (RefusedEmpty link e ↔ KeptFromRefused link')) :=
  ⟨(safe sound).1, fun kept => iff_of_true free ((safe sound).2 kept)⟩

theorem held_openSocket (pendingSends : link'.pendingSends = link.pendingSends)
    (queuedCalls : link'.queuedCalls = link.queuedCalls) (ws : link'.ws = link.ws)
    (sockets : link'.sockets = link.sockets) : Held link (openSocket config link') := by
  unfold openSocket
  split <;> exact held_of_eq pendingSends queuedCalls ws sockets

variable [DecidableEq η] {e : LinkEvent η}

theorem exact_callback (sound : Sound config link) (taken : callback config link e = some link') :
    Sound config link' ∧ (KeptFromRefused link → (RefusedEmpty link e ↔ KeptFromRefused link')) := by
  cases e with
  | fetched fresh =>
      simp only [callback] at taken
      split at taken
      · cases taken
      · rw [← Option.some.inj taken]
        refine exact_of_safe (safe_held ?_) sound trivial
        unfold fetched
        split
        · exact held_of_eq rfl rfl rfl rfl
        · split <;> exact held_of_eq rfl rfl rfl rfl
  | resolved found =>
      simp only [callback] at taken
      split at taken
      · cases taken
      · rename_i resolving _
        obtain ⟨_, same⟩ := Option.ite_none_left_eq_some.mp taken
        rw [← Option.some.inj same]
        have left : Held link { link with resolving, wsImpl := some found } := held_of_eq rfl rfl rfl rfl
        exact exact_of_safe ((safe_held left).trans (safe_resolved found)) sound trivial
  | timer id =>
      obtain ⟨_, same⟩ := Option.ite_none_right_eq_some.mp taken
      rw [← Option.some.inj same]
      refine exact_of_safe (safe_held ?_) sound trivial
      split
      · exact held_of_eq rfl rfl rfl rfl
      · exact held_openSocket rfl rfl rfl rfl
  | beat =>
      obtain ⟨_, same⟩ := Option.ite_none_right_eq_some.mp taken
      rw [← Option.some.inj same, beat]
      refine exact_of_safe (safe_held ?_) sound trivial
      split
      · rename_i opened
        exact held_write (Or.inr opened)
      · exact held_of_eq rfl rfl rfl rfl
  | onOpen w =>
      obtain ⟨socket, found, taken⟩ := Option.bind_eq_some_iff.mp taken
      obtain ⟨connecting, same⟩ := Option.ite_none_right_eq_some.mp taken
      exact Option.some.inj same ▸ exact_of_safe (safe_onOpen found connecting) sound trivial
  | onMessage w arrival =>
      obtain ⟨socket, found, taken⟩ := Option.bind_eq_some_iff.mp taken
      obtain ⟨_, same⟩ := Option.ite_none_right_eq_some.mp taken
      exact Option.some.inj same ▸ exact_of_safe (safe_held (held_of_eq rfl rfl rfl rfl)) sound trivial
  | onError w =>
      obtain ⟨socket, found, taken⟩ := Option.bind_eq_some_iff.mp taken
      obtain ⟨_, same⟩ := Option.ite_none_right_eq_some.mp taken
      exact Option.some.inj same ▸ exact_of_safe (safe_held (held_of_eq rfl rfl rfl rfl)) sound trivial
  | onClose w code =>
      obtain ⟨socket, found, taken⟩ := Option.bind_eq_some_iff.mp taken
      obtain ⟨_, same⟩ := Option.ite_none_right_eq_some.mp taken
      exact Option.some.inj same ▸ exact_onClose sound found
  | judged w accepted =>
      obtain ⟨socket, found, taken⟩ := Option.bind_eq_some_iff.mp taken
      obtain ⟨⟨begun, _⟩, same⟩ := Option.ite_none_right_eq_some.mp taken
      rw [← Option.some.inj same]
      exact exact_judged sound found begun rfl rfl rfl rfl
  | _ => cases taken

theorem exact_step (sound : Sound config link) (taken : step config link e = some link') :
    Sound config link' ∧ (KeptFromRefused link → (RefusedEmpty link e ↔ KeptFromRefused link')) := by
  cases e with
  | connect =>
      exact Option.some.inj taken ▸ exact_of_safe (safe_held (held_openSocket rfl rfl rfl rfl)) sound trivial
  | disconnect => exact Option.some.inj taken ▸ exact_of_safe safe_disconnect sound trivial
  | subscribe channelId handler =>
      rw [← Option.some.inj taken]
      refine exact_of_safe (safe_held (held_write_subscriptions (link.subscriptions.add channelId handler) ?_))
        sound trivial
      split
      · rename_i fresh
        exact Or.inr fresh.2
      · exact Or.inl rfl
  | unsubscribe channelId handler =>
      rw [← Option.some.inj taken]
      refine exact_of_safe (safe_held (held_write_subscriptions (link.subscriptions.remove channelId handler) ?_))
        sound trivial
      split
      · rename_i gone
        exact Or.inr gone.2
      · exact Or.inl rfl
  | publish rolls channelId payload =>
      exact Option.some.inj taken ▸ exact_of_safe (safe_sendChunks .publish rolls channelId payload) sound trivial
  | unicast rolls userId payload =>
      exact Option.some.inj taken ▸ exact_of_safe (safe_sendChunks .unicast rolls userId payload) sound trivial
  | replay channelId sinceUnixSeconds =>
      exact Option.some.inj taken ▸ exact_of_safe (safe_call .replay channelId sinceUnixSeconds) sound trivial
  | emitted =>
      obtain ⟨_, same⟩ := Option.ite_none_right_eq_some.mp taken
      rw [← Option.some.inj same]
      refine exact_of_safe (safe_held ?_) sound trivial
      unfold emitted
      split <;> exact held_of_eq rfl rfl rfl rfl
  | fetched | resolved | timer | beat | onOpen | onMessage | onError | onClose | judged =>
      exact exact_callback sound (Option.ite_none_left_eq_some.mp taken).2

omit [DecidableEq η] in
theorem sound_start : Sound config (Link.initial config : Link η) :=
  ⟨rfl, nofun, nofun, nofun, nofun⟩

end

/-- In every run the queue is given out once and in order, and nothing of it to a connection that is refused,
exactly while every connection that is rejected, or ends without a judgement, was given nothing of it. -/
theorem nothing_lost_iff {η : Type*} [DecidableEq η] (config : RealtimeClientConfig) (es : List (LinkEvent η))
    (link : Link η) (reached : (step config).run (Link.initial config) es = some link) :
    (step config).Meets RefusedEmpty (Link.initial config) es ↔
      (step config).Throughout (NothingLost config) (Link.initial config) es := by
  have start : NothingLost config (Link.initial config : Link η) := (nothingLost_iff sound_start).mpr nofun
  refine Step.meets_iff_throughout (fun _ _ _ sound taken => (exact_step sound taken).1) ?_ reached sound_start start
  intro link e link' sound lost taken
  obtain ⟨after, exact⟩ := exact_step sound taken
  rw [nothingLost_iff after]
  exact exact ((nothingLost_iff sound).mp lost)

def isMessage (opcode : Opcode) : Bool := opcode = .publish || opcode = .unicast || opcode = .replay

/-- The frames of messages and replays on the connections, one after the other. -/
def messages {η : Type*} (link : Link η) : List FrameFields :=
  link.sockets.flatMap fun socket => socket.frames.filter (isMessage ·.opcode)

def chunkCalls (config : RealtimeClientConfig) (opcode : Opcode) (rolls : List.Vector (Fin 36) 4)
    (channelId payload : Utf16) : List PendingSend :=
  match encodeChunks rolls payload config.maxMessageBytes with
  | .error _ => []
  | .ok chunks => chunks.map fun chunk => (opcode, channelId, chunk)

def callsOf {η : Type*} (config : RealtimeClientConfig) : LinkEvent η → List PendingSend
  | .publish rolls channelId payload => chunkCalls config .publish rolls channelId payload
  | .unicast rolls userId payload => chunkCalls config .unicast rolls userId payload
  | .replay channelId sinceUnixSeconds => [(.replay, channelId, sinceUnixSeconds)]
  | _ => []

/-- What a step gives to the current connection: a call that finds it open, and the queue where it opens. -/
def handed {η : Type*} (config : RealtimeClientConfig) (link : Link η) (e : LinkEvent η) : List PendingSend :=
  match e with
  | .onOpen w => if link.ws = some w then link.pendingSends else []
  | e => if link.isOpen then callsOf config e else []

section
variable {η : Type*} {config : RealtimeClientConfig} {link link' : Link η}

theorem filter_callFrames {calls : List PendingSend} (spoken : ∀ call ∈ calls, isMessage call.1 = true) :
    (callFrames config calls).filter (isMessage ·.opcode) = callFrames config calls := by
  refine List.filter_eq_self.mpr fun made member => ?_
  obtain ⟨call, there, rfl⟩ := List.mem_map.mp member
  exact spoken call there

theorem messages_modify {w : Nat} {f : Socket → Socket} (sockets : link'.sockets = link.sockets.modify w f)
    (frames : ∀ socket, (f socket).frames = socket.frames) : messages link' = messages link := by
  rw [messages, sockets]
  exact flatMap_modify (fun socket => by rw [frames socket]) link.sockets w

theorem messages_write {w : Nat} (current : link.ws = some w) (last : w + 1 = link.sockets.length)
    (frames : List FrameFields) (flushed : List PendingSend) :
    messages (write frames flushed link) = messages link ++ frames.filter (isMessage ·.opcode) := by
  rw [write_of_ws current]
  exact flatMap_modify_last (fun socket => List.filter_append ..) link.sockets w last

theorem pendingSends_write (frames : List FrameFields) (flushed : List PendingSend) :
    (write frames flushed link).pendingSends = link.pendingSends := by
  unfold write
  split <;> rfl

theorem messages_silent {frames : List FrameFields} (silent : frames.filter (isMessage ·.opcode) = [])
    (flushed : List PendingSend) : messages (write frames flushed link) = messages link := by
  cases current : link.ws with
  | none => rw [write_of_none current]
  | some w =>
      rw [write_of_ws current]
      refine flatMap_modify (fun socket => ?_) link.sockets w
      rw [put, List.filter_append, silent, List.append_nil]

theorem spoken_callsOf (e : LinkEvent η) : ∀ call ∈ callsOf config e, isMessage call.1 = true := by
  have cut : ∀ opcode rolls channelId payload, isMessage opcode = true →
      ∀ call ∈ chunkCalls config opcode rolls channelId payload, isMessage call.1 = true := by
    intro opcode rolls channelId payload spoken call member
    unfold chunkCalls at member
    split at member
    · cases member
    · obtain ⟨_, _, rfl⟩ := List.mem_map.mp member
      exact spoken
  intro call member
  cases e with
  | publish rolls channelId payload => exact cut _ _ _ _ rfl call member
  | unicast rolls userId payload => exact cut _ _ _ _ rfl call member
  | replay => exact List.mem_singleton.mp member ▸ rfl
  | _ => cases member

/-- A call goes to the open connection or to the queue. -/
structure Called (config : RealtimeClientConfig) (calls : List PendingSend) (link link' : Link η) : Prop where
  messages : messages link' = messages link ++
    (callFrames config (if link.isOpen then calls else [])).filter (isMessage ·.opcode)
  pendingSends : link'.pendingSends = link.pendingSends ++ if link.isOpen then [] else calls
  isOpen : link'.isOpen = link.isOpen

theorem called_sendOrQueue (sound : Sound config link) (opcode : Opcode) (channelId payload : Utf16) :
    Called config [(opcode, channelId, payload)] link (sendOrQueue config opcode channelId payload link) := by
  unfold sendOrQueue
  by_cases opened : link.isOpen = true
  · rw [if_pos opened]
    refine ⟨?_, ?_, isOpen_write _ _⟩
    · obtain ⟨w, _, current, _⟩ := isOpen_iff.mp opened
      rw [if_pos opened]
      exact messages_write current (sound.last w current) _ _
    · rw [if_pos opened, List.append_nil, pendingSends_write]
  · rw [if_neg opened]
    refine ⟨?_, by rw [if_neg opened], rfl⟩
    rw [if_neg opened]
    exact (List.append_nil _).symm

theorem Called.trans {link₁ link₂ link₃ : Link η} {calls calls' : List PendingSend}
    (first : Called config calls link₁ link₂) (second : Called config calls' link₂ link₃) :
    Called config (calls ++ calls') link₁ link₃ := by
  refine ⟨?_, ?_, second.isOpen.trans first.isOpen⟩
  · rw [second.messages, first.messages, first.isOpen]
    split <;> simp [callFrames]
  · rw [second.pendingSends, first.pendingSends, first.isOpen]
    split <;> simp

theorem called_sendChunks (sound : Sound config link) (opcode : Opcode) (rolls : List.Vector (Fin 36) 4)
    (channelId payload : Utf16) : Called config (chunkCalls config opcode rolls channelId payload) link
      (sendChunks config opcode rolls channelId payload link) := by
  have nothing : ∀ link : Link η, Called config [] link link := by
    intro link
    refine ⟨?_, ?_, rfl⟩ <;> split <;> simp [callFrames]
  unfold sendChunks chunkCalls
  cases encodeChunks rolls payload config.maxMessageBytes with
  | error => exact nothing link
  | ok chunks =>
      induction chunks generalizing link with
      | nil => exact nothing link
      | cons chunk chunks ih =>
          exact (called_sendOrQueue sound opcode channelId chunk).trans (ih (safe_call opcode channelId chunk sound).1)

theorem filter_greeting [DecidableEq η] (spoken : ∀ call ∈ link.pendingSends, isMessage call.1 = true) (token : Utf16) :
    ((link.client config).onopen token).1.filter (isMessage ·.opcode) = callFrames config link.pendingSends := by
  rw [onopen_frames, List.filter_append, filter_callFrames spoken, List.filter_eq_nil_iff.mpr, List.nil_append]
  intro made member
  rcases List.mem_cons.mp member with rfl | subscribes
  · exact Bool.false_ne_true
  · obtain ⟨_, _, rfl⟩ := List.mem_map.mp subscribes
    exact Bool.false_ne_true

/-- The step writes what it hands out, and the queue still holds calls. -/
structure Accounts (config : RealtimeClientConfig) (link : Link η) (e : LinkEvent η) (link' : Link η) : Prop where
  messages : messages link' = messages link ++ callFrames config (handed config link e)
  spoken : ∀ call ∈ link'.pendingSends, isMessage call.1 = true

variable {e : LinkEvent η}

theorem accounts_idle (spoken : ∀ call ∈ link.pendingSends, isMessage call.1 = true)
    (silent : handed config link e = []) (told : messages link' = messages link)
    (pendingSends : link'.pendingSends = link.pendingSends) : Accounts config link e link' := by
  refine ⟨?_, pendingSends ▸ spoken⟩
  rw [silent, told]
  exact (List.append_nil _).symm

theorem accounts_called (spoken : ∀ call ∈ link.pendingSends, isMessage call.1 = true)
    (calls : handed config link e = if link.isOpen then callsOf config e else [])
    (called : Called config (callsOf config e) link link') : Accounts config link e link' := by
  refine ⟨?_, fun call member => ?_⟩
  · rw [called.messages, calls]
    split
    · rw [filter_callFrames (spoken_callsOf e)]
    · rfl
  · rw [called.pendingSends] at member
    rcases List.mem_append.mp member with older | new
    · exact spoken call older
    · split at new
      · cases new
      · exact spoken_callsOf e call new

variable [DecidableEq η]

theorem accounts_onOpen (sound : Sound config link) (spoken : ∀ call ∈ link.pendingSends, isMessage call.1 = true)
    {w : Nat} {socket : Socket} (found : link.sockets[w]? = some socket) :
    Accounts config link (.onOpen w) (onOpen config w socket.token link) := by
  have before : messages (opened w link) = messages link := messages_modify rfl fun _ => rfl
  unfold onOpen
  by_cases current : link.ws = some w
  · have last : w + 1 = (opened w link).sockets.length :=
      (sound.last w current).trans (List.length_modify ..).symm
    rw [if_pos (isOpen_opened found current)]
    refine ⟨?_, nofun⟩
    show messages (write _ _ (opened w link)) = _
    rw [@messages_write _ (opened w link) w current last, @filter_greeting _ config (opened w link) _ spoken, before,
      handed, if_pos current]
    rfl
  · have silent : handed config link (.onOpen w) = [] := if_neg current
    split
    · rename_i ready
      have nothing : link.pendingSends = [] := emptied_of_isOpen sound ((held_opened current).opened ready)
      refine accounts_idle spoken silent ((messages_silent ?_ _).trans before) nothing.symm
      rw [@filter_greeting _ config (opened w link) _ spoken]
      show callFrames config link.pendingSends = []
      rw [nothing]
      rfl
    · exact accounts_idle spoken silent before rfl

theorem accounts_callback (sound : Sound config link) (spoken : ∀ call ∈ link.pendingSends, isMessage call.1 = true)
    (taken : callback config link e = some link') : Accounts config link e link' := by
  cases e with
  | fetched fresh =>
      simp only [callback] at taken
      split at taken
      · cases taken
      · rw [← Option.some.inj taken]
        unfold fetched
        split
        · exact accounts_idle spoken (ite_self _) rfl rfl
        · split <;> exact accounts_idle spoken (ite_self _) rfl rfl
  | resolved found =>
      simp only [callback] at taken
      split at taken
      · cases taken
      · obtain ⟨_, same⟩ := Option.ite_none_left_eq_some.mp taken
        rw [← Option.some.inj same]
        unfold resolved
        split
        · exact accounts_idle spoken (ite_self _) rfl rfl
        · split
          · exact accounts_idle spoken (ite_self _) rfl rfl
          · exact accounts_idle spoken (ite_self _) rfl rfl
          · refine accounts_idle spoken (ite_self _) ?_ rfl
            simp [messages]
  | timer id =>
      obtain ⟨_, same⟩ := Option.ite_none_right_eq_some.mp taken
      rw [← Option.some.inj same]
      split
      · exact accounts_idle spoken (ite_self _) rfl rfl
      · unfold openSocket
        split <;> exact accounts_idle spoken (ite_self _) rfl rfl
  | beat =>
      obtain ⟨_, same⟩ := Option.ite_none_right_eq_some.mp taken
      rw [← Option.some.inj same, beat]
      split
      · exact accounts_idle spoken (ite_self _) (messages_silent rfl []) (pendingSends_write _ _)
      · exact accounts_idle spoken (ite_self _) rfl rfl
  | onOpen w =>
      obtain ⟨socket, found, taken⟩ := Option.bind_eq_some_iff.mp taken
      obtain ⟨_, same⟩ := Option.ite_none_right_eq_some.mp taken
      exact Option.some.inj same ▸ accounts_onOpen sound spoken found
  | onMessage w arrival =>
      obtain ⟨socket, found, taken⟩ := Option.bind_eq_some_iff.mp taken
      obtain ⟨_, same⟩ := Option.ite_none_right_eq_some.mp taken
      exact Option.some.inj same ▸ accounts_idle spoken (ite_self _) rfl rfl
  | onError w =>
      obtain ⟨socket, found, taken⟩ := Option.bind_eq_some_iff.mp taken
      obtain ⟨_, same⟩ := Option.ite_none_right_eq_some.mp taken
      exact Option.some.inj same ▸ accounts_idle spoken (ite_self _) rfl rfl
  | onClose w code =>
      obtain ⟨socket, found, taken⟩ := Option.bind_eq_some_iff.mp taken
      obtain ⟨_, same⟩ := Option.ite_none_right_eq_some.mp taken
      rw [← Option.some.inj same]
      exact accounts_idle spoken (ite_self _) (messages_modify rfl fun _ => rfl) rfl
  | judged w accepted =>
      obtain ⟨socket, found, taken⟩ := Option.bind_eq_some_iff.mp taken
      obtain ⟨_, same⟩ := Option.ite_none_right_eq_some.mp taken
      rw [← Option.some.inj same]
      exact accounts_idle spoken (ite_self _) (messages_modify rfl fun _ => rfl) rfl
  | _ => cases taken

theorem accounts_step (sound : Sound config link) (spoken : ∀ call ∈ link.pendingSends, isMessage call.1 = true)
    (taken : step config link e = some link') : Accounts config link e link' := by
  cases e with
  | connect =>
      rw [← Option.some.inj taken, connect]
      unfold openSocket
      split <;> exact accounts_idle spoken (ite_self _) rfl rfl
  | disconnect =>
      rw [← Option.some.inj taken]
      refine accounts_idle spoken (ite_self _) ?_ rfl
      unfold disconnect messages
      cases link.ws with
      | none => rfl
      | some w =>
          refine flatMap_modify (fun socket => ?_) link.sockets w
          rw [leave]
          split <;> rfl
  | subscribe channelId handler =>
      rw [← Option.some.inj taken]
      have silent : ((link.client config).subscribe channelId handler).1.filter (isMessage ·.opcode) = [] := by
        simp only [RealtimeClient.subscribe]
        split <;> rfl
      exact accounts_idle spoken (ite_self _) (messages_silent silent []) (pendingSends_write _ _)
  | unsubscribe channelId handler =>
      rw [← Option.some.inj taken]
      refine accounts_idle spoken (ite_self _) (messages_silent ?_ []) (pendingSends_write _ _)
      split <;> rfl
  | publish rolls channelId payload =>
      rw [← Option.some.inj taken]
      exact accounts_called spoken rfl (called_sendChunks sound .publish rolls channelId payload)
  | unicast rolls userId payload =>
      rw [← Option.some.inj taken]
      exact accounts_called spoken rfl (called_sendChunks sound .unicast rolls userId payload)
  | replay channelId sinceUnixSeconds =>
      rw [← Option.some.inj taken]
      exact accounts_called spoken rfl (called_sendOrQueue sound .replay channelId sinceUnixSeconds)
  | emitted =>
      obtain ⟨_, same⟩ := Option.ite_none_right_eq_some.mp taken
      rw [← Option.some.inj same]
      unfold emitted
      split <;> exact accounts_idle spoken (ite_self _) rfl rfl
  | fetched | resolved | timer | beat | onOpen | onMessage | onError | onClose | judged =>
      exact accounts_callback sound spoken (Option.ite_none_left_eq_some.mp taken).2

end

def handedOut {η : Type*} [DecidableEq η] (config : RealtimeClientConfig) (es : List (LinkEvent η)) :
    List PendingSend :=
  ((step config).observed (fun link e => some (handed config link e)) (Link.initial config) es).flatten

/-- The message frames of the connections are what was handed to them, and nothing else: a call that is queued is
written when the queue is handed out, which empties it, and not again. -/
theorem written_once {η : Type*} [DecidableEq η] {config : RealtimeClientConfig} {es : List (LinkEvent η)}
    {link : Link η} (reached : (step config).run (Link.initial config) es = some link) :
    messages link = callFrames config (handedOut config es) := by
  have kept := Step.run_induction (fun es (link : Link η) => Sound config link ∧
    (∀ call ∈ link.pendingSends, isMessage call.1 = true) ∧
    messages link = callFrames config (handedOut config es))
    ⟨sound_start, nofun, rfl⟩ (fun es before e after ran invariant taken => ?_) reached
  · exact kept.2.2
  · obtain ⟨sound, spoken, written⟩ := invariant
    obtain ⟨more, still⟩ := accounts_step sound spoken taken
    refine ⟨(exact_step sound taken).1, still, ?_⟩
    rw [more, written, handedOut, handedOut, Step.observed_concat _ _ ran]
    simp [callFrames]

def sample : RealtimeClientConfig := ⟨List.Vector.replicate 16 0, none, true, true, 65536⟩

def rolls : List.Vector (Fin 36) 4 := List.Vector.replicate 4 (Fin.last 35)

def renewed : List (LinkEvent Unit) :=
  [.connect, .publish rolls (ofString "room") (ofString "hi"), .fetched (some (ofString "old")), .resolved true,
    .onOpen 0, .judged 0 false, .onClose 0 4001, .emitted, .timer 0, .fetched (some (ofString "new")),
    .resolved true, .onOpen 1, .judged 1 true]

theorem renewed_loses : ∃ link, (step sample).run (Link.initial sample) renewed = some link ∧
    link.queuedCalls = [(.publish, ofString "room", ofString "hi")] ∧ link.pendingSends = [] ∧
    (∀ socket ∈ link.sockets, socket.accepted = some true → socket.flushed = []) ∧ ¬NothingLost sample link := by
  refine ⟨_, rfl, rfl, rfl, fun socket member accepted => ?_, fun lost => ?_⟩
  · rcases List.mem_cons.mp member with rfl | second
    · cases accepted
    · exact List.mem_singleton.mp second ▸ rfl
  · cases lost.kept _ List.mem_cons_self (Or.inl rfl)

/-- The message is queued when the first connection has been refused. -/
def queuedLate : List (LinkEvent Unit) :=
  [.connect, .fetched (some (ofString "old")), .resolved true, .onOpen 0, .judged 0 false, .onClose 0 4001, .emitted,
    .publish rolls (ofString "room") (ofString "hi"), .timer 0, .fetched (some (ofString "new")), .resolved true,
    .onOpen 1, .judged 1 true]

theorem nothing_lost_iff_queuedLate : (step sample).Throughout (NothingLost sample) (Link.initial sample) queuedLate := by
  refine (nothing_lost_iff sample queuedLate _ rfl).mp ?_
  refine Step.meets_cons trivial rfl (Step.meets_cons trivial rfl (Step.meets_cons trivial rfl
    (Step.meets_cons trivial rfl (Step.meets_cons ?_ rfl (Step.meets_cons ?_ rfl (Step.meets_cons trivial rfl
      (Step.meets_cons trivial rfl (Step.meets_cons trivial rfl (Step.meets_cons trivial rfl
        (Step.meets_cons trivial rfl (Step.meets_cons trivial rfl (Step.meets_cons trivial rfl trivial))))))))))))
  · rintro socket there
    cases there
    rfl
  · rintro socket there _
    cases there
    rfl

end RealtimePlatform.Proof.QueuedSends
