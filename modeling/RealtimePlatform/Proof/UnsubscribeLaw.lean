import RealtimePlatform.Sdk.Link

namespace RealtimePlatform.Sdk
open Library Utf16
open Backend (Opcode)

namespace Subscriptions
variable {η : Type*} [DecidableEq η] {s : Subscriptions η} {key key' : Utf16} {handler handler' : η}

def Has (key : Utf16) (handler : η) (s : Subscriptions η) : Prop := ∃ e ∈ s.entries, e.1 = key ∧ handler ∈ e.2

omit [DecidableEq η] in
theorem mem_keys_iff : key ∈ s.keys ↔ ∃ handler, s.Has key handler := by
  constructor
  · intro listed
    obtain ⟨e, member, same⟩ := List.mem_map.mp listed
    obtain ⟨handler, inside⟩ := List.exists_mem_of_ne_nil e.2 (s.registered e member).1
    exact ⟨handler, e, member, same, inside⟩
  · rintro ⟨handler, e, member, same, _⟩
    exact List.mem_map.mpr ⟨e, member, same⟩

theorem mem_withHandler {handlers : List η} :
    handler' ∈ withHandler handler handlers ↔ handler' ∈ handlers ∨ handler' = handler := by
  unfold withHandler
  split
  · rename_i present
    exact ⟨Or.inl, Or.rec id fun same => same ▸ present⟩
  · rw [List.mem_append, List.mem_singleton]

theorem has_add : (s.add key handler).Has key' handler' ↔ s.Has key' handler' ∨ key' = key ∧ handler' = handler := by
  unfold add
  split
  · rename_i present
    constructor
    · rintro ⟨d, member, rfl, inside⟩
      obtain ⟨e, old, rfl⟩ := List.mem_map.mp member
      dsimp only at inside ⊢
      split at inside
      · rename_i own
        rcases mem_withHandler.mp inside with before | rfl
        · exact Or.inl ⟨e, old, rfl, before⟩
        · exact Or.inr ⟨own, rfl⟩
      · exact Or.inl ⟨e, old, rfl, inside⟩
    · rintro (⟨e, old, rfl, inside⟩ | ⟨rfl, rfl⟩)
      · refine ⟨_, List.mem_map_of_mem old, rfl, ?_⟩
        dsimp only
        split
        · exact mem_withHandler.mpr (Or.inl inside)
        · exact inside
      · obtain ⟨e, old, rfl⟩ := List.mem_map.mp present
        refine ⟨_, List.mem_map_of_mem old, rfl, ?_⟩
        rw [if_pos rfl]
        exact mem_withHandler.mpr (Or.inr rfl)
  · constructor
    · rintro ⟨d, member, rfl, inside⟩
      rcases List.mem_append.mp member with old | last
      · exact Or.inl ⟨d, old, rfl, inside⟩
      · obtain rfl := List.mem_singleton.mp last
        exact Or.inr ⟨rfl, List.mem_singleton.mp inside⟩
    · rintro (⟨e, old, rfl, inside⟩ | ⟨rfl, rfl⟩)
      · exact ⟨e, List.mem_append_left _ old, rfl, inside⟩
      · exact ⟨_, List.mem_append_right _ (List.mem_singleton_self _), rfl, List.mem_singleton_self _⟩

theorem has_remove :
    (s.remove key handler).Has key' handler' ↔ s.Has key' handler' ∧ ¬(key' = key ∧ handler' = handler) := by
  constructor
  · rintro ⟨d, member, rfl, inside⟩
    obtain ⟨e, old, rfl⟩ := List.mem_map.mp (List.mem_filter.mp member).1
    dsimp only at inside ⊢
    split at inside
    · obtain ⟨other, before⟩ := (s.registered e old).2.mem_erase_iff.mp inside
      exact ⟨⟨e, old, rfl, before⟩, fun same => other same.2⟩
    · rename_i apart
      exact ⟨⟨e, old, rfl, inside⟩, fun same => apart same.1⟩
  · rintro ⟨⟨e, old, rfl, inside⟩, other⟩
    have stays : handler' ∈ if e.1 = key then e.2.erase handler else e.2 := by
      split
      · rename_i own
        exact (s.registered e old).2.mem_erase_iff.mpr ⟨fun same => other ⟨own, same⟩, inside⟩
      · exact inside
    exact ⟨_, List.mem_filter.mpr ⟨List.mem_map_of_mem old, decide_eq_true (List.ne_nil_of_mem stays)⟩, rfl, stays⟩

omit [DecidableEq η] in
theorem get_iff {handlers : List η} : s.get key = some handlers ↔ (key, handlers) ∈ s.entries := by
  constructor
  · intro found
    obtain ⟨before, after, split, _⟩ := List.lookup_eq_some_iff.mp (found : s.entries.lookup key = some handlers)
    rw [split]
    exact List.mem_append_right _ List.mem_cons_self
  · intro member
    obtain ⟨before, after, split⟩ := List.append_of_mem member
    refine List.lookup_eq_some_iff.mpr ⟨before, after, split, fun e earlier => ?_⟩
    have distinct := s.distinct
    rw [split, List.map_append, List.nodup_append] at distinct
    exact bne_iff_ne.mpr (distinct.2.2 e.1 (List.mem_map_of_mem earlier) key List.mem_cons_self).symm

omit [DecidableEq η] in
theorem mem_calls_iff {message : RealtimeMessage} :
    ⟨message.channelId, handler, message⟩ ∈ s.calls message ↔ s.Has message.channelId handler := by
  rw [calls, List.mem_append]
  constructor
  · rintro (exact | pattern)
    · obtain ⟨_, inside, same⟩ := List.mem_map.mp exact
      obtain rfl : _ = handler := congrArg Call.handler same
      cases found : s.entries.lookup message.channelId with
      | none =>
          rw [found] at inside
          cases inside
      | some handlers =>
          rw [found] at inside
          exact ⟨(message.channelId, handlers), get_iff.mp found, rfl, inside⟩
    · obtain ⟨e, member, inside⟩ := List.mem_flatMap.mp pattern
      split at inside
      · obtain ⟨_, among, same⟩ := List.mem_map.mp inside
        obtain rfl : _ = handler := congrArg Call.handler same
        exact ⟨e, member, congrArg Call.key same, among⟩
      · cases inside
  · rintro ⟨e, member, same, inside⟩
    refine Or.inl (List.mem_map.mpr ⟨handler, ?_, rfl⟩)
    have found : s.entries.lookup message.channelId = some e.2 := get_iff.mpr (same ▸ member)
    rw [found]
    exact inside

end Subscriptions
end RealtimePlatform.Sdk

namespace RealtimePlatform.Proof.UnsubscribeLaw
open Library Sdk Sdk.Link Utf16
open Backend (Opcode)

def lastWord (channelId : Utf16) (frames : List FrameFields) : Option Opcode :=
  (frames.filter fun f => f.channelId = channelId ∧ (f.opcode = .subscribe ∨ f.opcode = .unsub)).getLast?.map (·.opcode)

def Mute (opcode : Opcode) : Prop := opcode ≠ .subscribe ∧ opcode ≠ .unsub

section
variable {channelId : Utf16} {frames more : List FrameFields}

theorem lastWord_append :
    lastWord channelId (frames ++ more) = (lastWord channelId more).or (lastWord channelId frames) := by
  rw [lastWord, List.filter_append, List.getLast?_append, Option.map_or]
  rfl

theorem lastWord_of_mute (mute : ∀ f ∈ frames, Mute f.opcode) : lastWord channelId frames = none := by
  rw [lastWord, List.filter_eq_nil_iff.mpr, List.getLast?_nil, Option.map_none]
  intro f member word
  exact (of_decide_eq_true word).2.elim (mute f member).1 (mute f member).2

theorem lastWord_cases (word : Opcode) (last : lastWord channelId frames = some word) :
    word = .subscribe ∨ word = .unsub := by
  obtain ⟨f, found, rfl⟩ := Option.map_eq_some_iff.mp last
  exact (of_decide_eq_true (List.mem_filter.mp (List.mem_of_getLast? found)).2).2

theorem lastWord_resubscribe (config : RealtimeClientConfig) (channelId : Utf16) (keys : List Utf16) :
    lastWord channelId (keys.map fun key => frame config .subscribe key []) =
      if channelId ∈ keys then some .subscribe else none := by
  induction keys with
  | nil => rfl
  | cons key keys ih =>
      rw [List.map_cons, ← List.singleton_append, lastWord_append, ih]
      by_cases listed : channelId ∈ keys
      · rw [if_pos listed, if_pos (List.mem_cons_of_mem key listed), Option.some_or]
      · rw [if_neg listed, Option.none_or]
        by_cases own : key = channelId
        · rw [if_pos (own ▸ List.mem_cons_self), lastWord, List.filter_cons_of_pos (by simp [frame, own])]
          rfl
        · rw [if_neg (by simp [listed, Ne.symm own]), lastWord, List.filter_cons_of_neg (by simp [frame, own])]
          rfl

end

def Says (keys : List Utf16) (frames : List FrameFields) : Prop :=
  ∀ channelId, channelId ∈ keys ↔ lastWord channelId frames = some .subscribe

section
variable {η : Type*} {config : RealtimeClientConfig} {link link' : Link η}

def current (link : Link η) : Option Socket := link.ws.bind fun w => link.sockets[w]?

theorem isOpen_iff_opened {socket : Socket} (now : current link = some socket) :
    link.isOpen = true ↔ socket.readyState = .opened := by
  show (current link).any (fun socket => socket.readyState = .opened) = true ↔ _
  rw [now]
  exact decide_eq_true_iff

structure Sound (link : Link η) : Prop where
  queued : ∀ call ∈ link.pendingSends, Mute call.1
  fresh : ∀ socket, current link = some socket → socket.readyState = .connecting → socket.frames = []
  said : ∀ socket, current link = some socket → socket.readyState = .opened →
    Says link.subscriptions.keys socket.frames

theorem current_write (frames : List FrameFields) (flushed : List PendingSend) :
    current (write frames flushed link) = (current link).map (put frames flushed) := by
  cases ws : link.ws with
  | none => rw [write_of_none ws, current, ws, Option.bind_none, Option.map_none]
  | some w =>
      rw [write_of_ws ws, current, current, ws, Option.bind_some, Option.bind_some]
      exact List.getElem?_modify_eq _ w link.sockets

structure Quiet (link link' : Link η) : Prop where
  subscriptions : link'.subscriptions = link.subscriptions
  queued : ∀ call ∈ link'.pendingSends, call ∈ link.pendingSends ∨ Mute call.1
  current : ∀ socket', current link' = some socket' → ∃ socket, current link = some socket ∧
    socket'.frames = socket.frames ∧
    (socket'.readyState = socket.readyState ∨ socket'.readyState = .closing ∨ socket'.readyState = .closed)

theorem sound_quiet (sound : Sound link) (quiet : Quiet link link') : Sound link' := by
  refine ⟨fun call member => ?_, fun socket' found connecting => ?_, fun socket' found opened => ?_⟩
  · exact (quiet.queued call member).elim (sound.queued call) id
  · obtain ⟨socket, there, frames, same | leaving⟩ := quiet.current socket' found
    · exact frames ▸ sound.fresh socket there (same ▸ connecting)
    · rw [connecting] at leaving
      exact leaving.elim (by simp) (by simp)
  · obtain ⟨socket, there, frames, same | leaving⟩ := quiet.current socket' found
    · rw [frames, quiet.subscriptions]
      exact sound.said socket there (same ▸ opened)
    · rw [opened] at leaving
      exact leaving.elim (by simp) (by simp)

/-- What every step does but the two calls that register and take out. -/
def Keeps (link link' : Link η) : Prop := Sound link → Sound link' ∧ link'.subscriptions = link.subscriptions

theorem Quiet.keeps (quiet : Quiet link link') : Keeps link link' :=
  fun sound => ⟨sound_quiet sound quiet, quiet.subscriptions⟩

theorem Keeps.trans {link₁ link₂ link₃ : Link η} (first : Keeps link₁ link₂) (second : Keeps link₂ link₃) :
    Keeps link₁ link₃ := by
  intro sound
  obtain ⟨between, same⟩ := first sound
  obtain ⟨after, still⟩ := second between
  exact ⟨after, still.trans same⟩

theorem quiet_of_eq (subscriptions : link'.subscriptions = link.subscriptions)
    (pendingSends : link'.pendingSends = link.pendingSends) (ws : link'.ws = link.ws)
    (sockets : link'.sockets = link.sockets) : Quiet link link' := by
  refine ⟨subscriptions, fun call member => Or.inl (pendingSends ▸ member), fun socket found => ?_⟩
  rw [UnsubscribeLaw.current, ws, sockets] at found
  exact ⟨socket, found, rfl, Or.inl rfl⟩

theorem quiet_of_none (subscriptions : link'.subscriptions = link.subscriptions)
    (pendingSends : link'.pendingSends = link.pendingSends) (ws : link'.ws = none) : Quiet link link' := by
  refine ⟨subscriptions, fun call member => Or.inl (pendingSends ▸ member), fun socket found => ?_⟩
  rw [UnsubscribeLaw.current, ws] at found
  cases found

theorem subscriptions_write (frames : List FrameFields) (flushed : List PendingSend) :
    (write frames flushed link).subscriptions = link.subscriptions := by
  unfold write
  split <;> rfl

theorem sound_write {frames : List FrameFields} (link' : Link η) (sound : Sound link)
    (pendingSends : link'.pendingSends = link.pendingSends) (ws : link'.ws = link.ws)
    (sockets : link'.sockets = link.sockets) (ready : frames = [] ∨ link.isOpen = true)
    (speaks : link.isOpen = true → ∀ channelId, channelId ∈ link'.subscriptions.keys ↔
      ((lastWord channelId frames).getD (if channelId ∈ link.subscriptions.keys then .subscribe else .unsub)) = .subscribe) :
    Sound (write frames [] link') := by
  have same : current link' = current link := by rw [current, current, ws, sockets]
  have queue : (write frames [] link').pendingSends = link.pendingSends := by
    rw [← pendingSends]
    unfold write
    split <;> rfl
  refine ⟨fun call member => sound.queued call (queue ▸ member), fun socket' found connecting => ?_,
    fun socket' found opened => ?_⟩
  · rw [current_write, same] at found
    obtain ⟨socket, there, rfl⟩ := Option.map_eq_some_iff.mp found
    rcases ready with rfl | opened
    · exact (List.append_nil _).trans (sound.fresh socket there connecting)
    · exact absurd (((isOpen_iff_opened there).mp opened).symm.trans connecting) (by simp)
  · rw [current_write, same] at found
    obtain ⟨socket, there, rfl⟩ := Option.map_eq_some_iff.mp found
    intro channelId
    rw [subscriptions_write, speaks ((isOpen_iff_opened there).mpr opened) channelId]
    show _ ↔ lastWord channelId (socket.frames ++ frames) = some .subscribe
    rw [lastWord_append]
    have before := sound.said socket there opened channelId
    cases lastWord channelId frames with
    | some word => rw [Option.getD_some, Option.some_or, Option.some.injEq]
    | none =>
        rw [Option.getD_none, Option.none_or, ← before]
        split
        · exact iff_of_true rfl ‹_›
        · exact iff_of_false (by simp) ‹_›

theorem speaks_of_lastWord_none {frames : List FrameFields} (mute : ∀ f ∈ frames, Mute f.opcode) (channelId : Utf16) :
    channelId ∈ link.subscriptions.keys ↔ ((lastWord channelId frames).getD
      (if channelId ∈ link.subscriptions.keys then .subscribe else .unsub)) = .subscribe := by
  rw [lastWord_of_mute mute, Option.getD_none]
  split
  · exact iff_of_true ‹_› rfl
  · exact iff_of_false ‹_› (by simp)

theorem keeps_write {opcode : Opcode} (mute : Mute opcode) (channelId payload : Utf16) (opened : link.isOpen = true) :
    Keeps link (write [frame config opcode channelId payload] [] link) := by
  refine fun sound => ⟨sound_write link sound rfl rfl rfl (Or.inr opened) fun _ => ?_, subscriptions_write _ _⟩
  refine speaks_of_lastWord_none fun f member => ?_
  rw [List.mem_singleton.mp member]
  exact mute

theorem keeps_sendOrQueue {opcode : Opcode} (mute : Mute opcode) (channelId payload : Utf16) :
    Keeps link (sendOrQueue config opcode channelId payload link) := by
  unfold sendOrQueue
  split
  · rename_i opened
    exact keeps_write mute channelId payload opened
  · refine Quiet.keeps ⟨rfl, fun call member => ?_, fun socket found => ⟨socket, found, rfl, Or.inl rfl⟩⟩
    rcases List.mem_append.mp member with old | last
    · exact Or.inl old
    · exact Or.inr (List.mem_singleton.mp last ▸ mute)

theorem keeps_sendChunks {opcode : Opcode} (mute : Mute opcode) (rolls : List.Vector (Fin 36) 4)
    (channelId payload : Utf16) : Keeps link (sendChunks config opcode rolls channelId payload link) := by
  unfold sendChunks
  split
  · exact fun sound => ⟨sound, rfl⟩
  · rename_i chunks cut
    clear cut
    induction chunks generalizing link with
    | nil => exact fun sound => ⟨sound, rfl⟩
    | cons chunk chunks ih => exact (keeps_sendOrQueue mute channelId chunk).trans ih

theorem quiet_openSocket (subscriptions : link'.subscriptions = link.subscriptions)
    (pendingSends : link'.pendingSends = link.pendingSends) (ws : link'.ws = link.ws)
    (sockets : link'.sockets = link.sockets) : Quiet link (openSocket config link') := by
  unfold openSocket
  split <;> exact quiet_of_eq subscriptions pendingSends ws sockets

theorem keeps_resolved (found : Bool) : Keeps link (resolved found link) := by
  unfold resolved
  split
  · exact fun sound => ⟨sound, rfl⟩
  · split
    · exact fun sound => ⟨sound, rfl⟩
    · exact fun sound => ⟨sound, rfl⟩
    · rename_i token _ _
      refine fun sound => ⟨⟨sound.queued, fun socket there _ => ?_, fun socket there opened => ?_⟩, rfl⟩
      all_goals
        rw [current, Option.bind_some, List.getElem?_concat_length, Option.some.injEq] at there
        subst there
      · rfl
      · cases opened

theorem lastWord_greeting (sound : Sound link) (token channelId : Utf16) :
    lastWord channelId ((frame config .auth [] token :: link.subscriptions.keys.map fun key =>
      frame config .subscribe key []) ++ callFrames config link.pendingSends) =
      if channelId ∈ link.subscriptions.keys then some .subscribe else none := by
  have calls : lastWord channelId (callFrames config link.pendingSends) = none := by
    refine lastWord_of_mute fun f member => ?_
    obtain ⟨call, queued, rfl⟩ := List.mem_map.mp member
    exact sound.queued call queued
  have auth : lastWord channelId [frame config .auth [] token] = none := by
    refine lastWord_of_mute fun f member => ?_
    rw [List.mem_singleton.mp member]
    simp [Mute, frame]
  rw [lastWord_append, calls, Option.none_or, ← List.singleton_append, lastWord_append, lastWord_resubscribe, auth,
    Option.or_none]

theorem current_opened {w : Nat} {socket' : Socket} (there : current (opened w link) = some socket') :
    ∃ socket, current link = some socket ∧ socket'.frames = socket.frames ∧
      (link.ws = some w ∧ link.sockets[w]? = some socket ∧ socket'.readyState = .opened ∨
        socket'.readyState = socket.readyState) := by
  obtain ⟨v, ws, found⟩ := Option.bind_eq_some_iff.mp there
  have same : link.ws = some v := ws
  obtain ⟨socket, before, ⟨rfl, rfl⟩ | ⟨_, rfl⟩⟩ := modify_cases found
  · exact ⟨socket, by rw [current, same]; exact before, rfl, Or.inl ⟨same, before, rfl⟩⟩
  · exact ⟨socket', by rw [current, same]; exact before, rfl, Or.inr rfl⟩

theorem keeps_onOpen {w : Nat} {socket : Socket} (token : Utf16) (found : link.sockets[w]? = some socket)
    (connecting : socket.readyState = .connecting) : Keeps link (onOpen config w token link) := by
  unfold onOpen
  split
  · rename_i ready
    intro sound
    have same : (greet config token (opened w link)).subscriptions = link.subscriptions := subscriptions_write _ _
    refine ⟨?_, same⟩
    have framed : current (greet config token (opened w link)) = (current (opened w link)).map
        (put ((link.client config).onopen token).1 link.pendingSends) := current_write _ _
    refine ⟨?_, fun socket' there still => ?_, fun socket' there _ channelId => ?_⟩
    · intro call member
      cases member
    · rw [framed] at there
      obtain ⟨last, now, rfl⟩ := Option.map_eq_some_iff.mp there
      exact absurd (((isOpen_iff_opened now).mp ready).symm.trans still) (by simp)
    · rw [framed] at there
      obtain ⟨last, now, rfl⟩ := Option.map_eq_some_iff.mp there
      obtain ⟨before, first, frames, came⟩ := current_opened now
      show _ ↔ lastWord channelId (last.frames ++ ((link.client config).onopen token).1) = some .subscribe
      rw [same, lastWord_append, onopen_frames, lastWord_greeting sound, frames]
      split
      · exact iff_of_true ‹_› rfl
      · rename_i absent
        rw [Option.none_or]
        refine iff_of_false absent fun said => ?_
        rcases came with ⟨_, there, _⟩ | same
        · obtain rfl := Option.some.inj (there.symm.trans found)
          rw [sound.fresh before first connecting] at said
          cases said
        · have opened : before.readyState = .opened := same ▸ (isOpen_iff_opened now).mp ready
          exact absent ((sound.said before first opened channelId).mpr said)
  · rename_i closed
    refine Quiet.keeps ⟨rfl, fun call member => Or.inl member, fun socket' there => ?_⟩
    obtain ⟨before, first, frames, ⟨_, _, opened⟩ | same⟩ := current_opened there
    · exact absurd ((isOpen_iff_opened there).mpr opened) closed
    · exact ⟨before, first, frames, Or.inl same⟩

theorem keeps_callback {e : LinkEvent η} (taken : callback config link e = some link') : Keeps link link' := by
  cases e with
  | fetched fresh =>
      simp only [callback] at taken
      split at taken
      · cases taken
      · rw [← Option.some.inj taken]
        refine Quiet.keeps ?_
        unfold fetched
        split
        · exact quiet_of_eq rfl rfl rfl rfl
        · split <;> exact quiet_of_eq rfl rfl rfl rfl
  | resolved found =>
      simp only [callback] at taken
      split at taken
      · cases taken
      · rename_i resolving _
        obtain ⟨_, same⟩ := Option.ite_none_left_eq_some.mp taken
        rw [← Option.some.inj same]
        have left : Quiet link { link with resolving, wsImpl := some found } := quiet_of_eq rfl rfl rfl rfl
        exact left.keeps.trans (keeps_resolved found)
  | timer id =>
      obtain ⟨_, same⟩ := Option.ite_none_right_eq_some.mp taken
      rw [← Option.some.inj same]
      refine Quiet.keeps ?_
      split
      · exact quiet_of_eq rfl rfl rfl rfl
      · exact quiet_openSocket rfl rfl rfl rfl
  | beat =>
      obtain ⟨_, same⟩ := Option.ite_none_right_eq_some.mp taken
      rw [← Option.some.inj same, beat]
      split
      · have mute : Mute .ping := ⟨by simp, by simp⟩
        exact keeps_write mute [] [] ‹_›
      · exact fun sound => ⟨sound, rfl⟩
  | onOpen w =>
      obtain ⟨socket, found, taken⟩ := Option.bind_eq_some_iff.mp taken
      obtain ⟨connecting, same⟩ := Option.ite_none_right_eq_some.mp taken
      exact Option.some.inj same ▸ keeps_onOpen socket.token found connecting
  | onMessage w arrival =>
      obtain ⟨socket, found, taken⟩ := Option.bind_eq_some_iff.mp taken
      obtain ⟨_, same⟩ := Option.ite_none_right_eq_some.mp taken
      rw [← Option.some.inj same]
      exact Quiet.keeps (quiet_of_eq rfl rfl rfl rfl)
  | onError w =>
      obtain ⟨socket, found, taken⟩ := Option.bind_eq_some_iff.mp taken
      obtain ⟨_, same⟩ := Option.ite_none_right_eq_some.mp taken
      exact Option.some.inj same ▸ fun sound => ⟨sound, rfl⟩
  | onClose w code =>
      obtain ⟨socket, found, taken⟩ := Option.bind_eq_some_iff.mp taken
      obtain ⟨_, same⟩ := Option.ite_none_right_eq_some.mp taken
      rw [← Option.some.inj same]
      exact Quiet.keeps (quiet_of_none rfl rfl rfl)
  | judged w accepted =>
      obtain ⟨socket, found, taken⟩ := Option.bind_eq_some_iff.mp taken
      obtain ⟨_, same⟩ := Option.ite_none_right_eq_some.mp taken
      rw [← Option.some.inj same]
      refine Quiet.keeps ⟨rfl, fun call => Or.inl, fun socket' now => ?_⟩
      obtain ⟨v, ws, there⟩ := Option.bind_eq_some_iff.mp now
      obtain ⟨before, first, ⟨_, rfl⟩ | ⟨_, rfl⟩⟩ := modify_cases there
      · exact ⟨before, Option.bind_eq_some_iff.mpr ⟨v, ws, first⟩, rfl, Or.inl rfl⟩
      · exact ⟨socket', Option.bind_eq_some_iff.mpr ⟨v, ws, first⟩, rfl, Or.inl rfl⟩
  | _ => cases taken

variable [DecidableEq η]

theorem sound_subscribe (channelId : Utf16) (handler : η) (sound : Sound link) :
    Sound (subscribe config channelId handler link) := by
  have keys : ∀ key, key ∈ (link.subscriptions.add channelId handler).keys ↔
      key ∈ link.subscriptions.keys ∨ key = channelId := by
    intro key
    simp only [Subscriptions.mem_keys_iff, Subscriptions.has_add, exists_or, exists_and_left, exists_eq, and_true]
  refine sound_write { link with subscriptions := link.subscriptions.add channelId handler } sound rfl rfl rfl ?_ fun opened key => ?_
  · split
    · rename_i fresh
      exact Or.inr fresh.2
    · exact Or.inl rfl
  · rw [keys]
    split
    · rename_i fresh
      by_cases own : key = channelId
      · simp [lastWord, RealtimeClient.frame, own]
      · have silent : lastWord key [(link.client config).frame .subscribe channelId []] = none := by
          simp [lastWord, RealtimeClient.frame, Ne.symm own]
        rw [silent, Option.getD_none]
        by_cases listed : key ∈ link.subscriptions.keys <;> simp [listed, own]
    · rename_i stale
      have present : channelId ∈ link.subscriptions.keys := by
        by_contra absent
        exact stale ⟨absent, opened⟩
      show _ ↔ (Option.getD none _) = _
      rw [Option.getD_none]
      by_cases own : key = channelId
      · simp [own, present]
      · by_cases listed : key ∈ link.subscriptions.keys <;> simp [listed, own]

theorem sound_unsubscribe (channelId : Utf16) (handler : η) (sound : Sound link) :
    Sound (unsubscribe config channelId handler link) := by
  have other : ∀ key, key ≠ channelId → (key ∈ (link.subscriptions.remove channelId handler).keys ↔
      key ∈ link.subscriptions.keys) := by
    intro key apart
    simp only [Subscriptions.mem_keys_iff, Subscriptions.has_remove, apart, false_and, not_false_eq_true, and_true]
  have fewer : channelId ∈ (link.subscriptions.remove channelId handler).keys → channelId ∈ link.subscriptions.keys := by
    simp only [Subscriptions.mem_keys_iff, Subscriptions.has_remove]
    exact fun ⟨handler, has, _⟩ => ⟨handler, has⟩
  refine sound_write { link with subscriptions := link.subscriptions.remove channelId handler } sound rfl rfl rfl ?_ fun opened key => ?_
  · split
    · rename_i gone
      exact Or.inr gone.2
    · exact Or.inl rfl
  · by_cases own : key = channelId
    · subst own
      split
      · rename_i gone
        simp [lastWord, frame, gone.1.2]
      · rename_i stays
        show _ ↔ (Option.getD none _) = _
        rw [Option.getD_none]
        by_cases listed : key ∈ link.subscriptions.keys
        · have kept : key ∈ (link.subscriptions.remove key handler).keys := by
            by_contra absent
            exact stays ⟨⟨listed, absent⟩, opened⟩
          simp [listed, kept]
        · simp only [listed, if_false]
          exact iff_of_false (fun kept => listed (fewer kept)) (by simp)
    · rw [other key own]
      have silent : lastWord key (if (channelId ∈ link.subscriptions.keys ∧
          channelId ∉ (link.subscriptions.remove channelId handler).keys) ∧ link.isOpen = true
          then [frame config .unsub channelId []] else []) = none := by
        split
        · simp [lastWord, frame, Ne.symm own]
        · rfl
      rw [silent, Option.getD_none]
      by_cases listed : key ∈ link.subscriptions.keys <;> simp [listed]

theorem keeps_step {e : LinkEvent η} (taken : Link.step config link e = some link') :
    (∃ channelId handler, e = .subscribe channelId handler) ∨ (∃ channelId handler, e = .unsubscribe channelId handler) ∨
      Keeps link link' := by
  cases e with
  | subscribe channelId handler => exact Or.inl ⟨channelId, handler, rfl⟩
  | unsubscribe channelId handler => exact Or.inr (Or.inl ⟨channelId, handler, rfl⟩)
  | connect =>
      refine Or.inr (Or.inr ?_)
      rw [← Option.some.inj taken]
      exact Quiet.keeps (quiet_openSocket rfl rfl rfl rfl)
  | disconnect =>
      refine Or.inr (Or.inr ?_)
      rw [← Option.some.inj taken]
      exact Quiet.keeps (quiet_of_none rfl rfl rfl)
  | publish rolls channelId payload =>
      have mute : Mute .publish := ⟨by simp, by simp⟩
      exact Or.inr (Or.inr (Option.some.inj taken ▸ keeps_sendChunks mute rolls channelId payload))
  | unicast rolls userId payload =>
      have mute : Mute .unicast := ⟨by simp, by simp⟩
      exact Or.inr (Or.inr (Option.some.inj taken ▸ keeps_sendChunks mute rolls userId payload))
  | replay channelId sinceUnixSeconds =>
      have mute : Mute .replay := ⟨by simp, by simp⟩
      exact Or.inr (Or.inr (Option.some.inj taken ▸ keeps_sendOrQueue mute channelId sinceUnixSeconds))
  | emitted =>
      obtain ⟨_, same⟩ := Option.ite_none_right_eq_some.mp taken
      refine Or.inr (Or.inr (Option.some.inj same ▸ Quiet.keeps ?_))
      unfold emitted
      split <;> exact quiet_of_eq rfl rfl rfl rfl
  | fetched | resolved | timer | beat | onOpen | onMessage | onError | onClose | judged =>
      exact Or.inr (Or.inr (keeps_callback (Option.ite_none_left_eq_some.mp taken).2))

end

structure Subscription (η : Type*) where
  channelId : Utf16
  handler : η
  undone : Bool := false

structure Ledger (η : Type*) where
  link : Link η
  calls : List (Subscription η) := []

/-- `undo i` is a call of what the `i`-th call of `subscribe` has returned. -/
inductive LedgerEvent (η : Type*) where
  | subscribe (channelId : Utf16) (handler : η)
  | undo (i : Nat)
  | other (e : LinkEvent η)

namespace Ledger
variable {η : Type*} [DecidableEq η] (config : RealtimeClientConfig)

def initial : Ledger η := { link := Link.initial config }

def step : Step (Ledger η) (LedgerEvent η)
  | ledger, .subscribe channelId handler =>
    (Link.step config ledger.link (.subscribe channelId handler)).map fun link =>
      { link, calls := ledger.calls ++ [{ channelId, handler }] }
  | ledger, .undo i => ledger.calls[i]?.bind fun call =>
    (Link.step config ledger.link (.unsubscribe call.channelId call.handler)).map fun link =>
      { link, calls := ledger.calls.modify i fun call => { call with undone := true } }
  | _, .other (.subscribe _ _) | _, .other (.unsubscribe _ _) => none
  | ledger, .other e => (Link.step config ledger.link e).map fun link => { ledger with link }

def Stands (channelId : Utf16) (handler : η) (ledger : Ledger η) : Prop :=
  ∃ call ∈ ledger.calls, call.channelId = channelId ∧ call.handler = handler ∧ call.undone = false

end Ledger

/-- The exact handlers of a message's channel are those of the calls that have not been undone, and while the
socket is open its last word on a channel is SUB if there are any, and otherwise UNSUB where there is one. -/
structure Law {η : Type*} (ledger : Ledger η) : Prop where
  invoked : ∀ (message : RealtimeMessage) (handler : η),
    ⟨message.channelId, handler, message⟩ ∈ ledger.link.subscriptions.calls message ↔
      ledger.Stands message.channelId handler
  wire : ∀ socket : Socket, current ledger.link = some socket → socket.readyState = .opened → ∀ channelId : Utf16,
    ((∃ handler, ledger.Stands channelId handler) → lastWord channelId socket.frames = some .subscribe) ∧
    ((¬∃ handler, ledger.Stands channelId handler) →
      lastWord channelId socket.frames = some .unsub ∨ lastWord channelId socket.frames = none)

/-- An unsubscribe function is called only when no other call with its channel and handler stands. -/
def OwnAlone {η : Type*} (ledger : Ledger η) : LedgerEvent η → Prop
  | .undo i => ∀ call : Subscription η, ledger.calls[i]? = some call → ∀ (j : Nat) (other : Subscription η),
      ledger.calls[j]? = some other → j ≠ i → other.channelId = call.channelId → other.handler = call.handler →
        other.undone = true
  | _ => True

section
variable {η : Type*} {config : RealtimeClientConfig} {ledger ledger' : Ledger η}

/-- What is registered is what stands. -/
def Registered (ledger : Ledger η) : Prop :=
  ∀ channelId handler, ledger.link.subscriptions.Has channelId handler ↔ ledger.Stands channelId handler

theorem law_iff (sound : Sound ledger.link) : Law ledger ↔ Registered ledger := by
  constructor
  · intro law channelId handler
    let message : RealtimeMessage := { channelId, payload := [], tenantId := List.Vector.replicate 16 0, receivedAt := 0 }
    exact Subscriptions.mem_calls_iff.symm.trans (law.invoked message handler)
  · intro registered
    refine ⟨fun message handler => Subscriptions.mem_calls_iff.trans (registered message.channelId handler),
      fun socket now opened channelId => ?_⟩
    have listed : (∃ handler, ledger.Stands channelId handler) ↔ channelId ∈ ledger.link.subscriptions.keys := by
      rw [Subscriptions.mem_keys_iff]
      exact (exists_congr (registered channelId)).symm
    rw [listed, sound.said socket now opened channelId]
    refine ⟨id, fun unsaid => ?_⟩
    cases last : lastWord channelId socket.frames with
    | none => exact Or.inr rfl
    | some word =>
        rcases lastWord_cases word last with rfl | rfl
        · exact absurd last unsaid
        · exact Or.inl rfl

variable [DecidableEq η]

theorem ledger_cases {e : LedgerEvent η} (taken : Ledger.step config ledger e = some ledger') :
    (∃ channelId handler, e = .subscribe channelId handler ∧
      ledger' = ⟨Link.subscribe config channelId handler ledger.link, ledger.calls ++ [⟨channelId, handler, false⟩]⟩) ∨
    (∃ i call, e = .undo i ∧ ledger.calls[i]? = some call ∧
      ledger' = ⟨Link.unsubscribe config call.channelId call.handler ledger.link,
        ledger.calls.modify i fun call => { call with undone := true }⟩) ∨
    (∃ event link', e = .other event ∧ ledger' = { ledger with link := link' } ∧ Keeps ledger.link link') := by
  cases e with
  | subscribe channelId handler =>
      rw [Ledger.step, Option.map_eq_some_iff] at taken
      obtain ⟨link, called, rfl⟩ := taken
      exact Or.inl ⟨channelId, handler, rfl, by rw [← Option.some.inj called]⟩
  | undo i =>
      obtain ⟨call, found, taken⟩ := Option.bind_eq_some_iff.mp taken
      obtain ⟨link, called, rfl⟩ := Option.map_eq_some_iff.mp taken
      exact Or.inr (Or.inl ⟨i, call, rfl, found, by rw [← Option.some.inj called]⟩)
  | other event =>
      cases event
      case subscribe | unsubscribe => cases taken
      all_goals
        simp only [Ledger.step, Option.map_eq_some_iff] at taken
        obtain ⟨link, stepped, rfl⟩ := taken
        refine Or.inr (Or.inr ⟨_, link, rfl, rfl, ?_⟩)
        rcases keeps_step stepped with ⟨_, _, called⟩ | ⟨_, _, called⟩ | keeps
        · cases called
        · cases called
        · exact keeps

theorem sound_ledger {e : LedgerEvent η} (sound : Sound ledger.link)
    (taken : Ledger.step config ledger e = some ledger') : Sound ledger'.link := by
  rcases ledger_cases taken with ⟨channelId, handler, _, rfl⟩ | ⟨i, call, _, _, rfl⟩ | ⟨_, link', _, rfl, keeps⟩
  · exact sound_subscribe channelId handler sound
  · exact sound_unsubscribe call.channelId call.handler sound
  · exact (keeps sound).1

omit [DecidableEq η] in
theorem stands_concat {channelId : Utf16} {handler : η} {calls : List (Subscription η)} (link : Link η)
    {link' : Link η} {call : Subscription η} (fresh : call.undone = false) :
    Ledger.Stands channelId handler ⟨link', calls ++ [call]⟩ ↔
      Ledger.Stands channelId handler ⟨link, calls⟩ ∨ channelId = call.channelId ∧ handler = call.handler := by
  constructor
  · rintro ⟨other, member, channel, own, standing⟩
    rcases List.mem_append.mp member with old | last
    · exact Or.inl ⟨other, old, channel, own, standing⟩
    · obtain rfl := List.mem_singleton.mp last
      exact Or.inr ⟨channel.symm, own.symm⟩
  · rintro (⟨other, old, standing⟩ | ⟨rfl, rfl⟩)
    · exact ⟨other, List.mem_append_left _ old, standing⟩
    · exact ⟨call, List.mem_append_right _ (List.mem_singleton_self call), rfl, rfl, fresh⟩

omit [DecidableEq η] in
theorem stands_undone {channelId : Utf16} {handler : η} {calls : List (Subscription η)} (link : Link η) {i : Nat} :
    Ledger.Stands channelId handler ⟨link, calls.modify i fun call => { call with undone := true }⟩ ↔
      ∃ (j : Nat) (other : Subscription η), calls[j]? = some other ∧ j ≠ i ∧ other.channelId = channelId ∧
        other.handler = handler ∧ other.undone = false := by
  constructor
  · rintro ⟨other, member, channel, own, standing⟩
    obtain ⟨j, there⟩ := List.mem_iff_getElem?.mp member
    rw [List.getElem?_modify] at there
    split at there
    · obtain ⟨call, _, rfl⟩ := Option.map_eq_some_iff.mp there
      cases standing
    · rw [Option.map_eq_map, Option.map_id'] at there
      exact ⟨j, other, there, Ne.symm ‹_›, channel, own, standing⟩
  · rintro ⟨j, other, there, apart, channel, own, standing⟩
    refine ⟨other, List.mem_iff_getElem?.mpr ⟨j, ?_⟩, channel, own, standing⟩
    exact (List.getElem?_modify_ne _ calls (Ne.symm apart)).trans there

theorem registered_step {e : LedgerEvent η} (sound : Sound ledger.link) (registered : Registered ledger)
    (taken : Ledger.step config ledger e = some ledger') : OwnAlone ledger e ↔ Registered ledger' := by
  rcases ledger_cases taken with ⟨channelId, handler, rfl, rfl⟩ | ⟨i, call, rfl, found, rfl⟩ | ⟨_, link', rfl, rfl, keeps⟩
  · refine iff_of_true trivial fun key other => ?_
    rw [stands_concat ledger.link rfl]
    have same : (Link.subscribe config channelId handler ledger.link).subscriptions =
      ledger.link.subscriptions.add channelId handler := subscriptions_write _ _
    rw [same, Subscriptions.has_add, registered key other]
  · have same : (Link.unsubscribe config call.channelId call.handler ledger.link).subscriptions =
      ledger.link.subscriptions.remove call.channelId call.handler := subscriptions_write _ _
    have left : ∀ key other, (Link.unsubscribe config call.channelId call.handler ledger.link).subscriptions.Has key other ↔
        ledger.Stands key other ∧ ¬(key = call.channelId ∧ other = call.handler) := by
      intro key other
      rw [same, Subscriptions.has_remove, registered key other]
    constructor
    · intro alone key handler
      rw [left, stands_undone _]
      constructor
      · rintro ⟨⟨other, member, rfl, rfl, standing⟩, apart⟩
        obtain ⟨j, there⟩ := List.mem_iff_getElem?.mp member
        refine ⟨j, other, there, ?_, rfl, rfl, standing⟩
        rintro rfl
        obtain rfl := Option.some.inj (there.symm.trans found)
        exact apart ⟨rfl, rfl⟩
      · rintro ⟨j, other, there, apart, rfl, rfl, standing⟩
        refine ⟨⟨other, List.mem_of_getElem? there, rfl, rfl, standing⟩, fun ⟨channel, own⟩ => ?_⟩
        rw [alone call found j other there apart channel own] at standing
        cases standing
    · intro follows call' found' j other there apart channel own
      obtain rfl := Option.some.inj (found.symm.trans found')
      by_contra standing
      have stands := (stands_undone (Link.unsubscribe config call.channelId call.handler ledger.link)).mpr
        ⟨j, other, there, apart, channel, own, Bool.eq_false_of_not_eq_true standing⟩
      exact ((left _ _).mp ((follows _ _).mpr stands)).2 ⟨rfl, rfl⟩
  · refine iff_of_true trivial fun key other => ?_
    rw [(keeps sound).2]
    exact registered key other

omit [DecidableEq η] in
theorem sound_start : Sound (Link.initial config : Link η) := by
  constructor <;> simp [Link.initial, current]

end

/-- In every run a handler is called for the messages of its channel as long as one of its calls stands, and
the server knows the channels that have any, exactly while every unsubscribe function that is called is that
of a call alone with its channel and handler. -/
theorem law_iff_ownAlone {η : Type*} [DecidableEq η] (config : RealtimeClientConfig) (es : List (LedgerEvent η))
    (ledger : Ledger η) (reached : (Ledger.step config).run (Ledger.initial config) es = some ledger) :
    (Ledger.step config).Meets OwnAlone (Ledger.initial config) es ↔
      (Ledger.step config).Throughout Law (Ledger.initial config) es := by
  have start : Law (Ledger.initial config : Ledger η) := by
    refine (law_iff sound_start).mpr fun channelId handler => iff_of_false ?_ ?_
    · rintro ⟨e, member, _⟩
      cases member
    · rintro ⟨call, member, _⟩
      cases member
  refine Step.meets_iff_throughout (I := fun ledger => Sound ledger.link) (fun _ _ _ => sound_ledger) ?_ reached
    sound_start start
  intro ledger e ledger' sound law taken
  rw [law_iff (sound_ledger sound taken)]
  exact registered_step sound ((law_iff sound).mp law) taken

def sample : RealtimeClientConfig := ⟨List.Vector.replicate 16 0, some (ofString "token"), false, true, 65536⟩

def twice : List (LedgerEvent Unit) :=
  [.other .connect, .other (.resolved true), .other (.onOpen 0), .subscribe (ofString "room") (),
    .subscribe (ofString "room") (), .undo 0]

theorem twice_undoes_both : ∃ ledger, (Ledger.step sample).run (Ledger.initial sample) twice = some ledger ∧
    ledger.Stands (ofString "room") () ∧ ledger.link.subscriptions.keys = [] ∧
    (∃ socket, current ledger.link = some socket ∧ lastWord (ofString "room") socket.frames = some .unsub) ∧
    ¬Law ledger := by
  refine ⟨_, rfl, ?_, rfl, ?_, ?_⟩
  · exact ⟨⟨ofString "room", (), false⟩, List.mem_of_getElem? (i := 1) rfl, rfl, rfl, rfl⟩
  · exact ⟨_, rfl, rfl⟩
  · intro law
    have called := (law.invoked ⟨ofString "room", [], List.Vector.replicate 16 0, 0⟩ ()).mpr
      ⟨⟨ofString "room", (), false⟩, List.mem_of_getElem? (i := 1) rfl, rfl, rfl, rfl⟩
    cases called

def apart : List (LedgerEvent Bool) :=
  [.other .connect, .other (.resolved true), .other (.onOpen 0), .subscribe (ofString "room") true,
    .subscribe (ofString "room") false, .undo 0]

theorem law_iff_ownAlone_apart : (Ledger.step sample).Throughout Law (Ledger.initial sample) apart := by
  refine (law_iff_ownAlone sample apart _ rfl).mp ?_
  refine Step.meets_cons trivial rfl (Step.meets_cons trivial rfl (Step.meets_cons trivial rfl
    (Step.meets_cons trivial rfl (Step.meets_cons trivial rfl (Step.meets_cons ?_ rfl trivial)))))
  intro call called j other there ne _ same
  cases called
  match j with
  | 0 => exact absurd rfl ne
  | 1 =>
      cases there
      cases same
  | j + 2 => cases there

end RealtimePlatform.Proof.UnsubscribeLaw
