import RealtimePlatform.Sdk.AndroidClient

namespace RealtimePlatform.Proof.AndroidStops
open Library Sdk.Kotlin Sdk.Kotlin.RealtimeClient

def halted (journal : List Entry) : Bool :=
  journal.foldl (fun now entry =>
    match entry with
    | .serverClosed _ code => now || code = wsCloseCodeAuthFailed
    | .connectCalled => false
    | _ => now) false

def Permitted (journal : List Entry) : Entry → Prop
  | .attempt _ => ∀ w, .serverClosed w wsCloseCodeAuthFailed ∈ journal →
      ∃ reason, .emitted (some w) (.authFailed wsCloseCodeAuthFailed reason) ∈ journal
  | .scheduled => halted journal = false
  | _ => True

/-- AUTH rejected is told before any further attempt, and none is scheduled until `connect` is called. -/
def Stops (client : RealtimeClient) : Prop :=
  ∀ before entry after, client.journal = before ++ entry :: after → Permitted before entry

/-- When the client stops: no socket is created while one closed with 4001 has not been reported by `onClosed`,
and after such a close no callback schedules a reconnect until `connect` is called. -/
def Heeds (config : RealtimeClientConfig) (client : RealtimeClient) : Event → Prop
  | .create => ∀ (w : Nat) (socket : Socket) (reason : String), client.sockets[w]? = some socket →
      socket.peerClosed = some (wsCloseCodeAuthFailed, reason) → socket.closed = true
  | .onFailure _ => halted client.journal = true → client.closedByUser = true ∨ config.reconnect = false
  | .onClosed w => ∀ (socket : Socket) (code : Nat) (reason : String), client.sockets[w]? = some socket →
      socket.peerClosed = some (code, reason) → code ≠ wsCloseCodeAuthFailed → halted client.journal = true →
        client.closedByUser = true ∨ config.reconnect = false
  | _ => True

def told (client : RealtimeClient) (w : Nat) : Option (Option (Nat × String) × Bool) :=
  client.sockets[w]?.map fun socket => (socket.peerClosed, socket.closed)

/-- An event that makes no attempt and reports no end of a socket. -/
def Plain : Event → Prop
  | .create | .onClosed _ | .onFailure _ => False
  | _ => True

def reconnects (config : RealtimeClientConfig) (client : RealtimeClient) : List Entry :=
  if client.closedByUser || !config.reconnect then [] else [.scheduled]

inductive Notes (config : RealtimeClientConfig) (client : RealtimeClient) (client' : RealtimeClient) :
    Event → Prop where
  | quiet {e : Event} (plain : Plain e) (same : told client' = told client)
      (journal : client'.journal = client.journal) : Notes config client client' e
  | called (same : told client' = told client) (journal : client'.journal = client.journal ++ [.connectCalled]) :
      Notes config client client' .connect
  | greeted (w : Nat) (same : told client' = told client)
      (journal : client'.journal = client.journal ++ [.emitted (some w) .opened, .emitted (some w) .authenticated]) :
      Notes config client client' (.opened w)
  | attempted (w : Nat) (same : told client' = Function.update (told client) w (some (none, false)))
      (fresh : told client w = none) (journal : client'.journal = client.journal ++ [.attempt w]) :
      Notes config client client' .create
  | closes (w : Nat) (code : Nat) (reason : String) (closed : Bool) (before : told client w = some (none, closed))
      (same : told client' = Function.update (told client) w (some (some (code, reason), closed)))
      (journal : client'.journal = client.journal ++ [.serverClosed w code]) :
      Notes config client client' (.peerCloses w code reason)
  | failed (w : Nat) (same : told client' = told client)
      (journal : client'.journal = client.journal ++ .emitted (some w) .error :: reconnects config client) :
      Notes config client client' (.onFailure w)
  | ended (w : Nat) (code : Nat) (reason : String) (before : told client w = some (some (code, reason), false))
      (same : told client' = Function.update (told client) w (some (some (code, reason), true)))
      (journal : client'.journal = client.journal ++ .emitted (some w) (.closed code reason) ::
        if code = wsCloseCodeAuthFailed then [.emitted (some w) (.authFailed code reason)]
        else reconnects config client) : Notes config client client' (.onClosed w)

section
variable {config : RealtimeClientConfig} {client client' : RealtimeClient} {e : Event} {w : Nat} {socket : Socket}

theorem told_eq (there : client.sockets[w]? = some socket) : told client w = some (socket.peerClosed, socket.closed) := by
  rw [told, there]
  rfl

theorem told_set (there : client.sockets[w]? = some socket) (socket' : Socket)
    (same : client'.sockets = client.sockets.set w socket') :
    told client' = Function.update (told client) w (some (socket'.peerClosed, socket'.closed)) := by
  funext v
  rw [told, same, List.getElem?_set, Function.update_apply]
  by_cases here : v = w
  · rw [if_pos here, if_pos here.symm, if_pos (List.getElem?_eq_some_iff.mp there).1]
    rfl
  · rw [if_neg here, if_neg (Ne.symm here)]
    rfl

theorem told_set_same {socket' : Socket} (there : client.sockets[w]? = some socket)
    (same : client'.sockets = client.sockets.set w socket') (peer : socket'.peerClosed = socket.peerClosed)
    (closed : socket'.closed = socket.closed) : told client' = told client := by
  rw [told_set there socket' same, peer, closed, ← told_eq there, Function.update_eq_self]

theorem told_map {f : Socket → Socket} (same : client'.sockets = client.sockets.map f)
    (kept : ∀ s, (f s).peerClosed = s.peerClosed ∧ (f s).closed = s.closed) : told client' = told client := by
  funext v
  rw [told, told, same, List.getElem?_map, Option.map_map]
  congr 1
  funext s
  exact Prod.ext (kept s).1 (kept s).2

theorem told_modify {f : Socket → Socket} (same : client'.sockets = client.sockets.modify w f)
    (kept : ∀ s, (f s).peerClosed = s.peerClosed ∧ (f s).closed = s.closed) : told client' = told client := by
  funext v
  rw [told, told, same, List.getElem?_modify]
  cases client.sockets[v]? with
  | none => rfl
  | some s =>
      refine congrArg some ?_
      dsimp only
      split
      · exact Prod.ext (kept s).1 (kept s).2
      · rfl

theorem send_kept (raw : Backend.RawFrame) (s : Socket) :
    (s.send raw).peerClosed = s.peerClosed ∧ (s.send raw).closed = s.closed := by
  unfold Socket.send
  split <;> exact ⟨rfl, rfl⟩

theorem told_of_sockets (same : client'.sockets = client.sockets) : told client' = told client := by
  unfold told
  rw [same]

theorem take_kept (raw : Backend.RawFrame) (client : RealtimeClient) :
    (client.take raw).sockets = client.sockets ∧ (client.take raw).journal = client.journal := by
  unfold take
  split <;> exact ⟨rfl, rfl⟩

theorem scheduleReconnect_kept : (scheduleReconnect config client).sockets = client.sockets ∧
    (scheduleReconnect config client).journal = client.journal ++ reconnects config client := by
  unfold scheduleReconnect reconnects
  split
  · exact ⟨rfl, (List.append_nil _).symm⟩
  · exact ⟨rfl, rfl⟩

theorem onClosed_static {token : String} (static : config.credentials = .token token) (w : Nat) (socket : Socket)
    (code : Nat) (reason : String) (client : RealtimeClient) :
    (client.onClosed config w socket code reason).sockets = client.sockets.set w { socket with closed := true } ∧
      (client.onClosed config w socket code reason).journal = client.journal ++
        .emitted (some w) (.closed code reason) ::
          if code = wsCloseCodeAuthFailed then [.emitted (some w) (.authFailed code reason)]
          else reconnects config client := by
  unfold onClosed
  rw [static]
  dsimp only
  split
  · exact ⟨rfl, List.append_assoc _ _ _⟩
  · refine ⟨scheduleReconnect_kept.1, ?_⟩
    rw [scheduleReconnect_kept.2]
    exact List.append_assoc _ _ _

theorem notes_take (plain : Plain e) (raw : Backend.RawFrame) (same : told client' = told client)
    (journal : client'.journal = client.journal) : Notes config client (client'.take raw) e := by
  obtain ⟨sockets, kept⟩ := take_kept raw client'
  exact .quiet plain ((told_of_sockets sockets).trans same) (kept.trans journal)

def Calm (client : RealtimeClient) : Prop := client.scheduler ≠ .resolving

theorem notes_step {token : String} (static : config.credentials = .token token) (calm : Calm client)
    (taken : step config client e = some client') : Notes config client client' e := by
  cases e with
  | connect => exact Option.some.inj taken ▸ .called rfl rfl
  | disconnect =>
      rw [← Option.some.inj taken, disconnect]
      cases current : client.webSocket with
      | none => exact .quiet trivial rfl rfl
      | some w =>
          refine .quiet trivial (told_modify rfl fun s => ?_) rfl
          exact ⟨rfl, rfl⟩
  | subscribe channelId listener met =>
      rw [← Option.some.inj taken, subscribe]
      split
      · exact .quiet trivial rfl rfl
      · apply notes_take
        · trivial
        · exact told_map rfl fun s => ⟨rfl, rfl⟩
        · rfl
  | unsubscribe channelId listener =>
      rw [← Option.some.inj taken, unsubscribe]
      split
      · exact .quiet trivial rfl rfl
      · split
        · apply notes_take
          · trivial
          · exact told_map rfl fun s => ⟨rfl, rfl⟩
          · rfl
        · exact .quiet trivial rfl rfl
  | publish channelId payload => exact Option.some.inj taken ▸ notes_take (e := .publish channelId payload) trivial _ rfl rfl
  | unicast userId payload => exact Option.some.inj taken ▸ notes_take (e := .unicast userId payload) trivial _ rfl rfl
  | replay channelId sinceUnixSeconds => exact Option.some.inj taken ▸ notes_take (e := .replay channelId sinceUnixSeconds) trivial _ rfl rfl
  | handOver i =>
      obtain ⟨⟨w, raw⟩, _, rfl⟩ := Option.map_eq_some_iff.mp taken
      exact .quiet trivial (told_modify rfl (send_kept raw)) rfl
  | runQueued =>
      simp only [step] at taken
      split at taken
      · rw [← Option.some.inj taken, openSocket, static]
        exact .quiet trivial rfl rfl
      · cases taken
  | timer =>
      simp only [step] at taken
      split at taken
      · rw [← Option.some.inj taken, openSocket, static]
        split <;> exact .quiet trivial rfl rfl
      · cases taken
  | provided fresh =>
      simp only [step] at taken
      split at taken
      · rename_i resolving
        exact absurd resolving calm
      · cases taken
  | create =>
      simp only [step] at taken
      split at taken
      · rename_i token _
        rw [← Option.some.inj taken]
        refine .attempted client.sockets.length ?_ ?_ rfl
        · funext v
          show ((client.sockets ++ [({ token } : Socket)])[v]?).map _ = _
          rw [List.getElem?_append, Function.update_apply]
          by_cases here : v = client.sockets.length
          · rw [here, if_neg (Nat.lt_irrefl _), if_pos rfl, Nat.sub_self]
            rfl
          · rw [if_neg here]
            split
            · rfl
            · rename_i beyond
              have past : [({ token } : Socket)].length ≤ v - client.sockets.length := by
                rw [List.length_singleton]
                omega
              rw [told, List.getElem?_eq_none (Nat.le_of_not_lt beyond), List.getElem?_eq_none past]
        · rw [told, List.getElem?_eq_none le_rfl]
          rfl
      · cases taken
  | heartbeat =>
      simp only [step] at taken
      split at taken
      · rw [← Option.some.inj taken]
        exact .quiet trivial (told_modify rfl (send_kept _)) rfl
      · cases taken
  | onOpen w =>
      obtain ⟨socket, there, taken⟩ := Option.bind_eq_some_iff.mp taken
      obtain ⟨_, same⟩ := Option.ite_none_right_eq_some.mp taken
      rw [← Option.some.inj same]
      have kept := send_kept (frame config .auth "" socket.token)
        { socket with stage := .greeting client.subscriptions.keys.toFinset ∅ }
      exact .quiet trivial (told_set_same there rfl kept.1 kept.2) rfl
  | resubscribe w channelId =>
      obtain ⟨socket, there, taken⟩ := Option.bind_eq_some_iff.mp taken
      split at taken
      · rename_i ahead passed _
        obtain ⟨_, same⟩ := Option.ite_none_right_eq_some.mp taken
        rw [← Option.some.inj same]
        have kept := send_kept (frame config .subscribe channelId "")
          { socket with stage := .greeting (ahead.erase channelId) (insert channelId passed) }
        exact .quiet trivial (told_set_same there rfl kept.1 kept.2) rfl
      · cases taken
  | opened w =>
      obtain ⟨socket, there, taken⟩ := Option.bind_eq_some_iff.mp taken
      split at taken
      · obtain ⟨_, same⟩ := Option.ite_none_right_eq_some.mp taken
        rw [← Option.some.inj same]
        exact .greeted w (told_set_same there rfl rfl rfl) rfl
      · cases taken
  | peerCloses w code reason =>
      obtain ⟨socket, there, taken⟩ := Option.bind_eq_some_iff.mp taken
      obtain ⟨guard, same⟩ := Option.ite_none_right_eq_some.mp taken
      rw [← Option.some.inj same]
      refine .closes w code reason socket.closed ?_ ?_ rfl
      · rw [told_eq there, guard.2.1]
      · exact told_set there { socket with peerClosed := some (code, reason) } rfl
  | onClosed w =>
      obtain ⟨socket, there, taken⟩ := Option.bind_eq_some_iff.mp taken
      split at taken
      · rename_i code reason peer
        obtain ⟨guard, same⟩ := Option.ite_none_right_eq_some.mp taken
        rw [← Option.some.inj same]
        have before : told client w = some (some (code, reason), false) := by
          rw [told_eq there, peer, Bool.eq_false_of_not_eq_true' guard.2.1]
        obtain ⟨sockets, journal⟩ := onClosed_static static w socket code reason client
        refine .ended w code reason before ?_ journal
        rw [← peer]
        exact told_set there { socket with closed := true } sockets
      · cases taken
  | onFailure w =>
      obtain ⟨socket, there, taken⟩ := Option.bind_eq_some_iff.mp taken
      obtain ⟨_, same⟩ := Option.ite_none_right_eq_some.mp taken
      rw [← Option.some.inj same, onFailure]
      refine .failed w ?_ ?_
      · refine (told_of_sockets scheduleReconnect_kept.1).trans ?_
        exact told_set_same there rfl rfl rfl
      · rw [scheduleReconnect_kept.2]
        exact List.append_assoc _ _ _

theorem scheduler_take (raw : Backend.RawFrame) (client : RealtimeClient) :
    (client.take raw).scheduler = client.scheduler := by
  unfold take
  split <;> rfl

theorem scheduler_scheduleReconnect : (scheduleReconnect config client).scheduler = client.scheduler := by
  unfold scheduleReconnect
  split <;> rfl

theorem calm_openSocket {token : String} (static : config.credentials = .token token) (client : RealtimeClient) :
    Calm (openSocket config client) := by
  rw [Calm, openSocket, static]
  exact nofun

theorem calm_step {token : String} (static : config.credentials = .token token) (calm : Calm client)
    (taken : step config client e = some client') : Calm client' := by
  unfold Calm at calm ⊢
  cases e with
  | connect | disconnect =>
      rw [← Option.some.inj taken]
      exact calm
  | subscribe channelId listener met =>
      rw [← Option.some.inj taken, subscribe]
      split
      · exact calm
      · rw [scheduler_take]
        exact calm
  | unsubscribe channelId listener =>
      rw [← Option.some.inj taken, unsubscribe]
      split
      · exact calm
      · split
        · rw [scheduler_take]
          exact calm
        · exact calm
  | publish channelId payload | unicast userId payload =>
      rw [← Option.some.inj taken, sendOrThrow, scheduler_take]
      exact calm
  | replay channelId sinceUnixSeconds =>
      rw [← Option.some.inj taken, sendOrThrow, scheduler_take]
      exact calm
  | handOver i =>
      obtain ⟨_, _, rfl⟩ := Option.map_eq_some_iff.mp taken
      exact calm
  | runQueued =>
      simp only [step] at taken
      split at taken
      · exact Option.some.inj taken ▸ calm_openSocket static _
      · cases taken
  | timer =>
      simp only [step] at taken
      split at taken
      · rw [← Option.some.inj taken]
        split
        · exact calm
        · exact calm_openSocket static _
      · cases taken
  | provided fresh =>
      simp only [step] at taken
      cases taken
  | create =>
      simp only [step] at taken
      split at taken
      · rw [← Option.some.inj taken]
        exact nofun
      · cases taken
  | heartbeat =>
      simp only [step] at taken
      split at taken
      · rw [← Option.some.inj taken]
        exact calm
      · cases taken
  | onOpen w | peerCloses w code reason =>
      obtain ⟨socket, _, taken⟩ := Option.bind_eq_some_iff.mp taken
      obtain ⟨_, same⟩ := Option.ite_none_right_eq_some.mp taken
      rw [← Option.some.inj same]
      exact calm
  | resubscribe w channelId =>
      obtain ⟨socket, _, taken⟩ := Option.bind_eq_some_iff.mp taken
      split at taken
      · obtain ⟨_, same⟩ := Option.ite_none_right_eq_some.mp taken
        rw [← Option.some.inj same]
        exact calm
      · cases taken
  | opened w =>
      obtain ⟨socket, _, taken⟩ := Option.bind_eq_some_iff.mp taken
      split at taken
      · obtain ⟨_, same⟩ := Option.ite_none_right_eq_some.mp taken
        rw [← Option.some.inj same]
        exact calm
      · cases taken
  | onClosed w =>
      obtain ⟨socket, _, taken⟩ := Option.bind_eq_some_iff.mp taken
      split at taken
      · obtain ⟨_, same⟩ := Option.ite_none_right_eq_some.mp taken
        rw [← Option.some.inj same]
        unfold onClosed
        rw [static]
        dsimp only
        split
        · exact calm
        · rw [scheduler_scheduleReconnect]
          exact calm
      · cases taken
  | onFailure w =>
      obtain ⟨socket, _, taken⟩ := Option.bind_eq_some_iff.mp taken
      obtain ⟨_, same⟩ := Option.ite_none_right_eq_some.mp taken
      rw [← Option.some.inj same, onFailure, scheduler_scheduleReconnect]
      exact calm

def Orderly (journal : List Entry) : Prop :=
  ∀ before entry after, journal = before ++ entry :: after → Permitted before entry

theorem halted_concat (journal : List Entry) (entry : Entry) : halted (journal ++ [entry]) =
    match entry with
    | .serverClosed _ code => halted journal || code = wsCloseCodeAuthFailed
    | .connectCalled => false
    | _ => halted journal := by
  rw [halted, List.foldl_append]
  rfl

theorem orderly_concat {journal : List Entry} {entry : Entry} :
    Orderly (journal ++ [entry]) ↔ Orderly journal ∧ Permitted journal entry := by
  constructor
  · intro all
    refine ⟨fun before e after split => ?_, all journal entry [] rfl⟩
    exact all before e (after ++ [entry]) (by rw [split, List.append_assoc, List.cons_append])
  · rintro ⟨was, last⟩ before e after split
    rcases List.eq_nil_or_concat after with rfl | ⟨rest, x, rfl⟩
    · obtain ⟨rfl, same⟩ := List.append_inj' split rfl
      exact (List.cons.inj same).1 ▸ last
    · rw [List.concat_eq_append, ← List.cons_append, ← List.append_assoc] at split
      exact was before e rest (List.append_inj' split rfl).1

structure Sound (client : RealtimeClient) : Prop where
  calm : Calm client
  unclosed : ∀ w closed, told client w = some (none, closed) → closed = false
  closes : ∀ w code, .serverClosed w code ∈ client.journal ↔
    ∃ reason closed, told client w = some (some (code, reason), closed)
  emits : ∀ w code reason, .emitted (some w) (.authFailed code reason) ∈ client.journal ↔
    code = wsCloseCodeAuthFailed ∧ told client w = some (some (code, reason), true)

theorem sound_start : Sound {} := by
  have empty : ∀ w, told {} w = none := fun w => by simp [told]
  refine ⟨nofun, fun w closed found => ?_, fun w code => ?_, fun w code reason => ?_⟩
  · rw [empty] at found
    cases found
  · simp [empty]
  · simp [empty]

theorem orderly_start : Orderly ({} : RealtimeClient).journal := by
  intro before entry after split
  simp at split

def Neutral (entry : Entry) : Prop :=
  (∀ w code, entry ≠ .serverClosed w code) ∧ ∀ w code reason, entry ≠ .emitted (some w) (.authFailed code reason)

theorem neutral_reconnects (entry : Entry) (member : entry ∈ reconnects config client) : Neutral entry := by
  unfold reconnects at member
  split at member
  · cases member
  · rw [List.mem_singleton.mp member]
    exact ⟨nofun, nofun⟩

theorem sound_same (sound : Sound client) (calm : Calm client') {extra : List Entry} (same : told client' = told client)
    (journal : client'.journal = client.journal ++ extra) (neutral : ∀ entry ∈ extra, Neutral entry) : Sound client' where
  calm := calm
  unclosed w closed found := sound.unclosed w closed (same ▸ found)
  closes w code := by
    rw [same, journal, List.mem_append, ← sound.closes w code]
    exact or_iff_left fun new => (neutral _ new).1 w code rfl
  emits w code reason := by
    rw [same, journal, List.mem_append, ← sound.emits w code reason]
    exact or_iff_left fun new => (neutral _ new).2 w code reason rfl

theorem sound_of_notes (sound : Sound client) (calm : Calm client') (notes : Notes config client client' e) :
    Sound client' := by
  cases notes with
  | quiet _ same journal =>
      exact sound_same sound calm same (journal.trans (List.append_nil _).symm) nofun
  | called same journal =>
      refine sound_same sound calm same journal fun entry member => ?_
      exact List.mem_singleton.mp member ▸ ⟨nofun, nofun⟩
  | greeted w same journal =>
      refine sound_same sound calm same journal fun entry member => ?_
      rcases List.mem_cons.mp member with rfl | last
      · exact ⟨nofun, nofun⟩
      · exact List.mem_singleton.mp last ▸ ⟨nofun, nofun⟩
  | failed w same journal =>
      refine sound_same sound calm same journal fun entry member => ?_
      rcases List.mem_cons.mp member with rfl | scheduled
      · exact ⟨nofun, nofun⟩
      · exact neutral_reconnects entry scheduled
  | attempted w same fresh journal =>
      have old : ∀ v closes closed, told client' v = some (some closes, closed) ↔
          told client v = some (some closes, closed) := by
        intro v closes closed
        rw [same, Function.update_apply]
        by_cases here : v = w
        · rw [if_pos here, here, fresh]
          exact iff_of_false (by simp) nofun
        · rw [if_neg here]
      refine ⟨calm, fun v closed found => ?_, fun v code => ?_, fun v code reason => ?_⟩
      · rw [same, Function.update_apply] at found
        split at found
        · exact ((Prod.mk.inj (Option.some.inj found)).2).symm
        · exact sound.unclosed v closed found
      · simp only [journal, List.mem_append, List.mem_singleton, reduceCtorEq, or_false, old, sound.closes v code]
      · simp only [journal, List.mem_append, List.mem_singleton, reduceCtorEq, or_false, old,
          sound.emits v code reason]
  | closes w code reason closed before same journal =>
      obtain rfl := sound.unclosed w closed before
      have here : told client' w = some (some (code, reason), false) := by rw [same, Function.update_self]
      have there : ∀ v, v ≠ w → told client' v = told client v :=
        fun v apart => by rw [same, Function.update_of_ne apart]
      refine ⟨calm, fun v closed found => ?_, fun v c => ?_, fun v c r => ?_⟩
      · by_cases own : v = w
        · rw [own, here] at found
          cases found
        · exact sound.unclosed v closed (there v own ▸ found)
      · rw [journal, List.mem_append, List.mem_singleton]
        by_cases own : v = w
        · subst own
          have none : .serverClosed v c ∉ client.journal := fun old => by
            obtain ⟨_, _, was⟩ := (sound.closes v c).mp old
            rw [before] at was
            cases was
          rw [here]
          constructor
          · intro new
            obtain ⟨_, rfl⟩ := Entry.serverClosed.inj (new.resolve_left none)
            exact ⟨reason, false, rfl⟩
          · rintro ⟨_, _, told⟩
            cases told
            exact Or.inr rfl
        · rw [there v own, ← sound.closes v c]
          exact or_iff_left fun new => own (Entry.serverClosed.inj new).1
      · rw [journal, List.mem_append, List.mem_singleton, or_iff_left nofun, sound.emits v c r]
        by_cases own : v = w
        · subst own
          rw [here, before]
          exact iff_of_false (fun both => nomatch both.2) fun both => nomatch both.2
        · rw [there v own]
  | ended w code reason before same journal =>
      have here : told client' w = some (some (code, reason), true) := by rw [same, Function.update_self]
      have there : ∀ v, v ≠ w → told client' v = told client v :=
        fun v apart => by rw [same, Function.update_of_ne apart]
      have extra : ∀ entry, entry ∈ client'.journal ↔ entry ∈ client.journal ∨
          entry = .emitted (some w) (.closed code reason) ∨
            entry ∈ if code = wsCloseCodeAuthFailed then [.emitted (some w) (.authFailed code reason)]
              else reconnects config client := fun entry => by
        rw [journal, List.mem_append, List.mem_cons]
      have silent : ∀ entry, entry ∈ reconnects config client → entry = .scheduled := by
        intro entry member
        unfold reconnects at member
        split at member
        · cases member
        · exact List.mem_singleton.mp member
      refine ⟨calm, fun v closed found => ?_, fun v c => ?_, fun v c r => ?_⟩
      · by_cases own : v = w
        · rw [own, here] at found
          cases found
        · exact sound.unclosed v closed (there v own ▸ found)
      · have nothing : .serverClosed v c ∈ client'.journal ↔ .serverClosed v c ∈ client.journal := by
          rw [extra]
          refine or_iff_left ?_
          rintro (closed | last)
          · cases closed
          · split at last
            · cases List.mem_singleton.mp last
            · cases silent _ last
        rw [nothing, sound.closes v c]
        by_cases own : v = w
        · subst own
          rw [here, before]
          constructor
          · rintro ⟨_, _, told⟩
            cases told
            exact ⟨reason, true, rfl⟩
          · rintro ⟨_, _, told⟩
            cases told
            exact ⟨reason, false, rfl⟩
        · rw [there v own]
      · rw [extra, sound.emits v c r]
        by_cases own : v = w
        · subst own
          rw [here, before]
          constructor
          · rintro (⟨_, told⟩ | closed | last)
            · cases told
            · cases closed
            · split at last
              · rename_i failed
                cases List.mem_singleton.mp last
                exact ⟨failed, by rw [failed]⟩
              · cases silent _ last
          · rintro ⟨rfl, told⟩
            cases told
            exact Or.inr (Or.inr (by simp))
        · rw [there v own]
          refine or_iff_left ?_
          rintro (closed | last)
          · cases closed
          · split at last
            · exact own (Option.some.inj (Entry.emitted.inj (List.mem_singleton.mp last)).1)
            · cases silent _ last

theorem orderly_reconnects {journal : List Entry} (orderly : Orderly journal) :
    Orderly (journal ++ reconnects config client) ↔
      (halted journal = true → client.closedByUser = true ∨ config.reconnect = false) := by
  unfold reconnects
  split
  · rename_i stays
    rw [List.append_nil]
    exact iff_of_true orderly fun _ => by simpa using stays
  · rename_i goes
    rw [orderly_concat, and_iff_right orderly, Permitted, ← Bool.not_eq_true]
    have wants : ¬(client.closedByUser = true ∨ config.reconnect = false) := by simpa using goes
    exact ⟨fun calm halted => absurd halted calm, fun stays halted => wants (stays halted)⟩

theorem socket_of_told {peer : Option (Nat × String)} {closed : Bool} (found : told client w = some (peer, closed)) :
    ∃ socket, client.sockets[w]? = some socket ∧ socket.peerClosed = peer ∧ socket.closed = closed := by
  obtain ⟨socket, there, same⟩ := Option.map_eq_some_iff.mp found
  exact ⟨socket, there, (Prod.mk.inj same).1, (Prod.mk.inj same).2⟩

theorem heeds_iff (sound : Sound client) (orderly : Orderly client.journal) (notes : Notes config client client' e) :
    Heeds config client e ↔ Orderly client'.journal := by
  cases notes with
  | quiet plain same journal =>
      rw [journal]
      refine iff_of_true ?_ orderly
      cases e with
      | create | onClosed | onFailure => exact absurd plain id
      | _ => trivial
  | called same journal =>
      rw [journal]
      exact iff_of_true trivial (orderly_concat.mpr ⟨orderly, trivial⟩)
  | greeted w same journal =>
      rw [journal, List.append_cons]
      refine iff_of_true trivial (orderly_concat.mpr ⟨?_, trivial⟩)
      exact orderly_concat.mpr ⟨orderly, trivial⟩
  | closes w code reason closed before same journal =>
      rw [journal]
      exact iff_of_true trivial (orderly_concat.mpr ⟨orderly, trivial⟩)
  | attempted w same fresh journal =>
      rw [journal, orderly_concat, and_iff_right orderly]
      constructor
      · intro heeds v closed
        obtain ⟨reason, reported, found⟩ := (sound.closes v _).mp closed
        obtain ⟨socket, there, peer, rfl⟩ := socket_of_told found
        rw [heeds v socket reason there peer] at found
        exact ⟨reason, (sound.emits v _ reason).mpr ⟨rfl, found⟩⟩
      · intro permitted v socket reason there peer
        have found := told_eq there
        rw [peer] at found
        obtain ⟨reason', emitted⟩ := permitted v ((sound.closes v _).mpr ⟨reason, socket.closed, found⟩)
        have reported := ((sound.emits v _ reason').mp emitted).2
        rw [found] at reported
        exact (Prod.mk.inj (Option.some.inj reported)).2
  | failed w same journal =>
      have told : Orderly (client.journal ++ [.emitted (some w) .error]) :=
        orderly_concat.mpr ⟨orderly, trivial⟩
      rw [journal, List.append_cons, orderly_reconnects told, halted_concat]
      exact Iff.rfl
  | ended w code reason before same journal =>
      have told : Orderly (client.journal ++ [.emitted (some w) (.closed code reason)]) :=
        orderly_concat.mpr ⟨orderly, trivial⟩
      obtain ⟨socket, there, peer, _⟩ := socket_of_told before
      rw [journal, List.append_cons]
      by_cases rejected : code = wsCloseCodeAuthFailed
      · rw [if_pos rejected]
        refine iff_of_true ?_ (orderly_concat.mpr ⟨told, trivial⟩)
        intro other code' reason' found peer' apart
        obtain rfl := Option.some.inj (there.symm.trans found)
        rw [peer] at peer'
        cases peer'
        exact absurd rejected apart
      · rw [if_neg rejected, orderly_reconnects told, halted_concat]
        constructor
        · exact fun heeds => heeds socket code reason there peer rejected
        · exact fun calm _ _ _ _ _ _ => calm

end

/-- Without a provider, in every run: a rejected AUTH is told before the next attempt and nothing is scheduled
after it, in every state, exactly while the steps heed. -/
theorem stops_iff (config : RealtimeClientConfig) (token : String) (static : config.credentials = .token token)
    (es : List Event) (client : RealtimeClient) (reached : (step config).run {} es = some client) :
    (step config).Meets (Heeds config) {} es ↔ (step config).Throughout Stops {} es := by
  refine Step.meets_iff_throughout (fun c e c' sound taken => ?_) (fun c e c' sound stops taken => ?_) reached
    sound_start orderly_start
  · exact sound_of_notes sound (calm_step static sound.calm taken) (notes_step static sound.calm taken)
  · exact heeds_iff sound stops (notes_step static sound.calm taken)

def sample : RealtimeClientConfig := ⟨List.Vector.replicate 16 0, .token "t", true⟩

def rejected : List Event :=
  [.connect, .runQueued, .create, .onOpen 0, .opened 0, .peerCloses 0 4001 "authentication failed", .onFailure 0]

theorem rejected_reconnects : ∃ client, (step sample).run {} rejected = some client ∧ ¬Stops client := by
  refine ⟨_, rfl, fun stops => ?_⟩
  have permitted := stops [.connectCalled, .attempt 0, .emitted (some 0) .opened, .emitted (some 0) .authenticated,
    .serverClosed 0 4001, .emitted (some 0) .error] .scheduled [] rfl
  cases permitted

/-- The user disconnects while the server closes, so that the end comes as `onClosed`. -/
def closedByBoth : List Event :=
  [.connect, .runQueued, .create, .onOpen 0, .opened 0, .peerCloses 0 4001 "authentication failed", .disconnect,
    .onClosed 0]

theorem stops_iff_closedByBoth : (step sample).Throughout Stops {} closedByBoth := by
  refine (stops_iff sample "t" rfl closedByBoth _ rfl).mp ?_
  refine Step.meets_cons trivial rfl (Step.meets_cons trivial rfl (Step.meets_cons ?_ rfl (Step.meets_cons trivial rfl
    (Step.meets_cons trivial rfl (Step.meets_cons trivial rfl (Step.meets_cons trivial rfl
      (Step.meets_cons ?_ rfl trivial)))))))
  · intro w socket reason there
    cases there
  · intro socket code reason there peer apart
    cases there
    cases peer
    exact absurd rfl apart

end RealtimePlatform.Proof.AndroidStops
