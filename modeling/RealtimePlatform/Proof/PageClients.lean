import RealtimePlatform.Proof.SizeGuard
import RealtimePlatform.Sdk.Session
import RealtimePlatform.Sdk.WordPressSession
import RealtimePlatform.Library.Indexed
import RealtimePlatform.Library.Transition
import Mathlib.Data.Finset.Image

namespace RealtimePlatform.Proof.PageClients
open Library Utf16 Sdk Sdk.WordPress Sdk.WordPress.PageClient
open Backend (Frame lenChannel lenPayload)

def joinedFrom (keys : Finset Utf16) (frames : List ScriptFields) : Finset Utf16 :=
  frames.foldl (fun keys frame => match frame.opcode with
    | .subscribe => insert frame.channelId keys
    | .unsub => keys.erase frame.channelId
    | _ => keys) keys

def joined (frames : List ScriptFields) : Finset Utf16 := joinedFrom ∅ frames

def carriesData (frame : ScriptFields) : Bool := frame.opcode = .publish || frame.opcode = .replay

variable {η : Type*} (config : ClientConfig)

/-- The tenant id is a UUID, so that no frame fails to encode. -/
def Sendable : Prop := uuidRe (scalars config.tenantId) = true

def authFrame : ScriptFields := fields config (.auth, [], config.token)

def greeting (client : PageClient η) : List ScriptFields :=
  (joining config client).map (fields config) ++ client.pendingSends.map (fields config)

structure Base (client : PageClient η) : Prop where
  first : ∀ socket ∈ client.sockets, socket.frames = [] ∨ ∃ rest, socket.frames = authFrame config :: rest
  fresh : ∀ socket ∈ client.sockets, socket.readyState = .connecting → socket.frames = []
  silent : client.closedByUser = true → client.ws = none
  given : ∀ socket ∈ client.sockets, ∀ frame ∈ socket.frames, frame ∈ client.written
  encodes : ∀ frame ∈ client.written, frame.tenantId = config.tenantId ∧ Sendable config
  queued : ∀ send ∈ client.pendingSends, carriesData (fields config send) = true

structure Kept (client : PageClient η) : Prop extends Base config client where
  order : client.written.filter carriesData ++ client.pendingSends.map (fields config) =
    client.calls.map (fields config)
  current : Sendable config → ∀ w socket, client.ws = some w → client.sockets[w]? = some socket →
    socket.readyState = .opened → client.pendingSends = [] ∧ (∃ rest, socket.frames = authFrame config :: rest) ∧
      ∀ key, key ∈ joined socket.frames ↔ key ∈ client.subscriptions.names

section
variable {config} {client : PageClient η} {frames : List ScriptFields} {socket : PageSocket} {w : Nat}

theorem isOpen_iff : client.isOpen = true ↔
    ∃ w socket, client.ws = some w ∧ client.sockets[w]? = some socket ∧ socket.readyState = .opened := by
  unfold isOpen
  cases client.ws with
  | none => simp
  | some w => cases found : client.sockets[w]? <;> simp [found]

/-- Nothing can be sent. -/
def Mute (config : ClientConfig) (client : PageClient η) : Prop := ¬ (client.isOpen = true ∧ Sendable config)

theorem kept_of_mute (base : Base config client)
    (order : client.written.filter carriesData ++ client.pendingSends.map (fields config) =
      client.calls.map (fields config)) (mute : Mute config client) : Kept config client := by
  refine { base with order, current := ?_ }
  intro sendable w socket ws found opened
  exact absurd ⟨isOpen_iff.mpr ⟨w, socket, ws, found, opened⟩, sendable⟩ mute

theorem mute_of_closed (closed : client.isOpen = false) : Mute config client := by
  rintro ⟨isOpen, _⟩
  rw [closed] at isOpen
  cases isOpen

theorem mute_of_no_socket (ws : client.ws = none) : Mute config client :=
  mute_of_closed (by rw [isOpen, ws]; rfl)

theorem mem_modify {f : PageSocket → PageSocket} {other : PageSocket} (member : other ∈ client.sockets.modify w f) :
    other ∈ client.sockets ∨ ∃ socket, client.sockets[w]? = some socket ∧ other = f socket := by
  obtain ⟨j, there⟩ := List.mem_iff_getElem?.mp member
  obtain ⟨socket, found, ⟨rfl, rfl⟩ | ⟨_, rfl⟩⟩ := modify_cases there
  · exact Or.inr ⟨socket, found, rfl⟩
  · exact Or.inl (List.mem_of_getElem? found)

theorem write_of_ws (ws : client.ws = some w) (frames : List ScriptFields) : write frames client = { client with
    sockets := client.sockets.modify w fun socket => { socket with frames := socket.frames ++ frames }
    written := client.written ++ frames } := by
  rw [write, ws]

theorem base_write (base : Base config client) (ws : client.ws = some w) (found : client.sockets[w]? = some socket)
    (opened : socket.readyState = .opened) (begins : ∃ rest, socket.frames ++ frames = authFrame config :: rest)
    (encodes : ∀ frame ∈ frames, frame.tenantId = config.tenantId ∧ Sendable config) :
    Base config (write frames client) := by
  rw [write_of_ws ws]
  constructor
  · intro other member
    rcases mem_modify member with old | ⟨there, same, rfl⟩
    · exact base.first other old
    · rw [found, Option.some.injEq] at same
      exact Or.inr (same ▸ begins)
  · intro other member connecting
    rcases mem_modify member with old | ⟨there, same, rfl⟩
    · exact base.fresh other old connecting
    · rw [found, Option.some.injEq] at same
      rw [same] at opened
      rw [opened] at connecting
      cases connecting
  · exact base.silent
  · intro other member frame inside
    rcases mem_modify member with old | ⟨there, same, rfl⟩
    · exact List.mem_append_left _ (base.given other old frame inside)
    · rcases List.mem_append.mp inside with old | new
      · exact List.mem_append_left _ (base.given there (List.mem_of_getElem? same) frame old)
      · exact List.mem_append_right _ new
  · intro frame member
    exact (List.mem_append.mp member).elim (base.encodes frame) (encodes frame)
  · exact base.queued

theorem kept_write (base : Base config client) (ws : client.ws = some w) (found : client.sockets[w]? = some socket)
    (opened : socket.readyState = .opened) (begins : ∃ rest, socket.frames ++ frames = authFrame config :: rest)
    (encodes : ∀ frame ∈ frames, frame.tenantId = config.tenantId ∧ Sendable config)
    (order : (client.written ++ frames).filter carriesData = client.calls.map (fields config))
    (empty : client.pendingSends = [])
    (joins : ∀ key, key ∈ joined (socket.frames ++ frames) ↔ key ∈ client.subscriptions.names) :
    Kept config (write frames client) := by
  refine { base_write base ws found opened begins encodes with order := ?_, current := ?_ }
  · rw [write_of_ws ws]
    show (client.written ++ frames).filter carriesData ++ client.pendingSends.map (fields config) = _
    rw [empty, List.map_nil, List.append_nil]
    exact order
  · rw [write_of_ws ws]
    intro _ v other ws' found' _
    rw [ws, Option.some.injEq] at ws'
    subst ws'
    rw [List.getElem?_modify_eq, found] at found'
    cases found'
    exact ⟨empty, begins, joins⟩

theorem joined_append (before after : List ScriptFields) :
    joined (before ++ after) = joinedFrom (joined before) after := List.foldl_append

theorem Kept.write_open (kept : Kept config client) (able : client.isOpen = true ∧ Sendable config)
    {subscriptions : Properties η} {calls : List PendingSend}
    (encodes : ∀ frame ∈ frames, frame.tenantId = config.tenantId ∧ Sendable config)
    (data : client.calls.map (fields config) ++ frames.filter carriesData = calls.map (fields config))
    (joins : ∀ keys : Finset Utf16, (∀ key, key ∈ keys ↔ key ∈ client.subscriptions.names) →
      ∀ key, key ∈ joinedFrom keys frames ↔ key ∈ subscriptions.names) :
    Kept config (write frames { client with subscriptions := subscriptions, calls := calls }) := by
  obtain ⟨w, socket, ws, found, opened⟩ := isOpen_iff.mp able.1
  obtain ⟨empty, ⟨rest, first⟩, joins'⟩ := kept.current able.2 w socket ws found opened
  have order := kept.order
  rw [empty, List.map_nil, List.append_nil] at order
  have base : Base config { client with subscriptions := subscriptions, calls := calls } :=
    ⟨kept.first, kept.fresh, kept.silent, kept.given, kept.encodes, kept.queued⟩
  apply kept_write base ws found opened ⟨rest ++ frames, by rw [first]; rfl⟩ encodes _ empty
  · rw [joined_append]
    exact joins (joined socket.frames) joins'
  · rw [List.filter_append, order]
    exact data

theorem kept_openSocket (kept : Kept config client) (wanted : client.closedByUser = false) :
    Kept config (openSocket client) := by
  apply kept_of_mute
  · constructor
    · intro socket member
      rcases List.mem_append.mp member with old | new
      · exact kept.first socket old
      · rw [List.mem_singleton.mp new]
        exact Or.inl rfl
    · intro socket member connecting
      rcases List.mem_append.mp member with old | new
      · exact kept.fresh socket old connecting
      · rw [List.mem_singleton.mp new]
    · intro closed
      rw [show client.closedByUser = true from closed] at wanted
      cases wanted
    · intro socket member frame inside
      rcases List.mem_append.mp member with old | new
      · exact kept.given socket old frame inside
      · rw [List.mem_singleton.mp new] at inside
        cases inside
    · exact kept.encodes
    · exact kept.queued
  · exact kept.order
  · exact mute_of_closed (by simp [openSocket, isOpen])

theorem mem_leave {other : PageSocket} (member : other ∈ client.sockets.modify w leave) :
    ∃ socket ∈ client.sockets, other.frames = socket.frames ∧
      (other.readyState = .connecting → socket.readyState = .connecting) := by
  rcases mem_modify member with old | ⟨socket, found, rfl⟩
  · exact ⟨other, old, rfl, id⟩
  · refine ⟨socket, List.mem_of_getElem? found, ?_⟩
    unfold leave
    split
    · exact ⟨rfl, id⟩
    · exact ⟨rfl, fun closing => by cases closing⟩

theorem base_of_sockets {sockets : List PageSocket} (base : Base config client)
    (same : ∀ other ∈ sockets, ∃ socket ∈ client.sockets, other.frames = socket.frames ∧
      (other.readyState = .connecting → socket.readyState = .connecting)) :
    Base config { client with sockets := sockets } := by
  constructor
  · intro other member
    obtain ⟨socket, there, frames, _⟩ := same other member
    rw [frames]
    exact base.first socket there
  · intro other member connecting
    obtain ⟨socket, there, frames, state⟩ := same other member
    rw [frames]
    exact base.fresh socket there (state connecting)
  · exact base.silent
  · intro other member frame inside
    obtain ⟨socket, there, frames, _⟩ := same other member
    exact base.given socket there frame (frames ▸ inside)
  · exact base.encodes
  · exact base.queued

theorem mem_setReadyState {readyState : ReadyState} (started : readyState ≠ .connecting) :
    ∀ other ∈ client.sockets.modify w (fun socket => { socket with readyState }), ∃ socket ∈ client.sockets,
      other.frames = socket.frames ∧ (other.readyState = .connecting → socket.readyState = .connecting) := by
  intro other member
  rcases mem_modify member with old | ⟨socket, found, rfl⟩
  · exact ⟨other, old, rfl, id⟩
  · exact ⟨socket, List.mem_of_getElem? found, rfl, fun connecting => absurd connecting started⟩

theorem kept_disconnect (kept : Kept config client) : Kept config client.disconnect := by
  have sockets : ∀ other ∈ client.disconnect.sockets, ∃ socket ∈ client.sockets, other.frames = socket.frames ∧
      (other.readyState = .connecting → socket.readyState = .connecting) := by
    intro other member
    simp only [disconnect] at member
    cases ws : client.ws with
    | none =>
        rw [ws] at member
        exact ⟨other, member, rfl, id⟩
    | some w =>
        rw [ws] at member
        exact mem_leave member
  have base := base_of_sockets kept.toBase sockets
  apply kept_of_mute
  · exact ⟨base.first, base.fresh, fun _ => rfl, base.given, base.encodes, base.queued⟩
  · exact kept.order
  · exact mute_of_no_socket rfl

theorem kept_setReadyState (kept : Kept config client) {readyState : ReadyState} (started : readyState ≠ .connecting)
    (shut : readyState ≠ .opened) : Kept config (setReadyState w readyState client) := by
  refine { base_of_sockets kept.toBase (mem_setReadyState started) with order := kept.order, current := ?_ }
  intro sendable v other ws found opened
  obtain ⟨socket, there, either⟩ := modify_cases found
  rcases either with ⟨_, rfl⟩ | ⟨_, rfl⟩
  · exact absurd opened shut
  · exact kept.current sendable v _ ws there opened

theorem send_eq (config : ClientConfig) (call : PendingSend) (client : PageClient η) [Decidable (Sendable config)] :
    send config call client =
      if client.isOpen = true ∧ Sendable config then some (write [fields config call] client) else none := by
  unfold send
  by_cases isOpen : client.isOpen = true
  · rw [if_pos isOpen]
    by_cases sendable : Sendable config
    · obtain ⟨bytes, encoded⟩ := (SizeGuard.encodeFrame_ok_iff (fields config call)).mpr sendable
      rw [encoded, if_pos ⟨isOpen, sendable⟩]
    · rw [if_neg fun able => sendable able.2]
      cases encoded : WordPress.encodeFrame (fields config call) with
      | error => rfl
      | ok bytes => exact absurd ((SizeGuard.encodeFrame_ok_iff (fields config call)).mp ⟨bytes, encoded⟩) sendable
  · rw [if_neg isOpen, if_neg fun able => isOpen able.1]

theorem send_of_able (able : client.isOpen = true ∧ Sendable config) (call : PendingSend) :
    send config call client = some (write [fields config call] client) := by
  classical
  rw [send_eq, if_pos able]

theorem send_of_mute (mute : Mute config client) (call : PendingSend) : send config call client = none := by
  classical
  rw [send_eq, if_neg mute]

theorem send_changed (able : client.isOpen = true ∧ Sendable config) (call : PendingSend)
    (subscriptions : Properties η) (calls : List PendingSend) :
    send config call { client with subscriptions := subscriptions, calls := calls } =
      some (write [fields config call] { client with subscriptions := subscriptions, calls := calls }) :=
  send_of_able (show PageClient.isOpen { client with subscriptions := subscriptions, calls := calls } = true ∧ _
    from able) call

theorem send_changed_of_mute (mute : Mute config client) (call : PendingSend) (subscriptions : Properties η)
    (calls : List PendingSend) :
    send config call { client with subscriptions := subscriptions, calls := calls } = none :=
  send_of_mute (show Mute config { client with subscriptions := subscriptions, calls := calls } from mute) call

theorem write_append (before after : List ScriptFields) (client : PageClient η) :
    write after (write before client) = write (before ++ after) client := by
  cases ws : client.ws with
  | none => simp [write, ws]
  | some w => simp [write, ws, List.modify_modify_eq, Function.comp_def]

theorem isOpen_write (frames : List ScriptFields) (client : PageClient η) :
    (write frames client).isOpen = client.isOpen := by
  cases ws : client.ws with
  | none => simp [write, ws]
  | some w =>
      simp only [write, isOpen, ws, Option.bind_some, List.getElem?_modify_eq]
      cases client.sockets[w]? <;> rfl

theorem write_nil (client : PageClient η) : write [] client = client := by
  cases ws : client.ws with
  | none => simp [write, ws]
  | some w =>
      have same : client.sockets.modify w (fun socket => { socket with frames := socket.frames }) =
          client.sockets := List.modify_id w client.sockets
      rw [write, ws]
      simp only [List.append_nil, same, ← ws]

theorem sendAll_of_able (able : client.isOpen = true ∧ Sendable config) (calls : List PendingSend) :
    sendAll config calls client = (write (calls.map (fields config)) client, true) := by
  induction calls generalizing client with
  | nil => rw [sendAll, List.map_nil, write_nil]
  | cons call calls ih =>
      have still : (write [fields config call] client).isOpen = true ∧ Sendable config :=
        ⟨(isOpen_write _ client).trans able.1, able.2⟩
      simp only [sendAll, send_of_able able, ih still, write_append]
      rfl

theorem sendAll_of_mute (mute : Mute config client) (call : PendingSend) (calls : List PendingSend) :
    sendAll config (call :: calls) client = (client, false) := by
  simp only [sendAll, send_of_mute mute]

theorem kept_sendOrQueue (kept : Kept config client) {call : PendingSend}
    (data : call.1 = .publish ∨ call.1 = .replay) : Kept config (sendOrQueue config call client) := by
  have carries : carriesData (fields config call) = true := by
    rcases data with publish | replay
    · simp [carriesData, fields, publish]
    · simp [carriesData, fields, replay]
  unfold sendOrQueue
  simp only
  split
  · rename_i isOpen
    by_cases sendable : Sendable config
    · rw [send_changed ⟨isOpen, sendable⟩, Option.getD_some]
      apply kept.write_open ⟨isOpen, sendable⟩
      · intro frame member
        rw [List.mem_singleton.mp member]
        exact ⟨rfl, sendable⟩
      · simp [carries]
      · intro keys same key
        rcases data with publish | replay
        · simp [joinedFrom, fields, publish, same]
        · simp [joinedFrom, fields, replay, same]
    · rw [send_changed_of_mute fun able => sendable able.2, Option.getD_none]
      exact kept
  · rename_i closed
    apply kept_of_mute
    · refine ⟨kept.first, kept.fresh, kept.silent, kept.given, kept.encodes, ?_⟩
      intro other member
      rcases List.mem_append.mp member with old | new
      · exact kept.queued other old
      · rw [List.mem_singleton.mp new]
        exact carries
    · rw [List.map_append, List.map_append, ← List.append_assoc, kept.order]
    · exact mute_of_closed (eq_false_of_ne_true closed)

theorem kept_beat (kept : Kept config client) : Kept config (beat config client) := by
  unfold beat
  split
  · rename_i isOpen
    by_cases sendable : Sendable config
    · rw [send_of_able ⟨isOpen, sendable⟩, Option.getD_some]
      apply kept.write_open ⟨isOpen, sendable⟩
      · intro frame member
        rw [List.mem_singleton.mp member]
        exact ⟨rfl, sendable⟩
      · simp [carriesData, fields]
      · intro keys same key
        simp [joinedFrom, fields, same]
    · rw [send_of_mute fun able => sendable able.2, Option.getD_none]
      exact kept
  · exact kept

theorem kept_entered (kept : Kept config client) (mute : Mute config client) (subscriptions : Properties η) :
    Kept config { client with subscriptions := subscriptions } :=
  kept_of_mute ⟨kept.first, kept.fresh, kept.silent, kept.given, kept.encodes, kept.queued⟩ kept.order mute

theorem kept_handlers (kept : Kept config client) {subscriptions : Properties η}
    (same : ∀ key, key ∈ subscriptions.names ↔ key ∈ client.subscriptions.names) :
    Kept config { client with subscriptions := subscriptions } := by
  refine { (⟨kept.first, kept.fresh, kept.silent, kept.given, kept.encodes, kept.queued⟩ : Base config _) with
    order := kept.order, current := ?_ }
  intro sendable w socket ws found opened
  obtain ⟨empty, first, joins⟩ := kept.current sendable w socket ws found opened
  exact ⟨empty, first, fun key => (joins key).trans (same key).symm⟩

theorem kept_subscribe (kept : Kept config client) (channelId : Utf16) (handler : η) :
    Kept config (subscribe config channelId handler client) := by
  unfold subscribe
  split
  · exact kept
  · simp only
    by_cases sendable : Sendable config
    · split
      · rename_i added
        rw [send_changed ⟨added.2, sendable⟩, Option.getD_some]
        apply kept.write_open ⟨added.2, sendable⟩
        · intro frame member
          rw [List.mem_singleton.mp member]
          exact ⟨rfl, sendable⟩
        · simp [carriesData, fields]
        · intro keys same key
          simp [joinedFrom, fields, same, Properties.mem_names_push]
      · rename_i quiet
        by_cases isOpen : client.isOpen = true
        · apply kept_handlers kept
          intro key
          have there : channelId ∈ client.subscriptions.names := by
            by_contra absent
            exact quiet ⟨absent, isOpen⟩
          rw [Properties.mem_names_push]
          constructor
          · intro either
            exact either.elim (fun equal => equal ▸ there) id
          · exact Or.inr
        · exact kept_entered kept (mute_of_closed (eq_false_of_ne_true isOpen)) _
    · have mute : Mute config client := fun able => sendable able.2
      have entered := kept_entered kept mute (client.subscriptions.push channelId handler)
      split
      · rw [send_changed_of_mute fun able => sendable able.2, Option.getD_none]
        exact entered
      · exact entered

theorem kept_unsubscribe [DecidableEq η] (kept : Kept config client) (channelId : Utf16) (handler : η) :
    Kept config (unsubscribe config channelId handler client) := by
  unfold unsubscribe
  split
  · exact kept
  · split
    · simp only
      split
      · rename_i isOpen
        by_cases sendable : Sendable config
        · rw [send_changed ⟨isOpen, sendable⟩, Option.getD_some]
          apply kept.write_open ⟨isOpen, sendable⟩
          · intro frame member
            rw [List.mem_singleton.mp member]
            exact ⟨rfl, sendable⟩
          · simp [carriesData, fields]
          · intro keys same key
            simp [joinedFrom, fields, same, Properties.mem_names_delete, and_comm]
        · rw [send_changed_of_mute fun able => sendable able.2, Option.getD_none]
          exact kept_entered kept (fun able => sendable able.2) _
      · rename_i closed
        exact kept_entered kept (mute_of_closed (eq_false_of_ne_true closed)) _
    · apply kept_handlers kept
      intro key
      rw [Properties.names_splice]

theorem joinedFrom_subscribes (keys : Finset Utf16) (names : List Utf16) (key : Utf16) :
    key ∈ joinedFrom keys (names.map fun name => fields config (.subscribe, name, [])) ↔ key ∈ keys ∨ key ∈ names := by
  induction names generalizing keys with
  | nil => simp [joinedFrom]
  | cons name names ih =>
      have step : joinedFrom keys ((name :: names).map fun name => fields config (.subscribe, name, [])) =
          joinedFrom (insert name keys) (names.map fun name => fields config (.subscribe, name, [])) := rfl
      rw [step, ih, Finset.mem_insert, List.mem_cons]
      tauto

theorem joinedFrom_data (keys : Finset Utf16) {frames : List ScriptFields} (data : ∀ frame ∈ frames, carriesData frame = true) :
    joinedFrom keys frames = keys := by
  induction frames with
  | nil => rfl
  | cons frame frames ih =>
      rw [List.forall_mem_cons] at data
      have carried := data.1
      have rest := ih data.2
      have step : joinedFrom keys (frame :: frames) = joinedFrom keys frames := by
        unfold joinedFrom
        rw [List.foldl_cons]
        congr 1
        cases opcode : frame.opcode <;> simp_all [carriesData]
      rw [step, rest]

theorem filter_greeting (queued : ∀ send ∈ client.pendingSends, carriesData (fields config send) = true) :
    (greeting config client).filter carriesData = client.pendingSends.map (fields config) := by
  have names : ((joining config client).map (fields config)).filter carriesData = [] := by
    rw [List.filter_eq_nil_iff]
    intro frame member
    simp only [joining, List.map_cons, List.map_map, List.mem_cons, List.mem_map] at member
    rcases member with rfl | ⟨key, _, rfl⟩
    · simp [carriesData, fields]
    · simp [carriesData, fields]
  have sends : (client.pendingSends.map (fields config)).filter carriesData = client.pendingSends.map (fields config) := by
    rw [List.filter_eq_self]
    intro frame member
    obtain ⟨send, there, rfl⟩ := List.mem_map.mp member
    exact queued send there
  rw [greeting, List.filter_append, names, sends, List.nil_append]

theorem joinedFrom_greeting (queued : ∀ send ∈ client.pendingSends, carriesData (fields config send) = true)
    (keys : Finset Utf16) (key : Utf16) :
    key ∈ joinedFrom keys (greeting config client) ↔ key ∈ keys ∨ key ∈ client.subscriptions.names := by
  have names : (joining config client).map (fields config) = authFrame config ::
      (objectKeys client.subscriptions.names).map fun key => fields config (.subscribe, key, []) := by
    rw [joining, List.map_cons, List.map_map]
    rfl
  have parts : joinedFrom keys (greeting config client) = joinedFrom (joinedFrom keys
      ((objectKeys client.subscriptions.names).map fun key => fields config (.subscribe, key, [])))
      (client.pendingSends.map (fields config)) := by
    rw [greeting, names]
    exact List.foldl_append
  rw [parts, joinedFrom_data, joinedFrom_subscribes, mem_objectKeys]
  intro frame member
  obtain ⟨send, there, rfl⟩ := List.mem_map.mp member
  exact queued send there

theorem onOpen_eq (able : (setReadyState w .opened client).isOpen = true ∧ Sendable config) :
    onOpen config w client = write (greeting config client) { setReadyState w .opened client with
      reconnectAttempt := 0, pendingSends := [], heartbeatTimer := true } := by
  have opens : PageClient.isOpen { setReadyState w .opened client with reconnectAttempt := 0 } = true ∧
      Sendable config := able
  obtain ⟨v, _, ws, _⟩ := isOpen_iff.mp able.1
  have ws : client.ws = some v := ws
  have still : PageClient.isOpen { write ((joining config client).map (fields config))
      { setReadyState w .opened client with reconnectAttempt := 0 } with pendingSends := [] } = true ∧
      Sendable config := ⟨(isOpen_write ((joining config client).map (fields config))
    { setReadyState w .opened client with reconnectAttempt := 0 }).trans opens.1, able.2⟩
  simp only [onOpen, sendAll_of_able opens, sendAll_of_able still, greeting]
  simp [write, setReadyState, ws, List.modify_modify_eq, Function.comp_def]

theorem onOpen_of_mute (mute : Mute config (setReadyState w .opened client)) :
    onOpen config w client = { setReadyState w .opened client with reconnectAttempt := 0 } := by
  have shut : Mute config { setReadyState w .opened client with reconnectAttempt := 0 } := mute
  simp only [onOpen, joining, sendAll_of_mute shut]

theorem kept_onOpen (kept : Kept config client) (found : client.sockets[w]? = some socket)
    (connecting : socket.readyState = .connecting) : Kept config (onOpen config w client) := by
  have base : Base config (setReadyState w .opened client) :=
    base_of_sockets kept.toBase (mem_setReadyState (by simp))
  by_cases able : (setReadyState w .opened client).isOpen = true ∧ Sendable config
  · obtain ⟨v, other, ws, there, opened⟩ := isOpen_iff.mp able.1
    -- The socket that takes the frames has none yet, or it is another that was open before.
    have before : (other.frames = [] ∨ client.pendingSends = [] ∧ (∃ rest, other.frames = authFrame config :: rest) ∧
        ∀ key, key ∈ joined other.frames ↔ key ∈ client.subscriptions.names) := by
      obtain ⟨old, at_v, either⟩ := modify_cases there
      rcases either with ⟨rfl, rfl⟩ | ⟨_, rfl⟩
      · rw [found, Option.some.injEq] at at_v
        subst at_v
        exact Or.inl (kept.fresh socket (List.mem_of_getElem? found) connecting)
      · exact Or.inr (kept.current able.2 v _ ws at_v opened)
    have ready : Base config { setReadyState w .opened client with
        reconnectAttempt := 0, pendingSends := [], heartbeatTimer := true } :=
      ⟨base.first, base.fresh, base.silent, base.given, base.encodes, by simp⟩
    rw [onOpen_eq able]
    apply kept_write ready ws there opened
    · rcases before with none | ⟨_, ⟨rest, first⟩, _⟩
      · rw [none]
        exact ⟨_, rfl⟩
      · rw [first]
        exact ⟨_, rfl⟩
    · intro frame member
      simp only [greeting, List.mem_append, List.mem_map] at member
      rcases member with ⟨_, _, rfl⟩ | ⟨_, _, rfl⟩ <;> exact ⟨rfl, able.2⟩
    · rw [List.filter_append, filter_greeting kept.queued]
      exact kept.order
    · rfl
    · intro key
      rw [joined_append, joinedFrom_greeting kept.queued]
      rcases before with none | ⟨_, _, joins⟩
      · rw [none]
        simp [joined, joinedFrom, setReadyState]
      · rw [joins, or_self]
        rfl
  · rw [onOpen_of_mute able]
    apply kept_of_mute
    · exact ⟨base.first, base.fresh, base.silent, base.given, base.encodes, base.queued⟩
    · exact kept.order
    · exact able

theorem kept_onClose (kept : Kept config client) (code : Nat) : Kept config (onClose w code client) := by
  have shut := kept_setReadyState (w := w) kept (show ReadyState.closed ≠ .connecting by simp) (by simp)
  apply kept_of_mute
  · exact ⟨shut.first, shut.fresh, fun _ => rfl, shut.given, shut.encodes, shut.queued⟩
  · exact kept.order
  · exact mute_of_no_socket rfl

end

section
variable {config} {client client' : PageClient η} {e : PageEvent η} {es ds : List (PageEvent η)}

theorem kept_callback (kept : Kept config client) (taken : callback config client e = some client') :
    Kept config client' := by
  cases e with
  | timer id =>
      simp only [callback] at taken
      split at taken
      · rw [← Option.some.inj taken]
        have fired : Kept config { client with timers := client.timers.erase id } :=
          { (⟨kept.first, kept.fresh, kept.silent, kept.given, kept.encodes, kept.queued⟩ : Base config _) with
            order := kept.order, current := kept.current }
        split
        · exact fired
        · rename_i wanted
          exact kept_openSocket fired (eq_false_of_ne_true wanted)
      · cases taken
  | beat =>
      simp only [callback] at taken
      split at taken
      · rw [← Option.some.inj taken]
        exact kept_beat kept
      · cases taken
  | onOpen w =>
      obtain ⟨socket, found, opens⟩ := Option.bind_eq_some_iff.mp taken
      split at opens
      · rename_i connecting
        rw [← Option.some.inj opens]
        exact kept_onOpen kept found connecting
      · cases opens
  | onClosing w =>
      obtain ⟨socket, found, closes⟩ := Option.bind_eq_some_iff.mp taken
      split at closes
      · rw [← Option.some.inj closes]
        exact kept_setReadyState kept (by simp) (by simp)
      · cases closes
  | onClose w code =>
      obtain ⟨socket, found, closes⟩ := Option.bind_eq_some_iff.mp taken
      split at closes
      · rw [← Option.some.inj closes]
        exact kept_onClose kept code
      · cases closes
  | _ => cases taken

theorem kept_step [DecidableEq η] (kept : Kept config client) (taken : step config client e = some client') :
    Kept config client' := by
  cases e with
  | connect =>
      rw [← Option.some.inj taken]
      have wanted : Kept config { client with closedByUser := false } :=
        { (⟨kept.first, kept.fresh, fun closed => Bool.noConfusion closed, kept.given, kept.encodes, kept.queued⟩ :
            Base config { client with closedByUser := false }) with
          order := kept.order, current := kept.current }
      exact kept_openSocket wanted rfl
  | disconnect =>
      rw [← Option.some.inj taken]
      exact kept_disconnect kept
  | subscribe channelId handler =>
      rw [← Option.some.inj taken]
      exact kept_subscribe kept channelId handler
  | unsubscribe channelId handler =>
      rw [← Option.some.inj taken]
      exact kept_unsubscribe kept channelId handler
  | publish channelId payload =>
      rw [← Option.some.inj taken, publish]
      split
      · exact kept
      · exact kept_sendOrQueue kept (Or.inl rfl)
  | replay channelId sinceUnixSeconds =>
      rw [← Option.some.inj taken]
      exact kept_sendOrQueue kept (Or.inr rfl)
  | emitted =>
      obtain ⟨code, _, rfl⟩ := Option.map_eq_some_iff.mp taken
      have base : Base config client := kept.toBase
      unfold emitted
      split
      · exact { (⟨base.first, base.fresh, base.silent, base.given, base.encodes, base.queued⟩ : Base config _) with
          order := kept.order, current := kept.current }
      · exact { (⟨base.first, base.fresh, base.silent, base.given, base.encodes, base.queued⟩ : Base config _) with
          order := kept.order, current := kept.current }
  | timer | beat | onOpen | onClosing | onClose =>
      simp only [step] at taken
      split at taken
      · cases taken
      · exact kept_callback kept taken

theorem kept_new : Kept config ({} : PageClient η) := by
  apply kept_of_mute
  · constructor
    · simp
    · simp
    · intro _
      rfl
    · simp
    · simp
    · simp
  · rfl
  · exact mute_of_no_socket rfl

/-- The client has been told to disconnect, and has done nothing since. -/
structure Silent (before client : PageClient η) : Prop where
  closed : client.closedByUser = true
  ws : client.ws = none
  written : client.written = before.written
  sockets : client.sockets.length = before.sockets.length

theorem isOpen_of_none (ws : client.ws = none) : client.isOpen = false := by
  rw [isOpen, ws]
  rfl

theorem silent_step [DecidableEq η] {before : PageClient η} (silent : Silent before client) (other : e ≠ .connect)
    (taken : step config client e = some client') : Silent before client' := by
  obtain ⟨closed, ws, written, sockets⟩ := silent
  have shut := isOpen_of_none ws
  cases e with
  | connect => exact absurd rfl other
  | disconnect =>
      rw [← Option.some.inj taken]
      refine ⟨rfl, rfl, written, ?_⟩
      simpa [disconnect, ws] using sockets
  | subscribe channelId handler =>
      rw [← Option.some.inj taken, subscribe]
      split
      · exact ⟨closed, ws, written, sockets⟩
      · simp only [shut, Bool.false_eq_true, and_false, if_false]
        exact ⟨closed, ws, written, sockets⟩
  | unsubscribe channelId handler =>
      rw [← Option.some.inj taken, unsubscribe]
      split
      · exact ⟨closed, ws, written, sockets⟩
      · simp only [shut, Bool.false_eq_true, if_false]
        split <;> exact ⟨closed, ws, written, sockets⟩
  | publish channelId payload =>
      rw [← Option.some.inj taken, publish]
      split
      · exact ⟨closed, ws, written, sockets⟩
      · simp only [sendOrQueue, shut, Bool.false_eq_true, if_false]
        exact ⟨closed, ws, written, sockets⟩
  | replay channelId sinceUnixSeconds =>
      rw [← Option.some.inj taken, replay]
      simp only [sendOrQueue, shut, Bool.false_eq_true, if_false]
      exact ⟨closed, ws, written, sockets⟩
  | emitted =>
      obtain ⟨code, _, rfl⟩ := Option.map_eq_some_iff.mp taken
      have unwanted : ¬ (code ≠ wsCloseCodeAuthFailed ∧ client.closedByUser = false ∧ config.reconnect = true) := by
        simp [closed]
      rw [emitted, if_neg unwanted]
      exact ⟨closed, ws, written, sockets⟩
  | timer id =>
      simp only [step, callback] at taken
      split at taken
      · cases taken
      · split at taken
        · rw [← Option.some.inj taken]
          exact ⟨closed, ws, written, sockets⟩
        · cases taken
  | beat =>
      simp only [step, callback, beat, shut, Bool.false_eq_true, if_false] at taken
      split at taken
      · cases taken
      · split at taken
        · rw [← Option.some.inj taken]
          exact ⟨closed, ws, written, sockets⟩
        · cases taken
  | onOpen w =>
      simp only [step, callback] at taken
      split at taken
      · cases taken
      · obtain ⟨socket, _, opens⟩ := Option.bind_eq_some_iff.mp taken
        split at opens
        · rw [← Option.some.inj opens]
          have nowhere : Mute config (setReadyState w .opened client) := mute_of_no_socket ws
          rw [onOpen_of_mute nowhere]
          exact ⟨closed, ws, written, by simpa [setReadyState] using sockets⟩
        · cases opens
  | onClosing w =>
      simp only [step, callback] at taken
      split at taken
      · cases taken
      · obtain ⟨socket, _, closes⟩ := Option.bind_eq_some_iff.mp taken
        split at closes
        · rw [← Option.some.inj closes]
          exact ⟨closed, ws, written, by simpa [setReadyState] using sockets⟩
        · cases closes
  | onClose w code =>
      simp only [step, callback] at taken
      split at taken
      · cases taken
      · obtain ⟨socket, _, closes⟩ := Option.bind_eq_some_iff.mp taken
        split at closes
        · rw [← Option.some.inj closes]
          exact ⟨closed, rfl, written, by simpa [onClose, setReadyState] using sockets⟩
        · cases closes

theorem silent_run [DecidableEq η] {before : PageClient η} (silent : Silent before client) (other : .connect ∉ ds)
    (reached : (step config).run client ds = some client') : Silent before client' := by
  induction ds generalizing client with
  | nil =>
      rw [Step.run_nil, Option.some.injEq] at reached
      exact reached ▸ silent
  | cons e ds ih =>
      obtain ⟨between, taken, rest⟩ := Step.run_cons_iff.mp reached
      rw [List.mem_cons, not_or] at other
      exact ih (silent_step silent (Ne.symm other.1) taken) other.2 rest

/-- The channels that a server is subscribed to by what it is sent. -/
def heardFrom (channels : Finset String) (wire : List (List UInt8)) : Finset String :=
  wire.foldl (fun channels bytes => match Frame.parseSlice bytes with
    | .ok frame => match frame.opcode with
      | .subscribe => insert frame.channelId channels
      | .unsub => channels.erase frame.channelId
      | _ => channels
    | .error _ => channels) channels

def heard (wire : List (List UInt8)) : Finset String := heardFrom ∅ wire

def naming (frame : ScriptFields) : Bool := frame.opcode = .subscribe || frame.opcode = .unsub

/-- The server reads a frame as it was written, each text cut to its field. -/
theorem encodeFrame_read {frame : ScriptFields} (uuid : uuidRe (scalars frame.tenantId) = true) :
    ∃ read : Frame, WordPress.encodeFrame frame = .ok read.raw.toList ∧ read.opcode = frame.opcode ∧
      read.channelId = subscribedName frame.channelId := by
  obtain ⟨bytes, sized, id⟩ : ∃ bytes : List UInt8, bytes.length = 16 ∧
      WordPress.uuidToBytes frame.tenantId = .ok bytes := by
    rw [WordPress.uuidToBytes, Sdk.uuidToBytes, if_pos uuid]
    exact ⟨_, by simp, rfl⟩
  have field (width : Nat) (text : Utf16) : WordPress.writePadded width text =
      Library.writePadded width (cut width text) := by
    rw [SizeGuard.writePadded_eq, writePadded_fitting, toUsv, String.toList_ofList, cut]
  refine ⟨Backend.FrameBuilder.frame ⟨frame.opcode, ⟨bytes, sized⟩, cut lenChannel frame.channelId,
    cut lenPayload frame.payload⟩ (length_utf8_cut_le _ _) (length_utf8_cut_le _ _), ?_, rfl, rfl⟩
  rw [WordPress.encodeFrame, id, field, field]
  exact congrArg Except.ok (encodeAt_build ⟨frame.opcode, ⟨bytes, sized⟩, cut lenChannel frame.channelId,
    cut lenPayload frame.payload⟩)

theorem image_erase {names : Set Utf16} {keys : Finset Utf16} {key : Utf16} (apart : Set.InjOn subscribedName names)
    (inside : ∀ other ∈ keys, other ∈ names) (member : key ∈ names) :
    (keys.erase key).image subscribedName = (keys.image subscribedName).erase (subscribedName key) := by
  ext channel
  simp only [Finset.mem_image, Finset.mem_erase]
  constructor
  · rintro ⟨other, ⟨different, there⟩, rfl⟩
    exact ⟨fun same => different (apart (inside other there) member same), other, there, rfl⟩
  · rintro ⟨different, other, there, rfl⟩
    exact ⟨other, ⟨fun same => different (congrArg subscribedName same), there⟩, rfl⟩

/-- Where the names are told apart when cut, the server follows the names. -/
theorem heardFrom_wire {names : Set Utf16} (apart : Set.InjOn subscribedName names) {keys : Finset Utf16}
    (inside : ∀ key ∈ keys, key ∈ names) (uuid : ∀ frame ∈ frames, uuidRe (scalars frame.tenantId) = true)
    (named : ∀ frame ∈ frames, naming frame = true → frame.channelId ∈ names) :
    heardFrom (keys.image subscribedName) (frames.filterMap fun frame => (WordPress.encodeFrame frame).toOption) =
      (joinedFrom keys frames).image subscribedName := by
  induction frames generalizing keys with
  | nil => rfl
  | cons frame frames ih =>
      rw [List.forall_mem_cons] at uuid named
      obtain ⟨read, encoded, opcode, channelId⟩ := encodeFrame_read uuid.1
      have next (keys : Finset Utf16) (inside : ∀ key ∈ keys, key ∈ names) := ih inside uuid.2 named.2
      rw [List.filterMap_cons_some (b := read.raw.toList) (by rw [encoded]; rfl), heardFrom, List.foldl_cons]
      simp only [Frame.parseSlice_raw, opcode, channelId]
      rw [joinedFrom, List.foldl_cons]
      cases kind : frame.opcode with
      | subscribe =>
          have member := named.1 (by simp [naming, kind])
          simp only
          rw [← Finset.image_insert]
          refine next _ fun key there => ?_
          rcases Finset.mem_insert.mp there with rfl | old
          · exact member
          · exact inside key old
      | unsub =>
          have member := named.1 (by simp [naming, kind])
          simp only
          rw [← image_erase apart inside member]
          exact next _ fun key there => inside key (Finset.mem_of_mem_erase there)
      | _ => exact next keys inside

end

namespace Sample

def site : ClientConfig where
  tenantId := [
    0x30, 0x30, 0x30, 0x30, 0x30, 0x30, 0x30, 0x30, 0x2D, 0x30, 0x30, 0x30, 0x30, 0x2D, 0x30, 0x30, 0x30, 0x30,
    0x2D, 0x30, 0x30, 0x30, 0x30, 0x2D, 0x30, 0x30, 0x30, 0x30, 0x30, 0x30, 0x30, 0x30, 0x30, 0x30, 0x30, 0x31]
  token := [0x74]

def room : Utf16 := [0x72]

def visit : List (PageEvent Nat) := [
  .connect, .subscribe room 1, .publish room [0x61], .onOpen 0, .publish room [0x62], .onClose 0 1006, .emitted,
  .publish room [0x63], .timer 0, .onOpen 1]

/-- What is looked at of the end of the visit. -/
def view (client : PageClient Nat) : Option Nat × List Utf16 × Option (ReadyState × List Utf16) :=
  (client.ws, client.subscriptions.names,
    client.sockets[1]?.map fun socket => (socket.readyState, (socket.frames.filter naming).map (·.channelId)))

end Sample

end RealtimePlatform.Proof.PageClients
