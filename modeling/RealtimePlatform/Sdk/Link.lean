import RealtimePlatform.Library.Transition
import RealtimePlatform.Library.Indexed
import RealtimePlatform.Sdk.Client

/-!
# The sockets of the TypeScript client

Every call and every callback runs to its end before the next begins, except that a handler of `close` or
`error` may make calls before the callback goes on to schedule a reconnection. What other handlers call comes
after their callback. A socket closes in one step with its `onclose`, and opens in one with its `onopen`.
The delays and the URL are left out.
-/

namespace RealtimePlatform.Sdk
open Library Utf16
open Backend (Opcode Uuid)

namespace Subscriptions
variable {η : Type*} [DecidableEq η]

def remove (key : Utf16) (handler : η) (s : Subscriptions η) : Subscriptions η :=
  let entries := s.entries.map fun e => (e.1, if e.1 = key then e.2.erase handler else e.2)
  { entries := entries.filter fun e => e.2 ≠ []
    distinct := by
      refine s.distinct.sublist ?_
      have same : s.entries.map (·.1) = entries.map (·.1) := by simp [entries]
      rw [same]
      exact List.filter_sublist.map _
    registered := by
      intro e member
      obtain ⟨inside, nonempty⟩ := List.mem_filter.mp member
      obtain ⟨d, old, rfl⟩ := List.mem_map.mp inside
      refine ⟨of_decide_eq_true nonempty, ?_⟩
      dsimp only
      split
      · exact (s.registered d old).2.erase handler
      · exact (s.registered d old).2 }

end Subscriptions

def wsCloseCodeAuthFailed : Nat := 4001

/-- Exactly one of `token` and `getToken`, for callers that check their types. -/
structure RealtimeClientConfig where
  tenantId : Uuid
  token : Option Utf16
  getToken : Bool
  reconnect : Bool := true
  maxMessageBytes : Nat := 65536

inductive ReadyState where
  | connecting | opened | closing | closed
  deriving DecidableEq

abbrev PendingSend := Opcode × Utf16 × Utf16

/-- A socket with the token of its `onopen`, the queued calls among its frames and what the server has made
of its AUTH. -/
structure Socket where
  token : Utf16
  readyState : ReadyState := .connecting
  frames : List FrameFields := []
  flushed : List PendingSend := []
  accepted : Option Bool := none

/-- `emitting` while handlers of `close` or `error` run before a reconnection is scheduled, with whether the
socket that closed had been superseded. -/
structure Link (η : Type*) where
  token : Option Utf16
  subscriptions : Subscriptions η
  reassembler : ChunkReassembler
  pendingSends : List PendingSend := []
  closedByUser : Bool := true
  ws : Option Nat := none
  heartbeatTimer : Bool := false
  reconnectTimer : Option Nat := none
  reconnectAttempt : Nat := 0
  timers : List Nat := []
  nextTimer : Nat := 0
  fetching : Nat := 0
  resolving : Nat := 0
  wsImpl : Option Bool := none
  emitting : Option Bool := none
  sockets : List Socket := []
  queuedCalls : List PendingSend := []

inductive LinkEvent (η : Type*) where
  | connect
  | disconnect
  | subscribe (channelId : Utf16) (handler : η)
  | unsubscribe (channelId : Utf16) (handler : η)
  | publish (rolls : List.Vector (Fin 36) 4) (channelId payload : Utf16)
  | unicast (rolls : List.Vector (Fin 36) 4) (userId payload : Utf16)
  | replay (channelId : Utf16) (sinceUnixSeconds : Utf16)
  | fetched (fresh : Option Utf16)
  | resolved (found : Bool)
  | emitted
  | timer (id : Nat)
  | beat
  | onOpen (w : Nat)
  | onMessage (w : Nat) (arrival : RealtimeClient.Arrival)
  | onError (w : Nat)
  | onClose (w code : Nat)
  | judged (w : Nat) (accepted : Bool)

namespace Link
variable {η : Type*} [DecidableEq η] (config : RealtimeClientConfig)

def isOpen (link : Link η) : Bool :=
  (link.ws.bind fun w => link.sockets[w]?).any fun socket => socket.readyState = .opened

def client (link : Link η) : RealtimeClient η where
  tenantId := config.tenantId
  open_ := link.isOpen
  subscriptions := link.subscriptions
  reassembler := link.reassembler
  pendingSends := link.pendingSends

def frame (opcode : Opcode) (channelId payload : Utf16) : FrameFields :=
  { opcode, tenantId := config.tenantId, channelId, payload }

/-- `this.ws.send` for each of the frames. -/
def write (frames : List FrameFields) (flushed : List PendingSend) (link : Link η) : Link η :=
  match link.ws with
  | none => link
  | some w => { link with sockets := link.sockets.modify w fun socket =>
      { socket with frames := socket.frames ++ frames, flushed := socket.flushed ++ flushed } }

/-- Up to its first `await`. -/
def openSocket (link : Link η) : Link η :=
  if config.getToken then { link with fetching := link.fetching + 1 }
  else { link with resolving := link.resolving + 1 }

def fetched (fresh : Option Utf16) (link : Link η) : Link η :=
  match fresh with
  | none => { link with emitting := some false }
  | some token =>
    if link.closedByUser then { link with token }
    else { link with token, resolving := link.resolving + 1 }

def resolved (found : Bool) (link : Link η) : Link η :=
  if !found || link.closedByUser then link
  else match link.token with
    | none | some [] => link
    | some token =>
      { link with sockets := link.sockets ++ [{ token }], ws := some link.sockets.length }

def scheduleReconnect (link : Link η) : Link η :=
  { link with
    reconnectAttempt := link.reconnectAttempt + 1
    timers := link.timers ++ [link.nextTimer]
    reconnectTimer := some link.nextTimer
    nextTimer := link.nextTimer + 1 }

/-- The end of `onclose`, or of an opening whose `getToken` failed. -/
def emitted (link : Link η) : Link η :=
  if !link.closedByUser && config.reconnect then link.scheduleReconnect else link

def connect (link : Link η) : Link η := openSocket config { link with closedByUser := false }

/-- `clearTimeout` of the last reconnection that was scheduled. -/
def clearReconnect (link : Link η) : List Nat :=
  match link.reconnectTimer with
  | some id => link.timers.erase id
  | none => link.timers

/-- `close` of a socket, by the client. -/
def leave (socket : Socket) : Socket :=
  if socket.readyState = .closed then socket else { socket with readyState := .closing }

def disconnect (link : Link η) : Link η :=
  { link with
    closedByUser := true
    timers := link.clearReconnect
    heartbeatTimer := false
    sockets := match link.ws with
      | some w => link.sockets.modify w leave
      | none => link.sockets
    ws := none }

def subscribe (channelId : Utf16) (handler : η) (link : Link η) : Link η :=
  let (frames, client) := (link.client config).subscribe channelId handler
  write frames [] { link with subscriptions := client.subscriptions }

def unsubscribe (channelId : Utf16) (handler : η) (link : Link η) : Link η :=
  let subscriptions := link.subscriptions.remove channelId handler
  let gone := channelId ∈ link.subscriptions.keys ∧ channelId ∉ subscriptions.keys
  write (if gone ∧ link.isOpen then [frame config .unsub channelId []] else []) [] { link with subscriptions }

def sendOrQueue (opcode : Opcode) (channelId payload : Utf16) (link : Link η) : Link η :=
  if link.isOpen then write [frame config opcode channelId payload] [] link
  else { link with
    pendingSends := link.pendingSends ++ [(opcode, channelId, payload)]
    queuedCalls := link.queuedCalls ++ [(opcode, channelId, payload)] }

/-- `publish` and `unicast`; a message that cannot be cut throws. -/
def sendChunks (opcode : Opcode) (rolls : List.Vector (Fin 36) 4) (channelId payload : Utf16) (link : Link η) :
    Link η :=
  match encodeChunks rolls payload config.maxMessageBytes with
  | .error _ => link
  | .ok chunks => chunks.foldl (fun link chunk => sendOrQueue config opcode channelId chunk link) link

def setReadyState (w : Nat) (readyState : ReadyState) (link : Link η) : Link η :=
  { link with sockets := link.sockets.modify w fun socket => { socket with readyState } }

def opened (w : Nat) (link : Link η) : Link η := { setReadyState w .opened link with reconnectAttempt := 0 }

def greet (token : Utf16) (link : Link η) : Link η :=
  { write ((link.client config).onopen token).1 link.pendingSends link with
    pendingSends := ((link.client config).onopen token).2.pendingSends
    heartbeatTimer := true }

/-- Where `this.ws` is another socket that is not open, sending AUTH throws. -/
def onOpen (w : Nat) (token : Utf16) (link : Link η) : Link η :=
  if (opened w link).isOpen then greet config token (opened w link) else opened w link

def onMessage (arrival : RealtimeClient.Arrival) (link : Link η) : Link η :=
  { link with reassembler := ((link.client config).onmessage arrival).2.reassembler }

def onClose (w code : Nat) (link : Link η) : Link η :=
  { setReadyState w .closed link with
    heartbeatTimer := false
    ws := none
    emitting := if code ≠ wsCloseCodeAuthFailed ∨ config.getToken then some (decide (link.ws ≠ some w)) else none }

def beat (link : Link η) : Link η :=
  if link.isOpen then write [frame config .ping [] []] [] link else link

def callback (link : Link η) : LinkEvent η → Option (Link η)
  | .fetched fresh =>
    match link.fetching with
    | 0 => none
    | fetching + 1 => some (fetched fresh { link with fetching })
  | .resolved found =>
    match link.resolving with
    | 0 => none
    | resolving + 1 =>
      if link.wsImpl = some !found then none
      else some (resolved found { link with resolving, wsImpl := some found })
  | .timer id =>
    if id ∈ link.timers then
      let link := { link with timers := link.timers.erase id }
      some (if link.closedByUser then link else openSocket config link)
    else none
  | .beat => if link.heartbeatTimer then some (beat config link) else none
  | .onOpen w => link.sockets[w]?.bind fun socket =>
    if socket.readyState = .connecting then some (onOpen config w socket.token link) else none
  | .onMessage w arrival => link.sockets[w]?.bind fun socket =>
    if socket.readyState = .opened ∨ socket.readyState = .closing then some (onMessage config arrival link)
    else none
  | .onError w => link.sockets[w]?.bind fun socket => if socket.readyState ≠ .closed then some link else none
  | .onClose w code => link.sockets[w]?.bind fun socket =>
    if socket.readyState ≠ .closed then some (onClose config w code link) else none
  | .judged w accepted => link.sockets[w]?.bind fun socket =>
    if socket.frames ≠ [] ∧ socket.readyState ≠ .closed ∧ socket.accepted = none then
      some { link with sockets := link.sockets.modify w fun socket => { socket with accepted := some accepted } }
    else none
  | _ => none

def step : Step (Link η) (LinkEvent η)
  | link, .connect => some (connect config link)
  | link, .disconnect => some (disconnect link)
  | link, .subscribe channelId handler => some (subscribe config channelId handler link)
  | link, .unsubscribe channelId handler => some (unsubscribe config channelId handler link)
  | link, .publish rolls channelId payload => some (sendChunks config .publish rolls channelId payload link)
  | link, .unicast rolls userId payload => some (sendChunks config .unicast rolls userId payload link)
  | link, .replay channelId sinceUnixSeconds => some (sendOrQueue config .replay channelId sinceUnixSeconds link)
  | link, .emitted => if link.emitting.isSome then some (emitted config { link with emitting := none }) else none
  | link, e => if link.emitting.isSome then none else callback config link e

/-- A new client. -/
def initial : Link η where
  token := config.token
  subscriptions := .empty
  reassembler := .new

end Link

namespace Link
variable {η : Type*} {config : RealtimeClientConfig} {link : Link η}

theorem isOpen_iff : link.isOpen = true ↔
    ∃ w socket, link.ws = some w ∧ link.sockets[w]? = some socket ∧ socket.readyState = .opened := by
  unfold isOpen
  cases link.ws with
  | none => simp
  | some w => cases found : link.sockets[w]? <;> simp [found]

def put (frames : List FrameFields) (flushed : List PendingSend) (socket : Socket) : Socket :=
  { socket with frames := socket.frames ++ frames, flushed := socket.flushed ++ flushed }

theorem write_of_ws {w : Nat} (current : link.ws = some w) (frames : List FrameFields) (flushed : List PendingSend) :
    write frames flushed link = { link with sockets := link.sockets.modify w (put frames flushed) } := by
  unfold write
  rw [current]
  rfl

theorem write_of_none (nowhere : link.ws = none) (frames : List FrameFields) (flushed : List PendingSend) :
    write frames flushed link = link := by
  unfold write
  rw [nowhere]

theorem isOpen_write (frames : List FrameFields) (flushed : List PendingSend) :
    (write frames flushed link).isOpen = link.isOpen := by
  cases current : link.ws with
  | none => rw [write_of_none current]
  | some w =>
      rw [write_of_ws current, isOpen, isOpen, current, Option.bind_some, Option.bind_some, List.getElem?_modify_eq]
      cases link.sockets[w]? <;> rfl

theorem isOpen_opened {w : Nat} {socket : Socket} (found : link.sockets[w]? = some socket)
    (current : link.ws = some w) : (opened w link).isOpen = true := by
  refine isOpen_iff.mpr ⟨w, { socket with readyState := .opened }, current, ?_, rfl⟩
  rw [opened, setReadyState, List.getElem?_modify_eq, found]
  rfl

def callFrames (config : RealtimeClientConfig) (calls : List PendingSend) : List FrameFields :=
  calls.map fun (opcode, channelId, payload) => frame config opcode channelId payload

theorem onopen_frames (token : Utf16) (link : Link η) : ((link.client config).onopen token).1 =
    (frame config .auth [] token :: link.subscriptions.keys.map fun channelId =>
      frame config .subscribe channelId []) ++ callFrames config link.pendingSends := rfl

end Link
end RealtimePlatform.Sdk
