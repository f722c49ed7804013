import RealtimePlatform.Sdk.WordPressClient
import Mathlib.Data.Finset.Basic

/-!
# The sockets of the WordPress client

`mio-client.js` over its sockets and timers. Every call and every callback runs to its end before the next
begins, except that a handler of `close` or `authFailed` may make calls before a reconnection is scheduled.
Subscriptions are properties of an object, which has some names of its own from the start. Delays, the URL
and the handlers of lifecycle events are left out.
-/

namespace RealtimePlatform.Sdk.WordPress
open Library Utf16
open Backend (Opcode)

structure ClientConfig where
  tenantId : Utf16
  token : Utf16
  reconnect : Bool := true

/-- The names that `{}` inherits. -/
def inherited : List Utf16 := [
  "constructor", "__defineGetter__", "__defineSetter__", "hasOwnProperty", "__lookupGetter__",
  "__lookupSetter__", "isPrototypeOf", "propertyIsEnumerable", "toString", "valueOf", "__proto__",
  "toLocaleString"].map ofString

def arrayIndex (key : Utf16) : Option Nat :=
  (Numeral.digits 10 (scalars key)).filter fun n => n < 2 ^ 32 - 1 ∧ ofString (String.ofList (Nat.toDigits 10 n)) = key

/-- `Object.keys`: the indices in ascending order, then the other names as they were entered. -/
def objectKeys (names : List Utf16) : List Utf16 :=
  ((names.filter fun key => (arrayIndex key).isSome).mergeSort
    fun key other => (arrayIndex key).getD 0 ≤ (arrayIndex other).getD 0) ++
    names.filter fun key => (arrayIndex key).isNone

theorem mem_objectKeys {names : List Utf16} {key : Utf16} : key ∈ objectKeys names ↔ key ∈ names := by
  unfold objectKeys
  rw [List.mem_append, (List.mergeSort_perm _ _).mem_iff, List.mem_filter, List.mem_filter, ← and_or_left]
  cases arrayIndex key <;> simp

abbrev Properties (η : Type*) := List (Utf16 × List η)

namespace Properties
variable {η : Type*}

def names (properties : Properties η) : List Utf16 := properties.map Prod.fst

/-- The handlers that a name holds, if it is the object's own. -/
def own (key : Utf16) (properties : Properties η) : Option (List η) := properties.lookup key

def push (key : Utf16) (handler : η) (properties : Properties η) : Properties η :=
  if key ∈ properties.names then
    properties.map fun property => (property.1, if property.1 = key then property.2 ++ [handler] else property.2)
  else properties ++ [(key, [handler])]

def splice [DecidableEq η] (key : Utf16) (handler : η) (properties : Properties η) : Properties η :=
  properties.map fun property => (property.1, if property.1 = key then property.2.erase handler else property.2)

def delete (key : Utf16) (properties : Properties η) : Properties η :=
  properties.filter fun property => property.1 ≠ key

@[simp] theorem names_splice [DecidableEq η] (key : Utf16) (handler : η) (properties : Properties η) :
    (splice key handler properties).names = properties.names := by
  simp [splice, names]

theorem mem_names_push {key other : Utf16} {handler : η} {properties : Properties η} :
    other ∈ (push key handler properties).names ↔ other = key ∨ other ∈ properties.names := by
  unfold push
  split
  · rename_i there
    have same : ∀ f : Utf16 × List η → List η, (properties.map fun property => (property.1, f property)).map Prod.fst =
        properties.map Prod.fst := by
      intro f
      rw [List.map_map]
      rfl
    rw [names, same]
    constructor
    · exact Or.inr
    · intro either
      exact either.elim (fun equal => equal ▸ there) id
  · simp [names, or_comm]

theorem mem_names_delete {key other : Utf16} {properties : Properties η} :
    other ∈ (delete key properties).names ↔ other ∈ properties.names ∧ other ≠ key := by
  simp [delete, names, and_comm]

end Properties

/-- `frames` are what the frames that the socket was given encode. -/
structure PageSocket where
  readyState : ReadyState := .connecting
  frames : List ScriptFields := []

def PageSocket.wire (socket : PageSocket) : List (List UInt8) :=
  socket.frames.filterMap fun frame => (encodeFrame frame).toOption

/-- `emitting` is the code of the close that handlers are told of, before a reconnection is scheduled.
`written` and `calls` are ghosts: all that sockets were given, and the calls of `publish` and `replay`. -/
structure PageClient (η : Type*) where
  subscriptions : Properties η := []
  pendingSends : List PendingSend := []
  closedByUser : Bool := true
  ws : Option Nat := none
  heartbeatTimer : Bool := false
  reconnectTimer : Option Nat := none
  reconnectAttempt : Nat := 0
  timers : List Nat := []
  nextTimer : Nat := 0
  emitting : Option Nat := none
  sockets : List PageSocket := []
  written : List ScriptFields := []
  calls : List PendingSend := []

inductive PageEvent (η : Type*) where
  | connect
  | disconnect
  | subscribe (channelId : Utf16) (handler : η)
  | unsubscribe (channelId : Utf16) (handler : η)
  | publish (channelId payload : Utf16)
  | replay (channelId : Utf16) (sinceUnixSeconds : Nat)
  | emitted
  | timer (id : Nat)
  | beat
  | onOpen (w : Nat)
  | onClosing (w : Nat)
  | onClose (w code : Nat)

namespace PageClient
variable {η : Type*} [DecidableEq η] (config : ClientConfig)

def isOpen (client : PageClient η) : Bool :=
  (client.ws.bind fun w => client.sockets[w]?).any fun socket => socket.readyState = .opened

def fields (send : PendingSend) : ScriptFields :=
  { opcode := send.1, tenantId := config.tenantId, channelId := send.2.1, payload := send.2.2 }

def write (frames : List ScriptFields) (client : PageClient η) : PageClient η :=
  match client.ws with
  | none => client
  | some w => { client with
      sockets := client.sockets.modify w fun socket => { socket with frames := socket.frames ++ frames }
      written := client.written ++ frames }

/-- `_send`, `none` where it throws: the socket is not open, or the tenant id is no UUID. -/
def send (call : PendingSend) (client : PageClient η) : Option (PageClient η) :=
  if client.isOpen then
    match encodeFrame (fields config call) with
    | .ok _ => some (write [fields config call] client)
    | .error _ => none
  else none

/-- One `_send` after the other, up to the first that throws. -/
def sendAll : List PendingSend → PageClient η → PageClient η × Bool
  | [], client => (client, true)
  | call :: calls, client =>
    match send config call client with
    | some client => sendAll calls client
    | none => (client, false)

def openSocket (client : PageClient η) : PageClient η :=
  { client with sockets := client.sockets ++ [{}], ws := some client.sockets.length }

def connect (client : PageClient η) : PageClient η := openSocket { client with closedByUser := false }

def leave (socket : PageSocket) : PageSocket :=
  if socket.readyState = .closed then socket else { socket with readyState := .closing }

def disconnect (client : PageClient η) : PageClient η :=
  { client with
    closedByUser := true
    timers := match client.reconnectTimer with
      | some id => client.timers.erase id
      | none => client.timers
    heartbeatTimer := false
    sockets := match client.ws with
      | some w => client.sockets.modify w leave
      | none => client.sockets
    ws := none }

/-- An inherited name has no `push`: the call throws. -/
def subscribe (channelId : Utf16) (handler : η) (client : PageClient η) : PageClient η :=
  if channelId ∈ inherited then client
  else
    let entered := { client with subscriptions := client.subscriptions.push channelId handler }
    if channelId ∉ client.subscriptions.names ∧ client.isOpen then
      (send config (.subscribe, channelId, []) entered).getD entered
    else entered

def unsubscribe (channelId : Utf16) (handler : η) (client : PageClient η) : PageClient η :=
  match client.subscriptions.own channelId with
  | none => client
  | some handlers =>
    if handlers.erase handler = [] then
      let removed := { client with subscriptions := client.subscriptions.delete channelId }
      if client.isOpen then (send config (.unsub, channelId, []) removed).getD removed else removed
    else { client with subscriptions := client.subscriptions.splice channelId handler }

/-- A call that throws is not recorded. -/
def sendOrQueue (call : PendingSend) (client : PageClient η) : PageClient η :=
  let called := { client with calls := client.calls ++ [call] }
  if client.isOpen then (send config call called).getD client
  else { called with pendingSends := client.pendingSends ++ [call] }

/-- A payload that one frame does not hold makes the call throw. -/
def publish (channelId payload : Utf16) (client : PageClient η) : PageClient η :=
  if Backend.lenPayload < encodeUtf8Length payload then client
  else sendOrQueue config (.publish, channelId, payload) client

def replay (channelId : Utf16) (sinceUnixSeconds : Nat) (client : PageClient η) : PageClient η :=
  sendOrQueue config (.replay, channelId, ofString (String.ofList (Nat.toDigits 10 sinceUnixSeconds))) client

def setReadyState (w : Nat) (readyState : ReadyState) (client : PageClient η) : PageClient η :=
  { client with sockets := client.sockets.modify w fun socket => { socket with readyState } }

/-- What `onopen` sends before the queued calls. -/
def joining (client : PageClient η) : List PendingSend :=
  (.auth, [], config.token) :: (objectKeys client.subscriptions.names).map fun key => (.subscribe, key, [])

/-- Frames go to `_ws`, which another socket may have taken; if that one is not open, sending AUTH throws. -/
def onOpen (w : Nat) (client : PageClient η) : PageClient η :=
  match sendAll config (joining config client) { setReadyState w .opened client with reconnectAttempt := 0 } with
  | (joined, false) => joined
  | (joined, true) =>
    match sendAll config client.pendingSends { joined with pendingSends := [] } with
    | (flushed, false) => flushed
    | (flushed, true) => { flushed with heartbeatTimer := true }

def onClose (w code : Nat) (client : PageClient η) : PageClient η :=
  { setReadyState w .closed client with heartbeatTimer := false, ws := none, emitting := some code }

def scheduleReconnect (client : PageClient η) : PageClient η :=
  { client with
    reconnectAttempt := client.reconnectAttempt + 1
    timers := client.timers ++ [client.nextTimer]
    reconnectTimer := some client.nextTimer
    nextTimer := client.nextTimer + 1 }

/-- The end of `onclose`. -/
def emitted (code : Nat) (client : PageClient η) : PageClient η :=
  if code ≠ wsCloseCodeAuthFailed ∧ client.closedByUser = false ∧ config.reconnect then client.scheduleReconnect
  else client

def beat (client : PageClient η) : PageClient η :=
  if client.isOpen then (send config (.ping, [], []) client).getD client else client

def callback (client : PageClient η) : PageEvent η → Option (PageClient η)
  | .timer id =>
    if id ∈ client.timers then
      let fired := { client with timers := client.timers.erase id }
      some (if client.closedByUser then fired else openSocket fired)
    else none
  | .beat => if client.heartbeatTimer then some (beat config client) else none
  | .onOpen w => client.sockets[w]?.bind fun socket =>
    if socket.readyState = .connecting then some (onOpen config w client) else none
  | .onClosing w => client.sockets[w]?.bind fun socket =>
    if socket.readyState = .opened then some (setReadyState w .closing client) else none
  | .onClose w code => client.sockets[w]?.bind fun socket =>
    if socket.readyState ≠ .closed then some (onClose w code client) else none
  | _ => none

def step : Step (PageClient η) (PageEvent η)
  | client, .connect => some (connect client)
  | client, .disconnect => some (disconnect client)
  | client, .subscribe channelId handler => some (subscribe config channelId handler client)
  | client, .unsubscribe channelId handler => some (unsubscribe config channelId handler client)
  | client, .publish channelId payload => some (publish config channelId payload client)
  | client, .replay channelId sinceUnixSeconds => some (replay config channelId sinceUnixSeconds client)
  | client, .emitted => client.emitting.map fun code => emitted config code { client with emitting := none }
  | client, e => if client.emitting.isSome then none else callback config client e

end PageClient
end RealtimePlatform.Sdk.WordPress
