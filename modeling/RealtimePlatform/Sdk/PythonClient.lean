import RealtimePlatform.Backend.Frame
import RealtimePlatform.Library.Transition
import Mathlib.Data.Finset.Basic

/-!
# The Python client

Tasks of one event loop: the connection, its heartbeat, the calls of the application and the SUB and UNSUB
that it leaves to tasks of their own. A task runs until it awaits the lock of `_send` or the socket; awaiting
a coroutine of the client goes straight on. The lock is handed on in the order of arrival, and a task that
gets it reads `self._ws` again. One connection task runs at a time. Delays, logging, what the handlers do
with a message and `publish_template` are left out.
-/

namespace RealtimePlatform.Sdk.Python
open Backend (Opcode Uuid RawFrame FrameBuilder)
open Library

def wsCloseCodeAuthFailed : Nat := 4001

structure ClientConfig where
  tenantId : Uuid
  token : String
  reconnect : Bool := true

/-- What `publish`, `unicast` or `replay` was called with. -/
structure Call where
  opcode : Opcode
  channelId : String
  payload : String
  deriving DecidableEq

inductive Task where
  | connection
  | application
  | heartbeat (w : Nat)
  deriving DecidableEq

/-- A task inside `_send`, with the number of the call it is for. -/
structure Sender where
  task : Task
  call : Option Nat := none
  raw : RawFrame

inductive Socket where
  | opened
  | closed (code : Nat)
  deriving DecidableEq

/-- Where the connection task awaits, with what it has left to send. -/
inductive Connection where
  | idle
  | connecting
  | authenticating
  | resubscribing (rest : List String)
  | flushing (rest : List (Nat × Call))
  | receiving
  | sleeping

abbrev Subscriptions := List (String × Finset Nat)

structure RealtimeClient where
  closedByUser : Bool := true
  ws : Option Nat := none
  subscriptions : Subscriptions := []
  pendingSends : List (Nat × Call) := []
  connection : Connection := .idle
  heartbeatTask : Option Nat := none
  disconnecting : Bool := false
  holder : Option (Nat × Sender) := none
  waiting : List Sender := []
  spawned : List (Opcode × String) := []
  sockets : List Socket := []
  calls : List Call := []
  written : List (Nat × Sender) := []

inductive Event where
  | connect
  | disconnect
  | cancelled
  | subscribe (channelId : String) (handler : Nat)
  | unsubscribe (channelId : String) (handler : Nat)
  | start (i : Nat)
  | publish (channelId payload : String)
  | unicast (userId payload : String)
  | replay (channelId : String) (sinceUnixSecs : Int)
  | abandon (i : Nat)
  | acquire
  | sent
  | failed
  | connected
  | connectFailed (caught : Bool)
  | closes (w code : Nat)
  | ended
  | handlerRaised
  | wake
  | beat

namespace RealtimeClient
variable (config : ClientConfig)

def frame (opcode : Opcode) (channelId payload : String) : RawFrame :=
  FrameBuilder.build { opcode, tenantId := config.tenantId, channelId, payload }

def callFrame (call : Call) : RawFrame := frame config call.opcode call.channelId call.payload

def authSender : Sender := { task := .connection, raw := frame config .auth "" config.token }

/-- `_send`, up to the lock. -/
def join (sender : Sender) (client : RealtimeClient) : RealtimeClient :=
  { client with waiting := client.waiting ++ [sender] }

def cancelHeartbeat (client : RealtimeClient) : RealtimeClient :=
  { client with
    heartbeatTask := none
    waiting := client.waiting.filter fun sender => !(sender.task matches .heartbeat _) }

def disconnect (client : RealtimeClient) : RealtimeClient :=
  { cancelHeartbeat client with
    closedByUser := true
    disconnecting := true
    sockets := match client.ws with
      | some w => client.sockets.modify w fun socket => if socket = .opened then .closed 1000 else socket
      | none => client.sockets }

def cancelled (client : RealtimeClient) : RealtimeClient :=
  { cancelHeartbeat client with
    disconnecting := false
    connection := .idle
    ws := none
    holder := client.holder.filter fun (_, sender) => sender.task ≠ .connection
    waiting := (cancelHeartbeat client).waiting.filter fun sender => sender.task ≠ .connection }

def isSubscribed (channelId : String) (client : RealtimeClient) : Bool :=
  channelId ∈ client.subscriptions.map (·.1)

def subscribe (channelId : String) (handler : Nat) (client : RealtimeClient) : RealtimeClient :=
  if client.isSubscribed channelId then
    { client with subscriptions := client.subscriptions.map fun (key, handlers) =>
        (key, if key = channelId then insert handler handlers else handlers) }
  else
    { client with
      subscriptions := client.subscriptions ++ [(channelId, {handler})]
      spawned := if client.ws.isSome then client.spawned ++ [(.subscribe, channelId)] else client.spawned }

/-- The function that `subscribe` returned. -/
def unsubscribe (channelId : String) (handler : Nat) (client : RealtimeClient) : RealtimeClient :=
  match client.subscriptions.lookup channelId with
  | none => client
  | some handlers =>
    if handlers.erase handler = ∅ then
      { client with
        subscriptions := client.subscriptions.filter fun (key, _) => key ≠ channelId
        spawned := if client.ws.isSome then client.spawned ++ [(.unsub, channelId)] else client.spawned }
    else
      { client with subscriptions := client.subscriptions.map fun (key, others) =>
          (key, if key = channelId then handlers.erase handler else others) }

/-- A task left by `subscribe` or its result comes to `_send`, which raises without a connection. -/
def start (opcode : Opcode) (channelId : String) (client : RealtimeClient) : RealtimeClient :=
  match client.ws with
  | none => client
  | some _ => join { task := .application, raw := frame config opcode channelId "" } client

def sendOrQueue (opcode : Opcode) (channelId payload : String) (client : RealtimeClient) : RealtimeClient :=
  let call : Call := ⟨opcode, channelId, payload⟩
  let client' := { client with calls := client.calls ++ [call] }
  match client.ws with
  | some _ => join ⟨.application, some client.calls.length, callFrame config call⟩ client'
  | none => { client' with pendingSends := client.pendingSends ++ [(client.calls.length, call)] }

/-- The `async with` is left, by an exception that the task catches or at the end of the messages. -/
def lost (code : Option Nat) (client : RealtimeClient) : RealtimeClient :=
  { cancelHeartbeat client with
    ws := none
    connection :=
      if code = some wsCloseCodeAuthFailed then .idle
      else if client.closedByUser || !config.reconnect then .idle
      else .sleeping }

def aborted (client : RealtimeClient) : RealtimeClient :=
  { cancelHeartbeat client with ws := none, connection := .idle }

def flush : List (Nat × Call) → RealtimeClient → RealtimeClient
  | [], client => { client with connection := .receiving, heartbeatTask := client.ws }
  | (i, call) :: rest, client =>
    join ⟨.connection, some i, callFrame config call⟩ { client with connection := .flushing rest }

def resubscribe : List String → RealtimeClient → RealtimeClient
  | [], client => flush config client.pendingSends { client with pendingSends := [] }
  | channelId :: rest, client =>
    join { task := .connection, raw := frame config .subscribe channelId "" }
      { client with connection := .resubscribing rest }

/-- What follows a `_send` of the connection task. -/
def proceed (client : RealtimeClient) : RealtimeClient :=
  match client.connection with
  | .authenticating => resubscribe config (client.subscriptions.map (·.1)) client
  | .resubscribing rest => resubscribe config rest client
  | .flushing rest => flush config rest client
  | _ => client

def connected (client : RealtimeClient) : RealtimeClient :=
  join (authSender config) { client with
    sockets := client.sockets ++ [.opened]
    ws := some client.sockets.length
    connection := .authenticating }

/-- `_send` raises. The connection task catches what a socket raises, a heartbeat nothing. -/
def raises (code : Option Nat) (client : RealtimeClient) : Task → RealtimeClient
  | .connection => lost config code client
  | .heartbeat w =>
    { client with heartbeatTask := if client.heartbeatTask = some w then none else client.heartbeatTask }
  | .application => client

/-- The first of the line has the lock and comes to `self._ws.send`. -/
def acquire (sender : Sender) (client : RealtimeClient) : RealtimeClient :=
  match client.ws with
  -- Only the connection task clears `_ws`, so it is another that finds it cleared here.
  | none => raises config none client sender.task
  | some w =>
    match client.sockets[w]? with
    | some (.closed code) => raises config code client sender.task
    | _ => { client with holder := some (w, sender), written := client.written ++ [(w, sender)] }

def sent (sender : Sender) (client : RealtimeClient) : RealtimeClient :=
  if sender.task = .connection then proceed config client else client

def beats (w : Nat) (client : RealtimeClient) : Bool :=
  (client.waiting ++ (client.holder.map (·.2)).toList).any fun sender => sender.task = .heartbeat w

def step : Step RealtimeClient Event
  | client, .connect =>
    match client.connection with
    | .idle => some { client with closedByUser := false, connection := .connecting }
    | _ => none
  | client, .disconnect => some client.disconnect
  | client, .cancelled => if client.disconnecting then some client.cancelled else none
  | client, .subscribe channelId handler => some (client.subscribe channelId handler)
  | client, .unsubscribe channelId handler => some (client.unsubscribe channelId handler)
  | client, .start i => client.spawned[i]?.map fun (opcode, channelId) =>
    start config opcode channelId { client with spawned := client.spawned.eraseIdx i }
  | client, .publish channelId payload => some (client.sendOrQueue config .publish channelId payload)
  | client, .unicast userId payload => some (client.sendOrQueue config .unicast userId payload)
  | client, .replay channelId sinceUnixSecs =>
    some (client.sendOrQueue config .replay channelId (toString sinceUnixSecs))
  | client, .abandon i => client.waiting[i]?.bind fun sender =>
    if sender.task = .application then some { client with waiting := client.waiting.eraseIdx i } else none
  | client, .acquire =>
    match client.holder, client.waiting with
    | none, sender :: rest => some (acquire config sender { client with waiting := rest })
    | _, _ => none
  | client, .sent => client.holder.map fun (_, sender) => sent config sender { client with holder := none }
  | client, .failed => client.holder.bind fun (w, sender) =>
    match client.sockets[w]? with
    | some (.closed code) => some (raises config code { client with holder := none } sender.task)
    | _ => none
  | client, .connected =>
    match client.connection with
    | .connecting => some (client.connected config)
    | _ => none
  | client, .connectFailed caught =>
    match client.connection with
    | .connecting => some (if caught then lost config none client else client.aborted)
    | _ => none
  | client, .closes w code =>
    if client.sockets[w]? = some .opened then some { client with sockets := client.sockets.set w (.closed code) }
    else none
  | client, .ended =>
    match client.connection, client.ws.bind fun w => client.sockets[w]? with
    | .receiving, some (.closed code) => some (lost config code client)
    | _, _ => none
  | client, .handlerRaised =>
    match client.connection with
    | .receiving => some client.aborted
    | _ => none
  | client, .wake =>
    match client.connection with
    | .sleeping => some { client with connection := .connecting }
    | _ => none
  | client, .beat => client.heartbeatTask.bind fun w =>
    if client.beats w ∨ client.ws = none then none
    else some (join { task := .heartbeat w, raw := frame config .ping "" "" } client)

end RealtimeClient
end RealtimePlatform.Sdk.Python
