import RealtimePlatform.Backend.Frame
import RealtimePlatform.Library.Table
import RealtimePlatform.Library.Transition
import Mathlib.Data.Finset.Basic

/-!
# The Android client

Calls come from any thread, openings of a socket and heartbeats from the one thread of the scheduler, and
the callbacks of a socket from OkHttp. A call that sends takes the current socket first and hands its frame
over later, and so does the opening of a socket with its token; every other call and callback is one step.
Of OkHttp: a socket is created before it opens, `send` queues unless the client has closed the socket or it
has ended, a close by the server is reported by `onClosing`, which the listener does not override, and by
`onClosed` only when the client has closed the socket as well. Delays are left out.
-/

namespace RealtimePlatform.Sdk.Kotlin
open Library
open Backend (Opcode Uuid RawFrame FrameBuilder)

def wsCloseCodeAuthFailed : Nat := 4001

/-- Exactly one of `token` and `tokenProvider`. -/
inductive Credentials where
  | token (token : String)
  | tokenProvider

structure RealtimeClientConfig where
  tenantId : Uuid
  credentials : Credentials
  reconnect : Bool := true

inductive ConnectionEvent where
  | opened
  | closed (code : Nat) (reason : String)
  | error
  | authenticated
  | authFailed (code : Nat) (reason : String)
  deriving DecidableEq

/-- How far `onOpen` has come. -/
inductive Stage where
  | connecting
  | greeting (ahead passed : Finset String)
  | opened
  deriving DecidableEq

structure Socket where
  token : String
  frames : List RawFrame := []
  stage : Stage := .connecting
  clientClosed : Bool := false
  peerClosed : Option (Nat × String) := none
  closed : Bool := false
  failed : Bool := false

namespace Socket

/-- Whether `send` returns false. -/
def refuses (socket : Socket) : Bool := socket.clientClosed || socket.closed || socket.failed

def send (raw : RawFrame) (socket : Socket) : Socket :=
  if socket.refuses then socket else { socket with frames := socket.frames ++ [raw] }

def close (socket : Socket) : Socket := { socket with clientClosed := true }

end Socket

inductive Entry where
  | connectCalled
  | scheduled
  | attempt (w : Nat)
  | serverClosed (w : Nat) (code : Nat)
  | emitted (w : Option Nat) (event : ConnectionEvent)
  deriving DecidableEq

inductive Scheduler where
  | idle
  | resolving
  | creating (token : String)

structure RealtimeClient where
  closedByUser : Bool := true
  reconnectAttempt : Nat := 0
  sockets : List Socket := []
  webSocket : Option Nat := none
  heartbeatFuture : Option Nat := none
  subscriptions : Table String (Finset Nat) := ∅
  handed : List (Nat × RawFrame) := []
  queued : Nat := 0
  timers : Nat := 0
  scheduler : Scheduler := .idle
  journal : List Entry := []

inductive Event where
  | connect
  | disconnect
  | subscribe (channelId : String) (listener : Nat) (met : Bool)
  | unsubscribe (channelId : String) (listener : Nat)
  | publish (channelId payload : String)
  | unicast (userId payload : String)
  | replay (channelId : String) (sinceUnixSeconds : Int)
  | handOver (i : Nat)
  | runQueued
  | timer
  | provided (token : Option String)
  | create
  | heartbeat
  | onOpen (w : Nat)
  | resubscribe (w : Nat) (channelId : String)
  | opened (w : Nat)
  | peerCloses (w : Nat) (code : Nat) (reason : String)
  | onClosed (w : Nat)
  | onFailure (w : Nat)

/-- Whether a replay under way comes to a key that is entered now. -/
def Stage.enter (channelId : String) (met : Bool) : Stage → Stage
  | .greeting ahead passed =>
    if met ∧ channelId ∉ passed then .greeting (insert channelId ahead) passed else .greeting ahead passed
  | stage => stage

def Stage.leave (channelId : String) : Stage → Stage
  | .greeting ahead passed => .greeting (ahead.erase channelId) passed
  | stage => stage

namespace RealtimeClient
variable (config : RealtimeClientConfig)

def frame (opcode : Opcode) (channelId payload : String) : RawFrame :=
  FrameBuilder.build { opcode, tenantId := config.tenantId, channelId, payload }

def update (w : Nat) (socket : Socket) (client : RealtimeClient) : RealtimeClient :=
  { client with sockets := client.sockets.set w socket }

def send (w : Nat) (raw : RawFrame) (client : RealtimeClient) : RealtimeClient :=
  { client with sockets := client.sockets.modify w (Socket.send raw) }

def note (entries : List Entry) (client : RealtimeClient) : RealtimeClient :=
  { client with journal := client.journal ++ entries }

def connect (client : RealtimeClient) : RealtimeClient :=
  note [.connectCalled] { client with closedByUser := false, queued := client.queued + 1 }

def disconnect (client : RealtimeClient) : RealtimeClient :=
  { client with
    closedByUser := true
    heartbeatFuture := none
    sockets := match client.webSocket with
      | some w => client.sockets.modify w Socket.close
      | none => client.sockets
    webSocket := none }

/-- `webSocket?.let { send(it, …) }`, up to the send. -/
def take (raw : RawFrame) (client : RealtimeClient) : RealtimeClient :=
  match client.webSocket with
  | some w => { client with handed := client.handed ++ [(w, raw)] }
  | none => client

def subscribe (channelId : String) (listener : Nat) (met : Bool) (client : RealtimeClient) : RealtimeClient :=
  match AList.lookup channelId client.subscriptions with
  | some listeners =>
    { client with subscriptions := AList.insert channelId (insert listener listeners) client.subscriptions }
  | none =>
    take (frame config .subscribe channelId "") { client with
      subscriptions := AList.insert channelId {listener} client.subscriptions
      sockets := client.sockets.map fun socket =>
        { socket with stage := socket.stage.enter channelId met } }

/-- `close` of what `subscribe` returned. -/
def unsubscribe (channelId : String) (listener : Nat) (client : RealtimeClient) : RealtimeClient :=
  match AList.lookup channelId client.subscriptions with
  | none => client
  | some listeners =>
    if listeners.erase listener = ∅ then
      take (frame config .unsub channelId "") { client with
        subscriptions := AList.erase channelId client.subscriptions
        sockets := client.sockets.map fun socket => { socket with stage := socket.stage.leave channelId } }
    else
      { client with
        subscriptions := AList.insert channelId (listeners.erase listener) client.subscriptions }

-- With no socket the call throws, and nothing has happened.
def sendOrThrow (opcode : Opcode) (channelId payload : String) (client : RealtimeClient) : RealtimeClient :=
  take (frame config opcode channelId payload) client

def openSocket (client : RealtimeClient) : RealtimeClient :=
  match config.credentials with
  | .tokenProvider => { client with scheduler := .resolving }
  | .token token => { client with scheduler := .creating token }

def scheduleReconnect (client : RealtimeClient) : RealtimeClient :=
  if client.closedByUser || !config.reconnect then client
  else note [.scheduled]
    { client with reconnectAttempt := client.reconnectAttempt + 1, timers := client.timers + 1 }

def provided (fresh : Option String) (client : RealtimeClient) : RealtimeClient :=
  match fresh with
  | none => scheduleReconnect config (note [.emitted none .error] { client with scheduler := .idle })
  | some token =>
    { client with scheduler := if client.closedByUser then .idle else .creating token }

def create (token : String) (client : RealtimeClient) : RealtimeClient :=
  note [.attempt client.sockets.length] { client with
    scheduler := .idle
    sockets := client.sockets ++ [{ token }]
    webSocket := some client.sockets.length }

def onOpen (w : Nat) (socket : Socket) (client : RealtimeClient) : RealtimeClient :=
  update w (({ socket with
    stage := .greeting client.subscriptions.keys.toFinset ∅ } : Socket).send (frame config .auth "" socket.token))
    { client with reconnectAttempt := 0 }

def opened (w : Nat) (socket : Socket) (client : RealtimeClient) : RealtimeClient :=
  note [.emitted w .opened, .emitted w .authenticated]
    (update w { socket with stage := .opened } { client with heartbeatFuture := some w })

def onClosed (w : Nat) (socket : Socket) (code : Nat) (reason : String) (client : RealtimeClient) :
    RealtimeClient :=
  let client := note [.emitted w (.closed code reason)]
    (update w { socket with closed := true } { client with heartbeatFuture := none, webSocket := none })
  if code = wsCloseCodeAuthFailed then
    let client := note [.emitted w (.authFailed code reason)] client
    match config.credentials with
    | .token _ => client
    | .tokenProvider => scheduleReconnect config client
  else scheduleReconnect config client

def onFailure (w : Nat) (socket : Socket) (client : RealtimeClient) : RealtimeClient :=
  scheduleReconnect config (note [.emitted w .error]
    (update w { socket with failed := true } { client with heartbeatFuture := none, webSocket := none }))

def step : Step RealtimeClient Event
  | client, .connect => some client.connect
  | client, .disconnect => some client.disconnect
  | client, .subscribe channelId listener met => some (client.subscribe config channelId listener met)
  | client, .unsubscribe channelId listener => some (client.unsubscribe config channelId listener)
  | client, .publish channelId payload => some (client.sendOrThrow config .publish channelId payload)
  | client, .unicast userId payload => some (client.sendOrThrow config .unicast userId payload)
  | client, .replay channelId sinceUnixSeconds =>
    some (client.sendOrThrow config .replay channelId (toString sinceUnixSeconds))
  | client, .handOver i =>
    client.handed[i]?.map fun (w, raw) => send w raw { client with handed := client.handed.eraseIdx i }
  | client, .runQueued =>
    match client.scheduler, client.queued with
    | .idle, queued + 1 => some (openSocket config { client with queued })
    | _, _ => none
  | client, .timer =>
    match client.scheduler, client.timers with
    | .idle, timers + 1 =>
      some (if client.closedByUser then { client with timers } else openSocket config { client with timers })
    | _, _ => none
  | client, .provided token =>
    match client.scheduler with
    | .resolving => some (client.provided config token)
    | _ => none
  | client, .create =>
    match client.scheduler with
    | .creating token => some (client.create token)
    | _ => none
  | client, .heartbeat =>
    match client.scheduler, client.heartbeatFuture with
    | .idle, some w => some (send w (frame config .ping "" "") client)
    | _, _ => none
  | client, .onOpen w => client.sockets[w]?.bind fun socket =>
    if socket.stage = .connecting ∧ !socket.closed ∧ !socket.failed then some (client.onOpen config w socket)
    else none
  | client, .resubscribe w channelId => client.sockets[w]?.bind fun socket =>
    match socket.stage with
    | .greeting ahead passed =>
      if channelId ∈ ahead then some (update w (({ socket with
        stage := .greeting (ahead.erase channelId) (insert channelId passed) } : Socket).send
          (frame config .subscribe channelId "")) client)
      else none
    | _ => none
  | client, .opened w => client.sockets[w]?.bind fun socket =>
    match socket.stage with
    | .greeting ahead _ => if ahead = ∅ then some (client.opened w socket) else none
    | _ => none
  | client, .peerCloses w code reason => client.sockets[w]?.bind fun socket =>
    if socket.stage = .opened ∧ socket.peerClosed = none ∧ !socket.failed then
      some (note [.serverClosed w code] (update w { socket with peerClosed := some (code, reason) } client))
    else none
  | client, .onClosed w => client.sockets[w]?.bind fun socket =>
    match socket.peerClosed with
    | some (code, reason) =>
      if socket.clientClosed ∧ !socket.closed ∧ !socket.failed then
        some (client.onClosed config w socket code reason)
      else none
    | none => none
  | client, .onFailure w => client.sockets[w]?.bind fun socket =>
    if !socket.closed ∧ !socket.failed then some (client.onFailure config w socket) else none

end RealtimeClient
end RealtimePlatform.Sdk.Kotlin
