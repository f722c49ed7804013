import RealtimePlatform.Backend.Frame
import RealtimePlatform.Library.Transition
import Mathlib.Data.Finset.Basic

/-!
# The Rust client

The handle puts frames on a command channel; a background task connects, replays the map of channels and
then writes what the command channel holds. The frames of the server and the receivers of a channel are
left out. `channels` is iterated while it may change, so a key that is entered during the replay may or may
not be met by it.
-/

namespace RealtimePlatform.Sdk.Rust
open Library
open Backend (Opcode Uuid RawFrame FrameBuilder)

structure ClientConfig where
  tenantId : Uuid
  token : String
  reconnect : Bool := true

inductive ClientError where
  | notConnected

inductive Task where
  | connecting
  | resubscribing (ahead passed : Finset String)
  | serving
  | ended
  deriving DecidableEq

/-- Whether the replay under way comes to a key that is entered now. -/
def Task.enter (channelId : String) (met : Bool) : Task → Task
  | .resubscribing ahead passed =>
    if met ∧ channelId ∉ passed then .resubscribing (insert channelId ahead) passed
    else .resubscribing ahead passed
  | task => task

def Task.leave (channelId : String) : Task → Task
  | .resubscribing ahead passed => .resubscribing (ahead.erase channelId) passed
  | task => task

structure RealtimeClient where
  commands : List RawFrame := []
  channels : Finset String := ∅
  task : Task := .connecting
  held : Bool := true
  written : List RawFrame := []
  past : List (List RawFrame) := []

inductive Event where
  | publish (channelId payload : String)
  | unicast (userId payload : String)
  | replay (channelId : String) (sinceUnixSecs : Nat)
  | subscribe (channelId : String) (met : Bool)
  | unsubscribe (channelId : String)
  | disconnect
  | connectFailed
  | connected (sent : Bool)
  | resubscribe (channelId : String) (sent : Bool)
  | resubscribed
  | heartbeat (sent : Bool)
  | command (sent : Bool)
  | lost

namespace RealtimeClient
variable (config : ClientConfig)

def authFrame : RawFrame :=
  FrameBuilder.build { opcode := .auth, tenantId := config.tenantId, payload := config.token }

def subFrame (channelId : String) : RawFrame :=
  FrameBuilder.build { opcode := .subscribe, tenantId := config.tenantId, channelId }

def pingFrame : RawFrame := FrameBuilder.build { opcode := .ping, tenantId := config.tenantId }

def sendFrame (opcode : Opcode) (channelId payload : String) (client : RealtimeClient) :
    Except ClientError Unit × RealtimeClient :=
  if client.task = .ended then (.error .notConnected, client)
  else (.ok (), { client with commands := client.commands ++
    [FrameBuilder.build { opcode, tenantId := config.tenantId, channelId, payload }] })

-- An error of `send_frame` is only logged.
def subscribe (channelId : String) (met : Bool) (client : RealtimeClient) : RealtimeClient :=
  (sendFrame config .subscribe channelId ""
    (if channelId ∈ client.channels then client
    else { client with
      channels := insert channelId client.channels
      task := Task.enter channelId met client.task })).2

def unsubscribe (channelId : String) (client : RealtimeClient) : Except ClientError Unit × RealtimeClient :=
  sendFrame config .unsub channelId "" { client with
    channels := client.channels.erase channelId
    task := Task.leave channelId client.task }

def disconnect (client : RealtimeClient) : RealtimeClient :=
  { client with held := false, task := .ended, commands := [] }

/-- Out of `handle_connection`, or of a failed attempt to connect. -/
def again (client : RealtimeClient) : RealtimeClient :=
  if config.reconnect then
    { client with task := .connecting, written := [], past := client.past ++ [client.written] }
  else { client with task := .ended, commands := [] }

def write (raw : RawFrame) (sent : Bool) (client : RealtimeClient) : RealtimeClient :=
  if sent then { client with written := client.written ++ [raw] } else client.again config

def connected (sent : Bool) (client : RealtimeClient) : RealtimeClient :=
  write config (authFrame config) sent { client with task := .resubscribing client.channels ∅ }

def step : Step RealtimeClient Event
  | client, .publish channelId payload =>
    if client.held then some (sendFrame config .publish channelId payload client).2 else none
  | client, .unicast userId payload =>
    if client.held then some (sendFrame config .unicast userId payload client).2 else none
  | client, .replay channelId sinceUnixSecs =>
    if client.held then some (sendFrame config .replay channelId (toString sinceUnixSecs) client).2 else none
  | client, .subscribe channelId met =>
    if client.held then some (client.subscribe config channelId met) else none
  | client, .unsubscribe channelId =>
    if client.held then some (client.unsubscribe config channelId).2 else none
  | client, .disconnect => if client.held then some client.disconnect else none
  | client, .connectFailed =>
    match client.task with
    | .connecting => some (if config.reconnect then client else { client with task := .ended, commands := [] })
    | _ => none
  | client, .connected sent =>
    match client.task with
    | .connecting => some (client.connected config sent)
    | _ => none
  | client, .resubscribe channelId sent =>
    match client.task with
    | .resubscribing ahead passed =>
      if channelId ∈ ahead then some (write config (subFrame config channelId) sent { client with
        task := .resubscribing (ahead.erase channelId) (insert channelId passed) })
      else none
    | _ => none
  | client, .resubscribed =>
    match client.task with
    | .resubscribing ahead _ => if ahead = ∅ then some { client with task := .serving } else none
    | _ => none
  | client, .heartbeat sent =>
    match client.task with
    | .serving => some (write config (pingFrame config) sent client)
    | _ => none
  | client, .command sent =>
    match client.task, client.commands with
    | .serving, raw :: commands => some (write config raw sent { client with commands })
    | _, _ => none
  | client, .lost =>
    match client.task with
    | .serving => some (client.again config)
    | _ => none

end RealtimeClient

def names (channelId : String) (raw : RawFrame) : Bool :=
  decodeText (raw.slice Backend.offChannel Backend.lenChannel) = some channelId

def uncancelled (channelId : String) (count : Nat) (written : List RawFrame) : Nat :=
  written.foldl (fun count raw =>
    if names channelId raw then
      match Opcode.tryFrom (raw.byteAt Backend.offOpcode) with
      | .ok .subscribe => count + 1
      | .ok .unsub => 0
      | _ => count
    else count) count

end RealtimePlatform.Sdk.Rust
