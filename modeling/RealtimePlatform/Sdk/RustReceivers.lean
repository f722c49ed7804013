import RealtimePlatform.Library.Broadcast
import RealtimePlatform.Sdk.RustProtocol
import Mathlib.Logic.Function.Basic

/-!
# The receivers of the Rust client

`channels` maps a name to the sender of its bus. A call of `subscribe` takes the sender, entering it first
if there is none, and attaches a receiver to its bus later; in between the name may have been removed. A
dispatch looks the channel id up and then goes through the map shard by shard, each under its lock; between
these the names may change. The receiver of a call carries the number of the call, the buses the numbers in
which they were made.
-/

namespace RealtimePlatform.Sdk.Rust
open Library
open Backend (Uuid)

structure RealtimeMessage where
  channelId : String
  payload : String
  tenantId : Uuid
  deriving DecidableEq

inductive Subscribing where
  | holding (bus : Nat)
  | attached (bus : Nat)

/-- The shards of a `DashMap`. -/
structure Shards where
  count : Nat
  of : String → Nat
  of_lt (name : String) : of name < count

structure Receivers where
  channels : Table String Nat := ∅
  buses : Nat → Bus Nat RealtimeMessage := fun _ => Bus.new
  next : Nat := 0
  calls : Nat → Option Subscribing := fun _ => none
  /-- The frame whose dispatch is in its loop, and the shard that comes next. -/
  dispatching : Option (DecodedFrame × Nat) := none

inductive ReceiverEvent where
  | enter (call : Nat) (channelId : String)
  | attach (call : Nat)
  | unsubscribe (channelId : String)
  | incoming (bytes : List UInt8)
  | visit (frame : DecodedFrame) (shard : Nat)
  deriving DecidableEq

namespace Receivers

/-- The bus of a name, made if there is none. -/
def entry (channelId : String) (hub : Receivers) : Nat × Receivers :=
  match hub.channels.lookup channelId with
  | some bus => (bus, hub)
  | none =>
    (hub.next, { hub with channels := hub.channels.insert channelId hub.next, next := hub.next + 1 })

def sendTo (bus : Nat) (message : RealtimeMessage) (hub : Receivers) : Receivers :=
  { hub with buses := Function.update hub.buses bus ((hub.buses bus).send message).2 }

def isPattern (name : String) : Bool := name.toList.contains '*'

def messageOf (frame : DecodedFrame) : RealtimeMessage := ⟨frame.channelId, frame.payload, frame.tenantId⟩

def sendNamed (frame : DecodedFrame) (hub : Receivers) : Receivers :=
  match hub.channels.lookup frame.channelId with
  | some bus => hub.sendTo bus (messageOf frame)
  | none => hub

def sendMatching (shards : Shards) (frame : DecodedFrame) (shard : Nat) (hub : Receivers) : Receivers :=
  hub.channels.entries.foldl (fun (hub : Receivers) entry =>
    if shards.of entry.1 = shard && (isPattern entry.1 && globMatch entry.1 frame.channelId) then
      hub.sendTo entry.2 (messageOf frame)
    else hub) hub

def nextShard (shards : Shards) (frame : DecodedFrame) (shard : Nat) : Option (DecodedFrame × Nat) :=
  if shard + 1 < shards.count then some (frame, shard + 1) else none

/-- One task reads the socket, so a buffer is taken when the dispatch of the one before is over. -/
def step (shards : Shards) (hub : Receivers) : ReceiverEvent → Option Receivers
  | .enter call channelId =>
    match hub.calls call with
    | some _ => none
    | none =>
      let (bus, hub) := hub.entry channelId
      some { hub with calls := Function.update hub.calls call (some (.holding bus)) }
  | .attach call =>
    match hub.calls call with
    | some (.holding bus) =>
      some { hub with
        buses := Function.update hub.buses bus ((hub.buses bus).subscribe call)
        calls := Function.update hub.calls call (some (.attached bus)) }
    | _ => none
  | .unsubscribe channelId => some { hub with channels := hub.channels.erase channelId }
  | .incoming bytes =>
    if hub.dispatching.isSome then none
    else match decodeFrame bytes with
    | .ok frame => some { hub.sendNamed frame with dispatching := some (frame, 0) }
    | .error _ => some hub
  | .visit frame shard =>
    if hub.dispatching = some (frame, shard) then
      some { hub.sendMatching shards frame shard with dispatching := nextShard shards frame shard }
    else none

/-- Everything sent to the receiver that a call has returned. -/
def log (hub : Receivers) (call : Nat) : Option (List RealtimeMessage) :=
  match hub.calls call with
  | some (.attached bus) => (hub.buses bus).sent call
  | _ => none

def byName (name : String) (frame : DecodedFrame) : List RealtimeMessage :=
  if frame.channelId = name then [messageOf frame] else []

def byPattern (name : String) (frame : DecodedFrame) : List RealtimeMessage :=
  if isPattern name && globMatch name frame.channelId then [messageOf frame] else []

/-- What the loop of a dispatch has still to send to the bus under a name. -/
def owed (shards : Shards) (name : String) (hub : Receivers) : List RealtimeMessage :=
  match hub.dispatching with
  | some (frame, shard) => if shard ≤ shards.of name then byPattern name frame else []
  | none => []

end Receivers

open Receivers

/-- What a name is due of a buffer. -/
def due (name : String) (bytes : List UInt8) : List RealtimeMessage :=
  match decodeFrame bytes with
  | .error _ => []
  | .ok frame => byName name frame ++ byPattern name frame

def ReceiverEvent.due (name : String) : ReceiverEvent → List RealtimeMessage
  | incoming bytes => Rust.due name bytes
  | _ => []

/-- What a step sends to the bus under a name. -/
def ReceiverEvent.delivered (shards : Shards) (name : String) : ReceiverEvent → List RealtimeMessage
  | incoming bytes =>
    match decodeFrame bytes with
    | .error _ => []
    | .ok frame => byName name frame
  | visit frame shard => if shards.of name = shard then byPattern name frame else []
  | _ => []

end RealtimePlatform.Sdk.Rust
