import RealtimePlatform.Backend.Frame
import RealtimePlatform.Library.Indexed
import RealtimePlatform.Library.Table
import RealtimePlatform.Library.Transition

/-!
# The listeners of the Android client, step by step

Any number of threads are inside `subscribe` or close what it returned, each step being one call on the
`ConcurrentHashMap` or on a `CopyOnWriteArraySet`. The sets are told apart by number, so that one that is no
longer in the map may still be held. The socket is there, or not, all the time.
-/

namespace RealtimePlatform.Sdk.Kotlin
open Library
open Backend (Opcode)

/-- Where a call of `subscribe` stands, with what it has read. -/
inductive Subscribing where
  | called
  | checked (isNewChannel : Bool)
  -- `getOrPut` is a `get`, and a `putIfAbsent` where it has found nothing.
  | missed (isNewChannel : Bool)
  | holding (isNewChannel : Bool) (listeners : Nat)
  | added (isNewChannel : Bool)
  | returned
  deriving DecidableEq

/-- Where a call of `close` stands. -/
inductive Closing where
  | called
  | found (current : Nat)
  | removed (current : Nat)
  | emptied
  | dropped
  | done
  deriving DecidableEq

structure Subscription (η : Type*) where
  channelId : String
  listener : η
  stage : Subscribing := .called

/-- A call of `close` on what the call of `subscribe` with this number has returned. -/
structure Closure (η : Type*) where
  subscription : Nat
  channelId : String
  listener : η
  stage : Closing := .called

structure Registry (η : Type*) where
  webSocket : Bool
  subscriptions : Table String Nat := ∅
  sets : List (List η) := []
  opened : List (Subscription η) := []
  closures : List (Closure η) := []
  frames : List (Opcode × String) := []

/-- A call begins, or the call with this number takes its next step. -/
inductive RegistryEvent (η : Type*) where
  | subscribe (channelId : String) (listener : η)
  | advance (i : Nat)
  | close (i : Nat)
  | proceed (k : Nat)

namespace Registry
variable {η : Type*} [DecidableEq η]

def stored (channelId : String) (r : Registry η) : Option Nat := AList.lookup channelId r.subscriptions

def withListener (listener : η) (listeners : List η) : List η :=
  if listener ∈ listeners then listeners else listeners ++ [listener]

/-- `webSocket?.let { send(it, opcode, channelId, "") }`. -/
def send (opcode : Opcode) (channelId : String) (r : Registry η) : Registry η :=
  if r.webSocket then { r with frames := r.frames ++ [(opcode, channelId)] } else r

def move (i : Nat) (stage : Subscribing) (r : Registry η) : Registry η :=
  { r with opened := r.opened.modify i fun call => { call with stage } }

def moveClosure (k : Nat) (stage : Closing) (r : Registry η) : Registry η :=
  { r with closures := r.closures.modify k fun closure => { closure with stage } }

def advance (i : Nat) (call : Subscription η) (r : Registry η) : Option (Registry η) :=
  match call.stage with
  | .called => some (r.move i (.checked (r.stored call.channelId).isNone))
  | .checked isNewChannel =>
    match r.stored call.channelId with
    | some listeners => some (r.move i (.holding isNewChannel listeners))
    | none => some (r.move i (.missed isNewChannel))
  | .missed isNewChannel =>
    match r.stored call.channelId with
    | some listeners => some (r.move i (.holding isNewChannel listeners))
    | none => some ({ r with
        subscriptions := AList.insert call.channelId r.sets.length r.subscriptions
        sets := r.sets ++ [[]] }.move i (.holding isNewChannel r.sets.length))
  | .holding isNewChannel listeners =>
    some ({ r with sets := r.sets.modify listeners (withListener call.listener) }.move i (.added isNewChannel))
  | .added isNewChannel =>
    some ((if isNewChannel then r.send .subscribe call.channelId else r).move i .returned)
  | .returned => none

def proceed (k : Nat) (closure : Closure η) (r : Registry η) : Option (Registry η) :=
  match closure.stage with
  | .called =>
    match r.stored closure.channelId with
    | some current => some (r.moveClosure k (.found current))
    | none => some (r.moveClosure k .done)
  | .found current =>
    some ({ r with sets := r.sets.modify current fun listeners => listeners.erase closure.listener }.moveClosure k
      (.removed current))
  | .removed current => some (r.moveClosure k (if r.sets[current]? = some [] then .emptied else .done))
  | .emptied =>
    some ({ r with subscriptions := AList.erase closure.channelId r.subscriptions }.moveClosure k .dropped)
  | .dropped => some ((r.send .unsub closure.channelId).moveClosure k .done)
  | .done => none

def step : Step (Registry η) (RegistryEvent η)
  | r, .subscribe channelId listener => some { r with opened := r.opened ++ [{ channelId, listener }] }
  | r, .advance i => r.opened[i]?.bind fun call => r.advance i call
  | r, .close i => r.opened[i]?.bind fun call =>
    if call.stage = .returned then
      some { r with closures := r.closures ++ [{ subscription := i, channelId := call.channelId, listener := call.listener }] }
    else none
  | r, .proceed k => r.closures[k]?.bind fun closure => r.proceed k closure

end Registry
end RealtimePlatform.Sdk.Kotlin
