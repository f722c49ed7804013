import RealtimePlatform.Backend.RouterRuns
import RealtimePlatform.Library.Transition

/-!
# The ring buffer and the stream

A router with a history port, the background writer of the port and the store that other instances write to as
well. An XADD whose reply is lost has been applied and counts as written.
-/

namespace RealtimePlatform.Backend
open Library

structure DurableHistory (α : Type*) where
  router : ChannelRouterService α
  redis : RedisStreams α
  writing : Option (ChannelKey × α)
  readable : Bool

inductive HistoryEvent (α : Type*) where
  | call (e : RouterCall α)
  | take
  | written (id : Nat × Nat) (evicted : Nat)
  | writeFailed
  | writtenElsewhere (key : ChannelKey) (id : Nat × Nat) (evicted : Nat) (frame : α)
  /-- From here on `XRANGE` succeeds, or fails. -/
  | readable (answers : Bool)

namespace DurableHistory
open ChannelRouterService
variable {α : Type*}

def start (capacity : Nat) : DurableHistory α :=
  ⟨(withHistoryCapacity capacity).withHistoryPort, fun _ => [], none, true⟩

def takeStep (d : DurableHistory α) : Option (DurableHistory α) :=
  match d.writing, d.router.historyPort with
  | none, some ⟨next :: rest⟩ =>
    some { d with router := { d.router with historyPort := some ⟨rest⟩ }, writing := some next }
  | _, _ => none

def step (maxlen : Nat) (d : DurableHistory α) : HistoryEvent α → Option (DurableHistory α)
  | .call e => some { d with router := d.router.apply e }
  | .take => d.takeStep
  | .written id evicted => d.writing.bind fun w =>
    (d.redis.xadd maxlen evicted w.1 id w.2).map fun redis => { d with redis := redis, writing := none }
  | .writeFailed => d.writing.map fun _ => { d with writing := none }
  | .writtenElsewhere key id evicted frame =>
    (d.redis.xadd maxlen evicted key id frame).map fun redis => { d with redis := redis }
  | .readable answers => some { d with readable := answers }

/-- What `XRANGE` finds: an error reads as no entries. -/
def read (d : DurableHistory α) : RedisStreams α := if d.readable then d.redis else fun _ => []

def replay (d : DurableHistory α) (key : ChannelKey) (sinceUnixSecs : Nat) : Except RouterError (List α) :=
  (d.router.replay d.read key.tenantId key sinceUnixSecs).1

end DurableHistory
end RealtimePlatform.Backend
