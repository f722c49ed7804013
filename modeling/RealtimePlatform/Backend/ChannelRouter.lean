import RealtimePlatform.Backend.Entities
import RealtimePlatform.Library.Broadcast

/-!
# Channels, wildcards and histories

The maps of `ChannelStateRepository` are fields of the service. The service is generic in what it
carries, so that nothing here reads a message. `journal` is a ghost: every accepted publish with the
count it returned. Redis Streams are a map from stream keys to entries in the order of their ids; the
background writer of the history adapter is a separate step that empties `outbound`.
-/

namespace RealtimePlatform.Backend
open Library

def channelCapacity : Nat := 256
def defaultHistoryCapacity : Nat := 50
def outboundQueueCapacity : Nat := 4096

structure ReceiverId where
  session : SessionId
  seq : Nat
  deriving DecidableEq

structure WildcardKey where
  tenantId : TenantId
  pattern : String
  deriving DecidableEq

/-- What a receiver was obtained for. -/
inductive Source where
  | channel (key : ChannelKey)
  | wildcard (key : WildcardKey)
  deriving DecidableEq

def Source.tenantId : Source → TenantId
  | channel key => key.tenantId
  | wildcard key => key.tenantId

structure HistoryEntry (α : Type*) where
  timestampSecs : Nat
  frame : α

structure HistoryBuffer (α : Type*) where
  entries : List (HistoryEntry α)
  capacity : Nat

namespace HistoryBuffer
variable {α : Type*}

def new (capacity : Nat) : HistoryBuffer α := ⟨[], capacity⟩

def push (nowSecs : Nat) (frame : α) (buf : HistoryBuffer α) : HistoryBuffer α :=
  let kept := if buf.entries.length = buf.capacity then buf.entries.drop 1 else buf.entries
  { buf with entries := kept ++ [⟨nowSecs, frame⟩] }

def since (buf : HistoryBuffer α) (sinceSecs : Nat) : List α :=
  (buf.entries.filter fun e => sinceSecs < e.timestampSecs).map (·.frame)

def isEmpty (buf : HistoryBuffer α) : Bool := buf.entries.isEmpty

theorem mem_push {nowSecs : Nat} {frame : α} {buf : HistoryBuffer α} {e : HistoryEntry α}
    (member : e ∈ (buf.push nowSecs frame).entries) : e ∈ buf.entries ∨ e = ⟨nowSecs, frame⟩ := by
  rcases List.mem_append.mp member with kept | last
  · left
    split at kept
    · exact List.mem_of_mem_drop kept
    · exact kept
  · exact Or.inr (List.mem_singleton.mp last)

theorem mem_since {buf : HistoryBuffer α} {sinceSecs : Nat} {frame : α}
    (member : frame ∈ buf.since sinceSecs) : ∃ e ∈ buf.entries, e.frame = frame := by
  obtain ⟨e, kept, same⟩ := List.mem_map.mp member
  exact ⟨e, (List.mem_filter.mp kept).1, same⟩

end HistoryBuffer

structure ChannelState (α : Type*) where
  sender : Bus ReceiverId α
  history : HistoryBuffer α

structure StreamEntry (α : Type*) where
  id : Nat × Nat
  frame : α

abbrev RedisStreams (α : Type*) := String → List (StreamEntry α)

structure RedisStreamsHistoryAdapter (α : Type*) where
  outbound : List (ChannelKey × α)

def streamKey (key : ChannelKey) : String :=
  "rt:history:" ++ String.ofList key.tenantId.toText ++ ":" ++ key.channelId

/-- The order of stream ids `<ms>-<seq>`. -/
def idBefore (a b : Nat × Nat) : Bool := a.1 < b.1 || (a.1 == b.1 && a.2 < b.2)

namespace RedisStreamsHistoryAdapter
variable {α : Type*}

def persist (key : ChannelKey) (frame : α) (port : RedisStreamsHistoryAdapter α) :
    RedisStreamsHistoryAdapter α :=
  if port.outbound.length < outboundQueueCapacity then ⟨port.outbound ++ [(key, frame)]⟩ else port

-- The product wraps as a `u64` of the release build does.
def since (redis : RedisStreams α) (key : ChannelKey) (sinceUnixSecs : Nat) : List α :=
  let entries := redis (streamKey key)
  let kept := if sinceUnixSecs = 0 then entries
    else entries.filter fun e => idBefore (sinceUnixSecs * 1000 % 2 ^ 64, 0) e.id
  kept.map (·.frame)

theorem mem_since {redis : RedisStreams α} {key : ChannelKey} {sinceUnixSecs : Nat} {frame : α}
    (member : frame ∈ since redis key sinceUnixSecs) :
    ∃ e ∈ redis (streamKey key), e.frame = frame := by
  obtain ⟨e, kept, same⟩ := List.mem_map.mp member
  refine ⟨e, ?_, same⟩
  split at kept
  · exact kept
  · exact (List.mem_filter.mp kept).1

end RedisStreamsHistoryAdapter

/-- `XADD` with an approximate `MAXLEN`: a fresh id at the end, and the oldest entries may go as long
as `maxlen` of them stay. -/
def RedisStreams.xadd {α : Type*} (maxlen evicted : Nat) (key : ChannelKey) (id : Nat × Nat) (frame : α)
    (redis : RedisStreams α) : Option (RedisStreams α) :=
  let entries := redis (streamKey key)
  let grown := entries ++ [StreamEntry.mk id frame]
  if entries.all (fun e => idBefore e.id id) && (evicted == 0 || maxlen + evicted ≤ grown.length)
  then some (Function.update redis (streamKey key) (grown.drop evicted))
  else none

theorem streamKey_injective : Function.Injective streamKey := by
  intro key key' same
  have texts := congrArg String.toList same
  simp only [streamKey, String.toList_append, String.toList_ofList, List.append_assoc,
    List.append_cancel_left_eq] at texts
  obtain ⟨ids, rest⟩ := List.append_inj texts
    (by rw [Uuid.length_toText, Uuid.length_toText])
  have names := String.toList_inj.mp (List.append_cancel_left rest)
  cases key
  cases key'
  simp only [ChannelKey.mk.injEq]
  exact ⟨Uuid.toText_injective ids, names⟩

def globHelper : List UInt8 → List UInt8 → Bool
  | [], c => c.isEmpty
  | p :: ps, c =>
    if p = 42 then (List.range (c.length + 1)).any fun i => globHelper ps (c.drop i)
    else match c with
      | [] => false
      | b :: cs => b == p && globHelper ps cs

def globMatch (pattern candidate : String) : Bool := globHelper (utf8 pattern) (utf8 candidate)

/-- Whether a publish on `key` is sent to the receivers of the source. -/
def Source.matches (key : ChannelKey) : Source → Bool
  | channel own => own = key
  | wildcard own => own.tenantId = key.tenantId && globMatch own.pattern key.channelId

theorem Source.tenantId_of_matches {key : ChannelKey} {source : Source}
    (hit : source.matches key = true) : source.tenantId = key.tenantId := by
  cases source with
  | channel own => exact congrArg ChannelKey.tenantId (of_decide_eq_true hit)
  | wildcard own => exact of_decide_eq_true (Bool.and_eq_true _ _ |>.mp hit).1

inductive RouterError where
  | tenantMismatch (session requested : TenantId)
  deriving DecidableEq

structure ChannelRouterService (α : Type*) where
  channels : Table ChannelKey (ChannelState α)
  wildcards : Table WildcardKey (Bus ReceiverId α)
  historyCapacity : Nat
  historyPort : Option (RedisStreamsHistoryAdapter α)
  journal : List (ChannelKey × α × Nat)

namespace ChannelRouterService
variable {α : Type*}

def withHistoryCapacity (historyCapacity : Nat) : ChannelRouterService α :=
  ⟨∅, ∅, historyCapacity, none, []⟩

def new : ChannelRouterService α := withHistoryCapacity defaultHistoryCapacity

def withHistoryPort (r : ChannelRouterService α) : ChannelRouterService α :=
  { r with historyPort := some ⟨[]⟩ }

def freshChannel (r : ChannelRouterService α) : ChannelState α :=
  ⟨Bus.new, HistoryBuffer.new r.historyCapacity⟩

def getOrCreateChannel (key : ChannelKey) (r : ChannelRouterService α) : ChannelState α :=
  (AList.lookup key r.channels).getD r.freshChannel

def subscribeWildcard (sessionTenant : TenantId) (pattern : String) (rx : ReceiverId)
    (r : ChannelRouterService α) : ChannelRouterService α :=
  { r with wildcards := Table.upsert ⟨sessionTenant, pattern⟩ Bus.new (Bus.subscribe rx) r.wildcards }

def pruneDeadWildcards (r : ChannelRouterService α) : ChannelRouterService α :=
  { r with wildcards := Table.retain (fun _ sender => 0 < sender.receiverCount) r.wildcards }

/-- The receiver `rx` attached to a channel, which is created when absent. -/
def attach (key : ChannelKey) (rx : ReceiverId) (r : ChannelRouterService α) :
    ChannelRouterService α :=
  { r with
    channels := Table.upsert key r.freshChannel
      (fun state => { state with sender := state.sender.subscribe rx }) r.channels }

def subscribe (sessionTenant : TenantId) (key : ChannelKey) (rx : ReceiverId)
    (r : ChannelRouterService α) : Except RouterError (ChannelRouterService α) :=
  if sessionTenant ≠ key.tenantId then .error (.tenantMismatch sessionTenant key.tenantId)
  else .ok (r.attach key rx)

theorem subscribe_own (key : ChannelKey) (rx : ReceiverId) (r : ChannelRouterService α) :
    r.subscribe key.tenantId key rx = .ok (r.attach key rx) := by
  simp [subscribe]

/-- The wildcard senders a publish on `key` goes to. -/
def fanout (key : ChannelKey) (r : ChannelRouterService α) : List (Bus ReceiverId α) :=
  (r.wildcards.entries.filter fun e => (Source.wildcard e.1).matches key).map (·.2)

def delivered (key : ChannelKey) (r : ChannelRouterService α) : Nat :=
  (r.getOrCreateChannel key).sender.receiverCount + ((r.fanout key).map Bus.receiverCount).sum

def publish (publisherTenant : TenantId) (key : ChannelKey) (frame : α) (nowSecs : Nat)
    (r : ChannelRouterService α) : Except RouterError Nat × ChannelRouterService α :=
  if publisherTenant ≠ key.tenantId then (.error (.tenantMismatch publisherTenant key.tenantId), r)
  else
    (.ok (r.delivered key),
      { r with
        channels := Table.upsert key r.freshChannel
          (fun state => ⟨(state.sender.send frame).2, state.history.push nowSecs frame⟩) r.channels
        historyPort := r.historyPort.map (·.persist key frame)
        wildcards := Table.rewrite
          (fun wk sender => if (Source.wildcard wk).matches key then (sender.send frame).2 else sender)
          r.wildcards
        journal := r.journal ++ [(key, frame, r.delivered key)] })

-- Without a history port the lookup creates the channel entry, as `get_or_create_channel` does.
def replay (redis : RedisStreams α) (requesterTenant : TenantId) (key : ChannelKey)
    (sinceUnixSecs : Nat) (r : ChannelRouterService α) :
    Except RouterError (List α) × ChannelRouterService α :=
  if requesterTenant ≠ key.tenantId then (.error (.tenantMismatch requesterTenant key.tenantId), r)
  else match r.historyPort with
    | some _ => (.ok (RedisStreamsHistoryAdapter.since redis key sinceUnixSecs), r)
    | none => (.ok ((r.getOrCreateChannel key).history.since sinceUnixSecs),
        { r with channels := Table.upsert key r.freshChannel id r.channels })

def pruneEmpty (key : ChannelKey) (r : ChannelRouterService α) : ChannelRouterService α :=
  { r with
    channels := Table.retain
      (fun k state => !(k = key && state.sender.receiverCount == 0 && state.history.isEmpty))
      r.channels }

def listForTenant (tenantId : TenantId) (r : ChannelRouterService α) : List (String × Nat) :=
  (r.channels.entries.filter fun entry => entry.1.tenantId = tenantId).map fun entry =>
    (entry.1.channelId, entry.2.sender.receiverCount)

def listChannels (tenantId : TenantId) (r : ChannelRouterService α) : List (String × Nat) :=
  r.listForTenant tenantId

def detach (source : Source) (rx : ReceiverId) (r : ChannelRouterService α) : ChannelRouterService α :=
  match source with
  | .channel key =>
    { r with
      channels := Table.adjust key
        (fun state => { state with sender := state.sender.detach rx }) r.channels }
  | .wildcard key => { r with wildcards := Table.adjust key (Bus.detach rx) r.wildcards }

def bus (r : ChannelRouterService α) : Source → Option (Bus ReceiverId α)
  | .channel key => (AList.lookup key r.channels).map (·.sender)
  | .wildcard key => AList.lookup key r.wildcards

/-- Everything sent to a receiver since it was obtained. -/
def sent (r : ChannelRouterService α) (source : Source) (rx : ReceiverId) : Option (List α) :=
  (r.bus source).bind (·.sent rx)

def receive (r : ChannelRouterService α) (source : Source) (rx : ReceiverId) (next : Nat) :
    Received α :=
  match r.bus source with
  | none => .closed
  | some bus => bus.receive channelCapacity rx next

theorem mem_of_receive {r : ChannelRouterService α} {source : Source} {rx : ReceiverId} {next : Nat}
    {m : α} (got : r.receive source rx next = .message m) :
    ∃ log, r.sent source rx = some log ∧ m ∈ log := by
  unfold receive at got
  split at got
  · cases got
  · rename_i bus found
    obtain ⟨log, attached, member⟩ := Bus.mem_of_receive got
    exact ⟨log, by rw [sent, found, Option.bind_some, attached], member⟩

end ChannelRouterService
end RealtimePlatform.Backend
