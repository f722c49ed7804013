import RealtimePlatform.Sdk.Chunking

/-!
# The TypeScript client

What `RealtimeClient` keeps between two events: the handlers of each subscribed channel or pattern, in
the order of subscription, the chunks that wait for their message, and what to send once the socket opens.
-/

namespace RealtimePlatform.Sdk
open Library Utf16
open Backend (Opcode Uuid)

structure Subscriptions (η : Type*) where
  entries : List (Utf16 × List η)
  distinct : (entries.map (·.1)).Nodup
  registered : ∀ e ∈ entries, e.2 ≠ [] ∧ e.2.Nodup

namespace Subscriptions
variable {η : Type*} [DecidableEq η]

def empty : Subscriptions η := ⟨[], List.nodup_nil, by simp⟩

def keys (s : Subscriptions η) : List Utf16 := s.entries.map (·.1)

def get (key : Utf16) (s : Subscriptions η) : Option (List η) := s.entries.lookup key

/-- `Set.add`. -/
def withHandler (handler : η) (handlers : List η) : List η :=
  if handler ∈ handlers then handlers else handlers ++ [handler]

theorem nodup_withHandler {handler : η} {handlers : List η} (old : handlers ≠ [] ∧ handlers.Nodup) :
    withHandler handler handlers ≠ [] ∧ (withHandler handler handlers).Nodup := by
  unfold withHandler
  split
  · exact old
  · rename_i absent
    exact ⟨by simp, nodup_concat old.2 absent⟩

def add (key : Utf16) (handler : η) (s : Subscriptions η) : Subscriptions η :=
  if present : key ∈ s.keys then
    { entries := s.entries.map fun e => (e.1, if e.1 = key then withHandler handler e.2 else e.2)
      distinct := by
        rw [List.map_map]
        exact s.distinct
      registered := by
        intro e member
        obtain ⟨d, inside, rfl⟩ := List.mem_map.mp member
        have old := s.registered d inside
        dsimp only
        split
        · exact nodup_withHandler old
        · exact old }
  else
    { entries := s.entries ++ [(key, [handler])]
      distinct := by
        rw [List.map_append]
        exact nodup_concat s.distinct present
      registered := by
        intro e member
        rcases List.mem_append.mp member with old | last
        · exact s.registered e old
        · rw [List.mem_singleton.mp last]
          exact ⟨List.cons_ne_nil _ _, List.nodup_singleton _⟩ }

end Subscriptions

structure RealtimeMessage where
  channelId : Utf16
  payload : Utf16
  tenantId : Uuid
  receivedAt : Int
  deriving DecidableEq

/-- A call of a handler through its registration under `key`. -/
structure Call (η : Type*) where
  key : Utf16
  handler : η
  message : RealtimeMessage
  deriving DecidableEq

structure RealtimeClient (η : Type*) where
  tenantId : Uuid
  open_ : Bool
  subscriptions : Subscriptions η
  reassembler : ChunkReassembler
  pendingSends : List (Opcode × Utf16 × Utf16)

/-- What `dispatch` makes of a payload: the text to deliver, if any. -/
def assemble (now seen : Int) (payload : Utf16) (r : ChunkReassembler) : Option Utf16 × ChunkReassembler :=
  match parseChunk payload with
  | none => (some payload, r)
  | some chunkHeader => r.feed now seen chunkHeader

/-- The calls that `dispatch` makes for a message, the exact handlers first. -/
def Subscriptions.calls {η : Type*} (message : RealtimeMessage) (s : Subscriptions η) : List (Call η) :=
  (((s.entries.lookup message.channelId).getD []).map fun h => ⟨message.channelId, h, message⟩) ++
    s.entries.flatMap fun e =>
      if star ∈ e.1 ∧ globMatch e.1 message.channelId then e.2.map fun h => ⟨e.1, h, message⟩ else []

namespace RealtimeClient
variable {η : Type*} [DecidableEq η]

def frame (opcode : Opcode) (channelId payload : Utf16) (c : RealtimeClient η) : FrameFields :=
  { opcode, tenantId := c.tenantId, channelId, payload }

def subscribe (channelId : Utf16) (handler : η) (c : RealtimeClient η) :
    List FrameFields × RealtimeClient η :=
  let sent := if channelId ∉ c.subscriptions.keys ∧ c.open_ then [c.frame .subscribe channelId []] else []
  (sent, { c with subscriptions := c.subscriptions.add channelId handler })

def resubscribeAll (c : RealtimeClient η) : List FrameFields :=
  c.subscriptions.keys.map fun channelId => c.frame .subscribe channelId []

def flushPendingSends (c : RealtimeClient η) : List FrameFields :=
  c.pendingSends.map fun (opcode, channelId, payload) => c.frame opcode channelId payload

/-- `onopen`: the frames sent, in order. -/
def onopen (token : Utf16) (c : RealtimeClient η) : List FrameFields × RealtimeClient η :=
  (c.frame .auth [] token :: c.resubscribeAll ++ c.flushPendingSends,
    { c with open_ := true, pendingSends := [] })

def dispatch (now seen receivedAt : Int) (frame : DecodedFrame) (c : RealtimeClient η) :
    Option RealtimeMessage × List (Call η) × RealtimeClient η :=
  let (text, reassembler) := assemble now seen frame.payload c.reassembler
  match text with
  | none => (none, [], { c with reassembler })
  | some payload =>
    let message := { channelId := frame.channelId, payload, tenantId := frame.tenantId, receivedAt }
    (some message, c.subscriptions.calls message, { c with reassembler })

/-- A binary message of the socket, with the clock readings that its handling makes. -/
structure Arrival where
  raw : List UInt8
  now : Int
  seen : Int
  receivedAt : Int

/-- `onmessage`: the calls made for what has arrived; a frame that does not decode makes none. -/
def onmessage (arrival : Arrival) (c : RealtimeClient η) : List (Call η) × RealtimeClient η :=
  match decodeFrame arrival.raw with
  | .error _ => ([], c)
  | .ok frame =>
    let (_, calls, c) := c.dispatch arrival.now arrival.seen arrival.receivedAt frame
    (calls, c)

def receives : List Arrival → RealtimeClient η → List (List (Call η))
  | [], _ => []
  | arrival :: arrivals, c =>
    (c.onmessage arrival).1 :: receives arrivals (c.onmessage arrival).2

end RealtimeClient
end RealtimePlatform.Sdk
