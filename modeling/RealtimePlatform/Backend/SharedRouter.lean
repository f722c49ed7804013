import RealtimePlatform.Backend.ChannelRouter
import RealtimePlatform.Library.Switchboard
import RealtimePlatform.Library.Transition

/-!
# The router that tasks share

A broadcast sender is an object that a map entry, a task and a receiver can each hold, so that an entry
can be removed while others still hold its sender. The operations below are those of the service, cut
where it lets go of a lock; `begun` and `published` are ghosts.
-/

namespace RealtimePlatform.Backend
open Library

/-- The map entry that a `broadcast::Sender` was made for, and how many senders had been made before. -/
structure SenderId where
  source : Source
  serial : Nat
  deriving DecidableEq

structure SharedChannel (α : Type*) where
  sender : SenderId
  history : HistoryBuffer α

structure Published (α : Type*) where
  key : ChannelKey
  serial : Nat
  frame : α

structure Obtained where
  source : Source
  begun : Nat

structure SharedRouter (α : Type*) where
  channels : Table ChannelKey (SharedChannel α)
  wildcards : Table WildcardKey SenderId
  board : Switchboard Nat SenderId Obtained (Published α)
  historyCapacity : Nat
  durable : Bool
  made : Nat
  begun : Nat
  published : ChannelKey → List (Published α)

namespace SharedRouter
variable {α : Type*}

def withHistoryCapacity (historyCapacity : Nat) (durable : Bool) : SharedRouter α :=
  ⟨∅, ∅, Switchboard.new, historyCapacity, durable, 0, 0, fun _ => []⟩

def freshChannel (key : ChannelKey) (r : SharedRouter α) : SharedChannel α :=
  ⟨⟨.channel key, r.made⟩, HistoryBuffer.new r.historyCapacity⟩

def getOrCreateChannel (key : ChannelKey) (r : SharedRouter α) : SharedChannel α × SharedRouter α :=
  match AList.lookup key r.channels with
  | some state => (state, r)
  | none => (r.freshChannel key,
      { r with channels := AList.insert key (r.freshChannel key) r.channels, made := r.made + 1 })

def getOrCreateWildcardSender (key : WildcardKey) (r : SharedRouter α) : SenderId × SharedRouter α :=
  match AList.lookup key r.wildcards with
  | some sender => (sender, r)
  | none => (⟨.wildcard key, r.made⟩,
      { r with wildcards := AList.insert key ⟨.wildcard key, r.made⟩ r.wildcards, made := r.made + 1 })

/-- `sender.subscribe()`. -/
def attach (source : Source) (sender : SenderId) (rx : Nat) (r : SharedRouter α) : SharedRouter α :=
  { r with board := r.board.attach rx sender ⟨source, r.begun⟩ }

def subscribeWildcard (sessionTenant : TenantId) (pattern : String) (rx : Nat) (r : SharedRouter α) :
    SharedRouter α :=
  let key : WildcardKey := ⟨sessionTenant, pattern⟩
  let created := r.getOrCreateWildcardSender key
  created.2.attach (.wildcard key) created.1 rx

def pruneDeadWildcards (shard : WildcardKey → Bool) (r : SharedRouter α) : SharedRouter α :=
  { r with
    wildcards := Table.retain (fun key sender => !shard key || 0 < r.board.receiverCount sender)
      r.wildcards }

def subscribe (sessionTenant : TenantId) (key : ChannelKey) (rx : Nat) (r : SharedRouter α) :
    Except RouterError (SharedRouter α) :=
  if sessionTenant ≠ key.tenantId then .error (.tenantMismatch sessionTenant key.tenantId)
  else
    let created := r.getOrCreateChannel key
    .ok (created.2.attach (.channel key) created.1.sender rx)

/-- What the next publish on the channel carries. -/
def message (key : ChannelKey) (frame : α) (r : SharedRouter α) : Published α := ⟨key, r.begun, frame⟩

/-- The block of `publish` that holds the entry of the channel. -/
def publishExact (key : ChannelKey) (frame : α) (nowSecs : Nat) (r : SharedRouter α) :
    Nat × SharedRouter α :=
  let created := r.getOrCreateChannel key
  let state := created.1
  (created.2.board.receiverCount state.sender, { created.2 with
    channels := AList.insert key { state with history := state.history.push nowSecs frame }
      created.2.channels
    board := created.2.board.send state.sender (r.message key frame)
    begun := r.begun + 1
    published := Function.update r.published key (r.published key ++ [r.message key frame]) })

def snapshotWildcards (r : SharedRouter α) : List (WildcardKey × SenderId) :=
  r.wildcards.entries.map fun e => (e.1, e.2)

def sendWildcard (m : Published α) (target : WildcardKey × SenderId) (r : SharedRouter α) :
    Nat × SharedRouter α :=
  if (Source.wildcard target.1).matches m.key then
    (r.board.receiverCount target.2, { r with board := r.board.send target.2 m })
  else (0, r)

def publish (publisherTenant : TenantId) (key : ChannelKey) (frame : α) (nowSecs : Nat)
    (r : SharedRouter α) : Except RouterError Nat × SharedRouter α :=
  if publisherTenant ≠ key.tenantId then (.error (.tenantMismatch publisherTenant key.tenantId), r)
  else
    let exact := r.publishExact key frame nowSecs
    let sent := exact.2.snapshotWildcards.foldl (fun acc target =>
      let next := acc.2.sendWildcard (r.message key frame) target
      (acc.1 + next.1, next.2)) exact
    (.ok sent.1, sent.2)

/-- `durableSince` is what the history port, if there is one, answers. -/
def replay (durableSince : List α) (requesterTenant : TenantId) (key : ChannelKey) (sinceUnixSecs : Nat)
    (r : SharedRouter α) : Except RouterError (List α) × SharedRouter α :=
  if requesterTenant ≠ key.tenantId then (.error (.tenantMismatch requesterTenant key.tenantId), r)
  else if r.durable then (.ok durableSince, r)
  else
    let created := r.getOrCreateChannel key
    (.ok (created.1.history.since sinceUnixSecs), created.2)

def pruneEmpty (key : ChannelKey) (r : SharedRouter α) : SharedRouter α :=
  { r with
    channels := Table.retain
      (fun k state => !(k = key && r.board.receiverCount state.sender == 0 && state.history.isEmpty))
      r.channels }

def dropReceiver (rx : Nat) (r : SharedRouter α) : SharedRouter α := { r with board := r.board.detach rx }

def history (key : ChannelKey) (r : SharedRouter α) : HistoryBuffer α :=
  ((AList.lookup key r.channels).map (·.history)).getD (HistoryBuffer.new r.historyCapacity)

end SharedRouter

inductive RouterOp (α : Type*) where
  | subscribe (sessionTenant : TenantId) (key : ChannelKey) (rx : Nat)
  | subscribeWildcard (sessionTenant : TenantId) (pattern : String) (rx : Nat)
  | publish (publisherTenant : TenantId) (key : ChannelKey) (frame : α) (nowSecs : Nat)
  | replay (durableSince : List α) (requesterTenant : TenantId) (key : ChannelKey) (sinceUnixSecs : Nat)
  | dropReceiver (rx : Nat)
  | pruneEmpty (key : ChannelKey)
  | pruneDeadWildcards

namespace SharedRouter
variable {α : Type*}

-- A receiver that is returned is a new one.
def perform : Step (SharedRouter α) (RouterOp α) := fun r op =>
  match op with
  | .subscribe sessionTenant key rx =>
    if (r.board.find rx).isSome then none
    else match r.subscribe sessionTenant key rx with
      | .ok subscribed => some subscribed
      | .error _ => some r
  | .subscribeWildcard sessionTenant pattern rx =>
    if (r.board.find rx).isSome then none else some (r.subscribeWildcard sessionTenant pattern rx)
  | .publish publisherTenant key frame nowSecs => some (r.publish publisherTenant key frame nowSecs).2
  | .replay durableSince requesterTenant key sinceUnixSecs =>
    some (r.replay durableSince requesterTenant key sinceUnixSecs).2
  | .dropReceiver rx => some (r.dropReceiver rx)
  | .pruneEmpty key => some (r.pruneEmpty key)
  | .pruneDeadWildcards => some (r.pruneDeadWildcards fun _ => true)

end SharedRouter

inductive RouterTask (α : Type*) where
  /-- `subscribe_wildcard` with the clone of a sender. -/
  | subscribing (key : WildcardKey) (sender : SenderId)
  /-- `publish` after the block of the exact channel. -/
  | published (m : Published α) (delivered : Nat)
  /-- `publish` in the loop over its snapshot. -/
  | sending (m : Published α) (targets : List (WildcardKey × SenderId)) (delivered : Nat)

structure RouterSystem (α : Type*) where
  router : SharedRouter α
  tasks : Table Nat (RouterTask α)
  /-- What `publish` has returned so far. -/
  returned : List (Published α × Nat)

inductive RouterEvent (α : Type*) where
  | subscribe (sessionTenant : TenantId) (key : ChannelKey) (rx : Nat)
  | getOrCreateWildcardSender (task : Nat) (sessionTenant : TenantId) (pattern : String)
  | subscribeClone (task : Nat) (rx : Nat)
  | publishExact (task : Nat) (publisherTenant : TenantId) (key : ChannelKey) (frame : α) (nowSecs : Nat)
  | snapshotWildcards (task : Nat)
  | sendWildcard (task : Nat)
  | returnPublish (task : Nat)
  | replay (durableSince : List α) (requesterTenant : TenantId) (key : ChannelKey) (sinceUnixSecs : Nat)
  | dropReceiver (rx : Nat)
  | pruneEmpty (key : ChannelKey)
  /-- `DashMap::retain` goes shard by shard; `shard` says which keys it looks at. -/
  | pruneDeadWildcards (shard : WildcardKey → Bool)

namespace RouterSystem
variable {α : Type*}

def start (historyCapacity : Nat) (durable : Bool) : RouterSystem α :=
  ⟨SharedRouter.withHistoryCapacity historyCapacity durable, ∅, []⟩

def continueWith (task : Nat) (next : RouterTask α) (r : SharedRouter α) (s : RouterSystem α) :
    RouterSystem α :=
  { s with router := r, tasks := AList.insert task next s.tasks }

def step : Step (RouterSystem α) (RouterEvent α) := fun s e =>
  match e with
  | .subscribe sessionTenant key rx =>
    if (s.router.board.find rx).isSome then none
    else match s.router.subscribe sessionTenant key rx with
      | .ok subscribed => some { s with router := subscribed }
      | .error _ => some s
  | .getOrCreateWildcardSender task sessionTenant pattern =>
    if (AList.lookup task s.tasks).isSome then none
    else
      let key : WildcardKey := ⟨sessionTenant, pattern⟩
      let created := s.router.getOrCreateWildcardSender key
      some (s.continueWith task (.subscribing key created.1) created.2)
  | .subscribeClone task rx =>
    match AList.lookup task s.tasks with
    | some (.subscribing key sender) =>
      if (s.router.board.find rx).isSome then none
      else some { s with
        router := s.router.attach (.wildcard key) sender rx, tasks := AList.erase task s.tasks }
    | _ => none
  | .publishExact task publisherTenant key frame nowSecs =>
    if (AList.lookup task s.tasks).isSome then none
    else if publisherTenant ≠ key.tenantId then some s
    else
      let exact := s.router.publishExact key frame nowSecs
      some (s.continueWith task (.published (s.router.message key frame) exact.1) exact.2)
  | .snapshotWildcards task =>
    match AList.lookup task s.tasks with
    | some (.published m delivered) =>
      some (s.continueWith task (.sending m s.router.snapshotWildcards delivered) s.router)
    | _ => none
  | .sendWildcard task =>
    match AList.lookup task s.tasks with
    | some (.sending m (target :: targets) delivered) =>
      let sent := s.router.sendWildcard m target
      some (s.continueWith task (.sending m targets (delivered + sent.1)) sent.2)
    | _ => none
  | .returnPublish task =>
    match AList.lookup task s.tasks with
    | some (.sending m [] delivered) =>
      some { s with tasks := AList.erase task s.tasks, returned := s.returned ++ [(m, delivered)] }
    | _ => none
  | .replay durableSince requesterTenant key sinceUnixSecs =>
    some { s with router := (s.router.replay durableSince requesterTenant key sinceUnixSecs).2 }
  | .dropReceiver rx => some { s with router := s.router.dropReceiver rx }
  | .pruneEmpty key => some { s with router := s.router.pruneEmpty key }
  | .pruneDeadWildcards shard => some { s with router := s.router.pruneDeadWildcards shard }

end RouterSystem
end RealtimePlatform.Backend
