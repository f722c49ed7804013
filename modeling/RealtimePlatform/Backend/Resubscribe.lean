import RealtimePlatform.Backend.Server

/-!
# A repeated SUB, step by step

One key of one session: what is sent on its sender, the connection task in the arm that handles a
`Subscribed`, the relay tasks it spawned for the key and the writer. A receiver is its position in what
was sent. `abort` marks a task, which goes on until it yields and only then is dropped.

Ghost fields: where each receiver was attached, and the positions of the frames put on the queue.
-/

namespace RealtimePlatform.Backend
open Library

structure Forwarder where
  next : Nat
  inFlight : Option Nat
  aborted : Bool
  deriving DecidableEq

/-- How far the connection task is with a SUB of the key. -/
inductive SubStage where
  | received (seq next : Nat)
  | spawned (seq : Nat)
  | replaced (old : Nat)
  deriving DecidableEq

structure KeyRelay (α : Type*) where
  published : List α
  attached : List Nat
  stage : Option SubStage
  relayTask : Option Nat
  tasks : Table Nat Forwarder
  outQueue : List α
  put : List Nat

inductive SubEvent (α : Type*) where
  | publish (m : α)
  | subscribe
  | spawn
  | insert
  | abort
  | recv (seq : Nat)
  | send (seq : Nat)
  | taskDrop (seq : Nat)
  | writeOut

namespace KeyRelay
variable {α : Type*}

def new : KeyRelay α := ⟨[], [], none, none, ∅, [], []⟩

def setTask (seq : Nat) (task : Forwarder) (r : KeyRelay α) : KeyRelay α :=
  { r with tasks := AList.insert seq task r.tasks }

def dropTask (seq : Nat) (r : KeyRelay α) : KeyRelay α := { r with tasks := AList.erase seq r.tasks }

def subscribeStep (r : KeyRelay α) : Option (KeyRelay α) :=
  match r.stage with
  | none => some { r with
      attached := r.attached ++ [r.published.length]
      stage := some (.received r.attached.length r.published.length) }
  | some _ => none

def spawnStep (r : KeyRelay α) : Option (KeyRelay α) :=
  match r.stage with
  | some (.received seq next) =>
    some { r.setTask seq ⟨next, none, false⟩ with stage := some (.spawned seq) }
  | _ => none

def insertStep (r : KeyRelay α) : Option (KeyRelay α) :=
  match r.stage with
  | some (.spawned seq) => some { r with
      relayTask := some seq
      stage := r.relayTask.map SubStage.replaced }
  | _ => none

def abortStep (r : KeyRelay α) : Option (KeyRelay α) :=
  match r.stage with
  | some (.replaced old) => some { r with
      tasks := Table.adjust old (fun task => { task with aborted := true }) r.tasks
      stage := none }
  | _ => none

-- A receiver that lags ends the task, as in `relayRecvStep`.
def recvStep (seq : Nat) (r : KeyRelay α) : Option (KeyRelay α) :=
  (AList.lookup seq r.tasks).bind fun task =>
    if task.inFlight.isSome then none
    else if channelCapacity < r.published.length - task.next then some (r.dropTask seq)
    else if task.next < r.published.length then
      some (r.setTask seq { task with next := task.next + 1, inFlight := some task.next })
    else none

def sendStep (seq : Nat) (r : KeyRelay α) : Option (KeyRelay α) :=
  (AList.lookup seq r.tasks).bind fun task => task.inFlight.bind fun i =>
    r.published[i]?.bind fun m =>
      if r.outQueue.length < relayBuffer then some { r.setTask seq { task with inFlight := none } with
        outQueue := r.outQueue ++ [m]
        put := r.put ++ [i] }
      else none

def taskDropStep (seq : Nat) (r : KeyRelay α) : Option (KeyRelay α) :=
  (AList.lookup seq r.tasks).bind fun task => if task.aborted then some (r.dropTask seq) else none

def step : Step (KeyRelay α) (SubEvent α)
  | r, .publish m => some { r with published := r.published ++ [m] }
  | r, .subscribe => r.subscribeStep
  | r, .spawn => r.spawnStep
  | r, .insert => r.insertStep
  | r, .abort => r.abortStep
  | r, .recv seq => r.recvStep seq
  | r, .send seq => r.sendStep seq
  | r, .taskDrop seq => r.taskDropStep seq
  | r, .writeOut =>
    match r.outQueue with
    | [] => none
    | _ :: rest => some { r with outQueue := rest }

inductive Stepped (r : KeyRelay α) : SubEvent α → KeyRelay α → Prop
  | published {m} : Stepped r (.publish m) { r with published := r.published ++ [m] }
  | subscribed : r.stage = none → Stepped r .subscribe { r with
      attached := r.attached ++ [r.published.length]
      stage := some (.received r.attached.length r.published.length) }
  | spawned {seq next} : r.stage = some (.received seq next) →
      Stepped r .spawn { r.setTask seq ⟨next, none, false⟩ with stage := some (.spawned seq) }
  | inserted {seq} : r.stage = some (.spawned seq) → Stepped r .insert { r with
      relayTask := some seq
      stage := r.relayTask.map SubStage.replaced }
  | aborted {old} : r.stage = some (.replaced old) → Stepped r .abort { r with
      tasks := Table.adjust old (fun task => { task with aborted := true }) r.tasks
      stage := none }
  | lagged {seq task} : AList.lookup seq r.tasks = some task →
      channelCapacity < r.published.length - task.next → Stepped r (.recv seq) (r.dropTask seq)
  | taken {seq task} : AList.lookup seq r.tasks = some task → task.inFlight = none →
      task.next < r.published.length → Stepped r (.recv seq)
        (r.setTask seq { task with next := task.next + 1, inFlight := some task.next })
  | sent {seq task i m} : AList.lookup seq r.tasks = some task → task.inFlight = some i →
      r.published[i]? = some m → Stepped r (.send seq) { r.setTask seq { task with inFlight := none } with
        outQueue := r.outQueue ++ [m]
        put := r.put ++ [i] }
  | dropped {seq task} : AList.lookup seq r.tasks = some task → task.aborted = true →
      Stepped r (.taskDrop seq) (r.dropTask seq)
  | written {rest} : Stepped r .writeOut { r with outQueue := rest }

theorem step_cases {r r' : KeyRelay α} {e : SubEvent α} (taken : step r e = some r') :
    Stepped r e r' := by
  cases e with
  | publish m =>
      cases taken
      exact .published
  | subscribe =>
      change r.subscribeStep = some r' at taken
      unfold subscribeStep at taken
      split at taken
      · cases taken
        exact .subscribed ‹_›
      · cases taken
  | spawn =>
      change r.spawnStep = some r' at taken
      unfold spawnStep at taken
      split at taken
      · cases taken
        exact .spawned ‹_›
      · cases taken
  | insert =>
      change r.insertStep = some r' at taken
      unfold insertStep at taken
      split at taken
      · cases taken
        exact .inserted ‹_›
      · cases taken
  | abort =>
      change r.abortStep = some r' at taken
      unfold abortStep at taken
      split at taken
      · cases taken
        exact .aborted ‹_›
      · cases taken
  | recv seq =>
      obtain ⟨task, running, action⟩ := Option.bind_eq_some_iff.mp taken
      split at action
      · cases action
      rename_i idle
      split at action
      · cases action
        exact .lagged running ‹_›
      split at action
      · cases action
        exact .taken running (by simpa using idle) ‹_›
      · cases action
  | send seq =>
      obtain ⟨task, running, rest⟩ := Option.bind_eq_some_iff.mp taken
      obtain ⟨i, holding, rest⟩ := Option.bind_eq_some_iff.mp rest
      obtain ⟨m, found, action⟩ := Option.bind_eq_some_iff.mp rest
      split at action
      · cases action
        exact .sent running holding found
      · cases action
  | taskDrop seq =>
      obtain ⟨task, running, action⟩ := Option.bind_eq_some_iff.mp taken
      split at action
      · cases action
        exact .dropped running ‹_›
      · cases action
  | writeOut =>
      change (match r.outQueue with
        | [] => none
        | _ :: rest => some { r with outQueue := rest }) = some r' at taken
      split at taken
      · cases taken
      · cases taken
        exact .written

end KeyRelay
end RealtimePlatform.Backend
