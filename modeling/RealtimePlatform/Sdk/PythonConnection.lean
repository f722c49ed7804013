import RealtimePlatform.Sdk.PythonClient

/-!
# What the connection task of the Python client catches

`_run_connection` from one await to the next, each of which may raise: opening the connection, a send, the next
message or a handler it is given to. The lock of `_send`, the heartbeat and the delays are left out.
-/

namespace RealtimePlatform.Sdk.Python
open Library

/-- What is raised, by what the `except` clause and `getattr(err, "code", None)` see of it. -/
inductive Exception where
  | connectionClosed (code : Nat)
  | osError (code : Option Nat)
  | invalidHandshake
  | invalidStatus
  | unicodeEncodeError
  | other
  deriving DecidableEq

/-- Where the task awaits, with what it is about to send. -/
inductive Stage where
  | idle
  | connecting
  | authenticating
  | resubscribing (channelId : String) (rest : List String)
  | flushing (call : Call) (rest : List Call)
  | receiving
  | sleeping
  deriving DecidableEq

/-- `ws` is whether `_ws` is set, `closeCode` what the last socket has been closed with. -/
structure ConnectionTask where
  closedByUser : Bool := true
  ws : Bool := false
  subscriptions : List String := []
  pendingSends : List Call := []
  stage : Stage := .idle
  disconnecting : Bool := false
  closeCode : Option Nat := none

inductive ConnectionEvent where
  | connect
  | disconnect
  | cancelled
  | subscribe (channelId : String)
  | unsubscribe (channelId : String)
  | call (call : Call)
  | connected
  | sent
  | raised (err : Exception)
  | closes (code : Nat)
  | ended
  | wake

namespace ConnectionTask
variable (config : ClientConfig)

def subscribe (channelId : String) (task : ConnectionTask) : ConnectionTask :=
  if channelId ∈ task.subscriptions then task
  else { task with subscriptions := task.subscriptions ++ [channelId] }

/-- The last handler of the channel goes. -/
def unsubscribe (channelId : String) (task : ConnectionTask) : ConnectionTask :=
  { task with subscriptions := task.subscriptions.filter fun key => key ≠ channelId }

def sendOrQueue (call : Call) (task : ConnectionTask) : ConnectionTask :=
  if task.ws then task else { task with pendingSends := task.pendingSends ++ [call] }

def flush : List Call → ConnectionTask → ConnectionTask
  | [], task => { task with stage := .receiving }
  | call :: rest, task => { task with stage := .flushing call rest }

def resubscribe : List String → ConnectionTask → ConnectionTask
  | [], task => flush task.pendingSends { task with pendingSends := [] }
  | channelId :: rest, task => { task with stage := .resubscribing channelId rest }

/-- What follows a `_send` that has returned. -/
def sent (task : ConnectionTask) : Option ConnectionTask :=
  match task.stage with
  | .authenticating => some (resubscribe task.subscriptions task)
  | .resubscribing _ rest => some (resubscribe rest task)
  | .flushing _ rest => some (flush rest task)
  | _ => none

/-- What follows the `try` statement, where it is left with this `close_code`. -/
def afterTry (closeCode : Option Nat) (task : ConnectionTask) : ConnectionTask :=
  if closeCode = some wsCloseCodeAuthFailed then { task with ws := false, stage := .idle }
  else if task.closedByUser || !config.reconnect then { task with ws := false, stage := .idle }
  else { task with ws := false, stage := .sleeping }

/-- `except (ConnectionClosed, OSError)`: the `close_code` of what it catches. -/
def caught : Exception → Option (Option Nat)
  | .connectionClosed code => some (some code)
  | .osError code => some code
  | _ => none

def raised (err : Exception) (task : ConnectionTask) : ConnectionTask :=
  match caught err with
  | some closeCode => afterTry config closeCode task
  | none => { task with ws := false, stage := .idle }

/-- A send raises `ConnectionClosed` for the task's own socket only; a handler may have raised anything. -/
def canRaise (err : Exception) (task : ConnectionTask) : Bool :=
  match task.stage with
  | .idle | .sleeping => false
  | .connecting | .receiving => true
  | .authenticating | .resubscribing _ _ | .flushing _ _ =>
    match err with
    | .connectionClosed code => task.closeCode = some code
    | _ => true

def step : Step ConnectionTask ConnectionEvent
  | task, .connect =>
    if task.stage = .idle then some { task with closedByUser := false, stage := .connecting, closeCode := none } else none
  | task, .disconnect => some { task with closedByUser := true, disconnecting := true }
  | task, .cancelled =>
    if task.disconnecting then some { task with ws := false, stage := .idle, disconnecting := false } else none
  | task, .subscribe channelId => some (task.subscribe channelId)
  | task, .unsubscribe channelId => some (task.unsubscribe channelId)
  | task, .call call => some (task.sendOrQueue call)
  | task, .connected => if task.stage = .connecting then some { task with ws := true, stage := .authenticating } else none
  | task, .sent => task.sent
  | task, .raised err => if task.canRaise err then some (raised config err task) else none
  | task, .closes code => if task.ws ∧ task.closeCode = none then some { task with closeCode := some code } else none
  | task, .ended =>
    match task.stage, task.closeCode with
    | .receiving, some code => some (afterTry config (some code) task)
    | _, _ => none
  | task, .wake =>
    if task.stage = .sleeping then some { task with stage := .connecting, closeCode := none } else none

end ConnectionTask
end RealtimePlatform.Sdk.Python
