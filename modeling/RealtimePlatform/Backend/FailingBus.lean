import RealtimePlatform.Backend.Cluster

/-!
# A bus that fails

A PUBLISH that fails takes its frame with it. When the subscription of an instance ends, its task reads what has
reached it and returns, and nothing else reaches it.
-/

namespace RealtimePlatform.Backend
open Library

structure FailingBus (ι : Type*) where
  cluster : Cluster ι
  ended : ι → Bool

inductive BusEvent (ι : Type*) where
  | of (e : ClusterEvent ι)
  | sendFailed (i : ι)
  | subscriptionEnded (j : ι)

namespace FailingBus
variable {ι : Type*} [DecidableEq ι]

def step (envs : ι → Env) : Step (FailingBus ι) (BusEvent ι)
  | bus, .of (.forward i) => (Cluster.step envs bus.cluster (.forward i)).map fun cluster =>
    { bus with cluster := { cluster with
        inbox := fun j => if bus.ended j then bus.cluster.inbox j else cluster.inbox j } }
  | bus, .of e => (Cluster.step envs bus.cluster e).map fun cluster => { bus with cluster := cluster }
  | bus, .sendFailed i => (Server.step (envs i) (bus.cluster.server i) .clusterSend).map fun server =>
    { bus with cluster := bus.cluster.setServer i server }
  | bus, .subscriptionEnded j => some { bus with ended := Function.update bus.ended j true }

end FailingBus
end RealtimePlatform.Backend
