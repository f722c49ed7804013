import RealtimePlatform.Backend.RouterInvariants

namespace RealtimePlatform.Proof.ExactChannels
open Library Backend

variable {α : Type*}

theorem recorded_step {historyCapacity : Nat} (positive : 0 < historyCapacity) {s t : RouterSystem α}
    {e : RouterEvent α} (held : s.router.historyCapacity = historyCapacity ∧ s.router.Recorded)
    (taken : RouterSystem.step s e = some t) :
    t.router.historyCapacity = historyCapacity ∧ t.router.Recorded := by
  obtain ⟨capacity, recorded⟩ := held
  cases RouterSystem.moved_of_step taken with
  | subscribe key rx free =>
      have same := (SharedRouter.getOrCreateChannel_frame key s.router).2.2.2.2
      exact ⟨same.trans capacity, recorded.getOrCreateChannel key⟩
  | clone task key idle =>
      have same := (SharedRouter.getOrCreateWildcardSender_frame key s.router).2.2.2.2
      exact ⟨same.trans capacity, recorded.getOrCreateWildcardSender key⟩
  | publishExact task key frame nowSecs idle =>
      have same := (SharedRouter.getOrCreateChannel_frame key s.router).2.2.2.2
      exact ⟨same.trans capacity, recorded.publishExact (capacity.symm ▸ positive) key frame nowSecs⟩
  | send task m target targets delivered pending =>
      have same := (SharedRouter.sendWildcard_frame m target s.router).2.2
      exact ⟨same.trans capacity, recorded.sendWildcard m target⟩
  | replay durableSince requesterTenant key sinceUnixSecs =>
      have same := (SharedRouter.replay_frame durableSince requesterTenant key sinceUnixSecs
        s.router).2.2.2.2
      exact ⟨same.trans capacity, recorded.replay durableSince requesterTenant key sinceUnixSecs⟩
  | pruneEmpty key => exact ⟨capacity, recorded.pruneEmpty key⟩
  | refusedSubscribe | subscribeClone | refusedPublish | snapshot | returns | drop | pruneDead =>
      exact ⟨capacity, recorded⟩

section
open Lobby

def pruned : List (RouterEvent Nat) :=
  [.subscribe acme lobby 0, .publishExact 1 acme lobby 5 100, .publishExact 2 acme lobby 6 100,
    .dropReceiver 0, .pruneEmpty lobby, .snapshotWildcards 2, .returnPublish 2,
    .publishExact 2 acme lobby 7 100, .subscribe acme lobby 1]

end

end RealtimePlatform.Proof.ExactChannels
