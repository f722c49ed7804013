import RealtimePlatform.Backend.ChannelRouter

/-!
# Runs of one router

What a sequence of calls makes of a channel's ring buffer.
-/

namespace RealtimePlatform.Backend
open Library

inductive RouterCall (α : Type*) where
  | subscribe (tenantId : TenantId) (key : ChannelKey) (rx : ReceiverId)
  | subscribeWildcard (tenantId : TenantId) (pattern : String) (rx : ReceiverId)
  | publish (tenantId : TenantId) (key : ChannelKey) (frame : α) (now : Clock)
  | replay (tenantId : TenantId) (key : ChannelKey) (sinceUnixSecs : Nat)
  | detach (source : Source) (rx : ReceiverId)
  | pruneEmpty (key : ChannelKey)
  | pruneDeadWildcards

/-- What a ring buffer of this capacity keeps of what was pushed. -/
def retained {β : Type*} (capacity : Nat) (pushed : List β) : List β :=
  pushed.foldl (fun kept p => (if kept.length = capacity then kept.drop 1 else kept) ++ [p]) []

theorem retained_concat {β : Type*} (capacity : Nat) (pushed : List β) (p : β) :
    retained capacity (pushed ++ [p]) = (if (retained capacity pushed).length = capacity then
      (retained capacity pushed).drop 1 else retained capacity pushed) ++ [p] := by
  simp [retained]

theorem retained_eq_drop {β : Type*} {capacity : Nat} (room : 0 < capacity) (pushed : List β) :
    retained capacity pushed = pushed.drop (pushed.length - capacity) := by
  induction pushed using List.reverseRecOn with
  | nil => simp [retained]
  | append_singleton pushed p ih =>
      rw [retained_concat, ih, List.length_drop, List.length_append, List.length_singleton]
      by_cases full : capacity ≤ pushed.length
      · rw [if_pos (by omega), List.drop_drop, List.drop_append_of_le_length (by omega)]
        congr 2
        omega
      · rw [if_neg (by omega), show pushed.length - capacity = 0 by omega,
          show pushed.length + 1 - capacity = 0 by omega]
        rfl

namespace ChannelRouterService
variable {α : Type*}

def apply (r : ChannelRouterService α) : RouterCall α → ChannelRouterService α
  | .subscribe tenantId key rx => ((r.subscribe tenantId key rx).toOption).getD r
  | .subscribeWildcard tenantId pattern rx => r.subscribeWildcard tenantId pattern rx
  | .publish tenantId key frame now => (r.publish tenantId key frame now.unixSecs).2
  -- What the stream answers does not matter to the router.
  | .replay tenantId key sinceUnixSecs => (r.replay (fun _ => []) tenantId key sinceUnixSecs).2
  | .detach source rx => r.detach source rx
  | .pruneEmpty key => r.pruneEmpty key
  | .pruneDeadWildcards => r.pruneDeadWildcards

/-- The accepted publishes on a channel. -/
def recorded (key : ChannelKey) : RouterCall α → Option (Clock × α)
  | .publish tenantId own frame now => if own = key ∧ tenantId = key.tenantId then some (now, frame) else none
  | _ => none

def history (key : ChannelKey) (r : ChannelRouterService α) : HistoryBuffer α := (r.getOrCreateChannel key).history

def Sized (capacity : Nat) (r : ChannelRouterService α) : Prop :=
  r.historyCapacity = capacity ∧ ∀ key state, AList.lookup key r.channels = some state →
    state.history.capacity = capacity

section
variable {r r' : ChannelRouterService α} {capacity : Nat} {key : ChannelKey}

theorem capacity_history (sized : Sized capacity r) (key : ChannelKey) : (history key r).capacity = capacity := by
  unfold history getOrCreateChannel
  cases found : AList.lookup key r.channels with
  | none => exact sized.1
  | some state => exact sized.2 key state found

theorem history_of_lookup {state : ChannelState α} (found : AList.lookup key r.channels = some state) :
    history key r = state.history := by
  rw [history, getOrCreateChannel, found]
  rfl

theorem sized_iff : Sized capacity r ↔ r.historyCapacity = capacity ∧ ∀ key, (history key r).capacity = capacity := by
  constructor
  · exact fun sized => ⟨sized.1, capacity_history sized⟩
  · rintro ⟨same, every⟩
    exact ⟨same, fun key state found => by rw [← history_of_lookup found, every key]⟩

theorem history_congr (channels : r'.channels = r.channels) (same : r'.historyCapacity = r.historyCapacity) :
    history key r' = history key r := by
  simp only [history, getOrCreateChannel, freshChannel, channels, same]

theorem history_upsert (r : ChannelRouterService α) (own : ChannelKey) (f : ChannelState α → ChannelState α)
    (channels : r'.channels = Table.upsert own r.freshChannel f r.channels)
    (same : r'.historyCapacity = r.historyCapacity) :
    history key r' = if own = key then (f (r.getOrCreateChannel key)).history else history key r := by
  unfold history getOrCreateChannel
  rw [channels]
  split
  · rename_i equal
    rw [equal, Table.lookup_upsert]
    rfl
  · rename_i other
    rw [Table.lookup_upsert_ne _ _ _ (Ne.symm other), freshChannel, same]
    rfl

theorem history_subscribe (tenantId : TenantId) (own : ChannelKey) (rx : ReceiverId) :
    history key (r.apply (.subscribe tenantId own rx)) = history key r := by
  simp only [apply, subscribe]
  split
  · rfl
  · refine Eq.trans (history_upsert r own (fun state => { state with sender := state.sender.subscribe rx }) rfl rfl) ?_
    split <;> rfl

theorem history_replay (tenantId : TenantId) (own : ChannelKey) (sinceUnixSecs : Nat) :
    history key (r.apply (.replay tenantId own sinceUnixSecs)) = history key r := by
  simp only [apply, replay]
  split
  · rfl
  · split
    · rfl
    · refine Eq.trans (history_upsert r own id rfl rfl) ?_
      split <;> rfl

theorem history_detach (source : Source) (rx : ReceiverId) :
    history key (r.apply (.detach source rx)) = history key r := by
  cases source with
  | wildcard own => exact history_congr rfl rfl
  | channel own =>
      simp only [apply, detach, history, getOrCreateChannel]
      by_cases equal : key = own
      · subst equal
        rw [Table.lookup_adjust]
        cases AList.lookup key r.channels <;> rfl
      · rw [Table.lookup_adjust_ne _ _ equal]
        rfl

theorem history_pruneEmpty (sized : Sized capacity r) (own : ChannelKey) :
    history key (r.apply (.pruneEmpty own)) = history key r := by
  simp only [apply, pruneEmpty, history, getOrCreateChannel]
  rw [Table.lookup_retain]
  cases found : AList.lookup key r.channels with
  | none => rfl
  | some state =>
      rw [Option.filter_some]
      split
      · rfl
      · rename_i pruned
        rw [Bool.not_eq_true', Bool.not_eq_false, Bool.and_eq_true] at pruned
        have empty : state.history.entries = [] := List.isEmpty_iff.mp pruned.2
        have capacity : state.history.capacity = r.historyCapacity := (sized.2 key state found).trans sized.1.symm
        show HistoryBuffer.new r.historyCapacity = state.history
        cases shape : state.history
        rw [shape] at empty capacity
        simp only at empty capacity
        rw [HistoryBuffer.new, empty, capacity]

theorem history_publish (tenantId : TenantId) (own : ChannelKey) (frame : α) (now : Clock) :
    history key (r.apply (.publish tenantId own frame now)) =
      if own = key ∧ tenantId = key.tenantId then (history key r).push now.unixSecs frame else history key r := by
  simp only [apply, publish]
  by_cases accepted : tenantId = own.tenantId
  · rw [if_neg (not_not.mpr accepted)]
    refine Eq.trans (history_upsert r own (fun state =>
      ⟨(state.sender.send frame).2, state.history.push now.unixSecs frame⟩) rfl rfl) ?_
    by_cases equal : own = key
    · subst equal
      rw [if_pos rfl, if_pos ⟨rfl, accepted⟩]
      rfl
    · rw [if_neg equal, if_neg fun both => equal both.1]
  · rw [if_pos accepted, if_neg]
    rintro ⟨rfl, same⟩
    exact accepted same

theorem historyCapacity_apply (e : RouterCall α) : (r.apply e).historyCapacity = r.historyCapacity := by
  cases e with
  | subscribe => simp only [apply, subscribe]; split <;> rfl
  | publish => simp only [apply, publish]; split <;> rfl
  | replay => simp only [apply, replay]; split <;> (try split) <;> rfl
  | detach source => cases source <;> rfl
  | subscribeWildcard | pruneEmpty | pruneDeadWildcards => rfl

theorem isSome_historyPort_apply (e : RouterCall α) :
    (r.apply e).historyPort.isSome = r.historyPort.isSome := by
  cases e with
  | subscribe => simp only [apply, subscribe]; split <;> rfl
  | publish => simp only [apply, publish]; split <;> simp
  | replay =>
      simp only [apply, replay]
      split
      · rfl
      · split <;> simp [*]
  | detach source => cases source <;> rfl
  | subscribeWildcard | pruneEmpty | pruneDeadWildcards => rfl

theorem history_apply (sized : Sized capacity r) (e : RouterCall α) : history key (r.apply e) =
    (recorded key e).elim (history key r) fun p => (history key r).push p.1.unixSecs p.2 := by
  cases e with
  | subscribe tenantId own rx => exact history_subscribe tenantId own rx
  | subscribeWildcard => exact history_congr rfl rfl
  | publish tenantId own frame now =>
      rw [history_publish, recorded]
      split <;> rfl
  | replay tenantId own sinceUnixSecs => exact history_replay tenantId own sinceUnixSecs
  | detach source rx => exact history_detach source rx
  | pruneEmpty own => exact history_pruneEmpty sized own
  | pruneDeadWildcards => exact history_congr rfl rfl

theorem sized_apply (sized : Sized capacity r) (e : RouterCall α) : Sized capacity (r.apply e) := by
  refine sized_iff.mpr ⟨(historyCapacity_apply e).trans sized.1, fun key => ?_⟩
  rw [history_apply sized]
  cases recorded key e with
  | none => exact capacity_history sized key
  | some p => exact capacity_history sized key

theorem sized_new (capacity : Nat) : Sized capacity (withHistoryCapacity capacity : ChannelRouterService α) :=
  ⟨rfl, nofun⟩

theorem history_run (sized : Sized capacity r) (fresh : (history key r).entries = []) (es : List (RouterCall α)) :
    Sized capacity (es.foldl apply r) ∧ (history key (es.foldl apply r)).entries =
      (retained capacity (es.filterMap (recorded key))).map fun p => ⟨p.1.unixSecs, p.2⟩ := by
  induction es using List.reverseRecOn with
  | nil => exact ⟨sized, fresh⟩
  | append_singleton es e ih =>
      obtain ⟨before, entries⟩ := ih
      rw [List.foldl_append, List.foldl_cons, List.foldl_nil, List.filterMap_append]
      refine ⟨sized_apply before e, ?_⟩
      rw [history_apply before]
      cases accepted : recorded key e with
      | none => simpa [accepted] using entries
      | some p =>
          have full : (history key (es.foldl apply r)).capacity = capacity := capacity_history before key
          simp only [Option.elim_some, HistoryBuffer.push, entries, full, List.filterMap_cons_some accepted,
            List.filterMap_nil, retained_concat, List.length_map]
          split <;> simp

end

end ChannelRouterService
end RealtimePlatform.Backend
