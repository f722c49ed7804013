import RealtimePlatform.Backend.Steps

/-!
# What the router has sent and kept

To its receivers a router is the logs of what was sent to each, and to a REPLAY the entries it kept for
each channel. One lemma for each operation and each view.
-/

namespace RealtimePlatform.Backend
open Library

namespace ChannelRouterService
variable {α : Type*} (r : ChannelRouterService α)

theorem sent_attach (key : ChannelKey) (rx : ReceiverId) (source : Source) (q : ReceiverId) :
    (r.attach key rx).sent source q =
      if source = .channel key ∧ q = rx then some [] else r.sent source q := by
  cases source with
  | wildcard wk =>
      rw [if_neg fun both => by cases both.1]
      rfl
  | channel own =>
      by_cases here : own = key
      · subst here
        simp only [sent, bus, attach, Table.lookup_upsert, Option.map_some, Option.bind_some,
          true_and]
        by_cases mine : q = rx
        · rw [if_pos mine, mine, Bus.sent_subscribe]
        · rw [if_neg mine, Bus.sent_subscribe_ne _ mine]
          cases AList.lookup own r.channels <;> rfl
      · have apart : Source.channel own ≠ .channel key := fun same => here (Source.channel.inj same)
        rw [if_neg fun both => apart both.1]
        simp only [sent, bus, attach, Table.lookup_upsert_ne _ _ _ here]

theorem sent_subscribeWildcard (tenantId : TenantId) (pattern : String) (rx : ReceiverId)
    (source : Source) (q : ReceiverId) :
    (r.subscribeWildcard tenantId pattern rx).sent source q =
      if source = .wildcard ⟨tenantId, pattern⟩ ∧ q = rx then some [] else r.sent source q := by
  cases source with
  | channel key =>
      rw [if_neg fun both => by cases both.1]
      rfl
  | wildcard own =>
      by_cases here : own = ⟨tenantId, pattern⟩
      · subst here
        simp only [sent, bus, subscribeWildcard, Table.lookup_upsert, Option.bind_some, true_and]
        by_cases mine : q = rx
        · rw [if_pos mine, mine, Bus.sent_subscribe]
        · rw [if_neg mine, Bus.sent_subscribe_ne _ mine]
          cases AList.lookup (⟨tenantId, pattern⟩ : WildcardKey) r.wildcards <;> rfl
      · have apart : Source.wildcard own ≠ .wildcard ⟨tenantId, pattern⟩ :=
          fun same => here (Source.wildcard.inj same)
        rw [if_neg fun both => apart both.1]
        simp only [sent, bus, subscribeWildcard, Table.lookup_upsert_ne _ _ _ here]

theorem sent_publish (tenantId : TenantId) (key : ChannelKey) (frame : α) (nowSecs : Nat)
    (source : Source) (q : ReceiverId) :
    (r.publish tenantId key frame nowSecs).2.sent source q =
      if tenantId = key.tenantId ∧ source.matches key = true then
        (r.sent source q).map (· ++ [frame])
      else r.sent source q := by
  unfold publish
  by_cases own : tenantId = key.tenantId
  · rw [if_neg (not_not.mpr own)]
    simp only [own, true_and]
    cases source with
    | channel k =>
        by_cases here : k = key
        · subst here
          simp only [sent, bus, Table.lookup_upsert, Source.matches, decide_true, if_true,
            Option.map_some, Option.bind_some, Bus.sent_send]
          cases AList.lookup k r.channels <;> rfl
        · simp only [sent, bus, Table.lookup_upsert_ne _ _ _ here, Source.matches, here,
            decide_false, Bool.false_eq_true, if_false]
    | wildcard wk =>
        simp only [sent, bus, Table.lookup_rewrite]
        cases AList.lookup wk r.wildcards with
        | none => simp
        | some sender =>
            simp only [Option.map_some, Option.bind_some]
            split <;> simp
  · rw [if_pos own, if_neg fun both => own both.1]

theorem sent_replay (redis : RedisStreams α) (tenantId : TenantId) (key : ChannelKey) (since : Nat)
    (source : Source) (q : ReceiverId) :
    (r.replay redis tenantId key since).2.sent source q = r.sent source q := by
  unfold replay
  split
  · rfl
  split
  · rfl
  · cases source with
    | wildcard wk => rfl
    | channel k =>
        by_cases here : k = key
        · subst here
          simp only [sent, bus, Table.lookup_upsert]
          cases AList.lookup k r.channels <;> rfl
        · simp only [sent, bus, Table.lookup_upsert_ne _ _ _ here]

theorem sent_of_receiverCount {b : Bus ReceiverId α} (none : b.receiverCount = 0) (q : ReceiverId) :
    b.sent q = Option.none := by
  have empty : b.receivers.entries = [] := List.length_eq_zero_iff.mp none
  apply AList.lookup_eq_none.mpr
  intro member
  rw [AList.mem_keys, AList.keys, empty] at member
  cases member

theorem sent_pruneEmpty (key : ChannelKey) (source : Source) (q : ReceiverId) :
    (r.pruneEmpty key).sent source q = r.sent source q := by
  cases source with
  | wildcard wk => rfl
  | channel k =>
      simp only [sent, bus, pruneEmpty, Table.lookup_retain]
      cases AList.lookup k r.channels with
      | none => rfl
      | some state =>
          by_cases kept : (k = key && state.sender.receiverCount == 0 && state.history.isEmpty) = true
          · have unused : state.sender.receiverCount = 0 := by
              simp only [Bool.and_eq_true, beq_iff_eq] at kept
              exact kept.1.2
            simp [Option.filter, kept, sent_of_receiverCount unused]
          · simp [Option.filter, kept]

theorem sent_pruneDeadWildcards (source : Source) (q : ReceiverId) :
    r.pruneDeadWildcards.sent source q = r.sent source q := by
  cases source with
  | channel k => rfl
  | wildcard wk =>
      simp only [sent, bus, pruneDeadWildcards, Table.lookup_retain]
      cases AList.lookup wk r.wildcards with
      | none => rfl
      | some sender =>
          by_cases used : 0 < sender.receiverCount
          · simp [Option.filter, used]
          · simp [Option.filter, used, sent_of_receiverCount (Nat.eq_zero_of_not_pos used)]

theorem sent_detach (source : Source) (rx : ReceiverId) (other : Source) (q : ReceiverId) :
    (r.detach source rx).sent other q =
      if other = source ∧ q = rx then none else r.sent other q := by
  cases source with
  | channel key =>
      cases other with
      | wildcard wk =>
          rw [if_neg fun both => by cases both.1]
          rfl
      | channel k =>
          by_cases here : k = key
          · subst here
            simp only [sent, bus, detach, Table.lookup_adjust, true_and]
            cases AList.lookup k r.channels with
            | none => split <;> rfl
            | some state =>
                by_cases mine : q = rx
                · simp [mine]
                · simp [mine, Bus.sent_detach_ne _ mine]
          · have apart : Source.channel k ≠ .channel key := fun same => here (Source.channel.inj same)
            rw [if_neg fun both => apart both.1]
            simp only [sent, bus, detach, Table.lookup_adjust_ne _ _ here]
  | wildcard key =>
      cases other with
      | channel k =>
          rw [if_neg fun both => by cases both.1]
          rfl
      | wildcard k =>
          by_cases here : k = key
          · subst here
            simp only [sent, bus, detach, Table.lookup_adjust, true_and]
            cases AList.lookup k r.wildcards with
            | none => split <;> rfl
            | some sender =>
                by_cases mine : q = rx
                · simp [mine]
                · simp [mine, Bus.sent_detach_ne _ mine]
          · have apart : Source.wildcard k ≠ .wildcard key :=
              fun same => here (Source.wildcard.inj same)
            rw [if_neg fun both => apart both.1]
            simp only [sent, bus, detach, Table.lookup_adjust_ne _ _ here]

end ChannelRouterService

theorem Broadcasts.sent {r r' : ChannelRouterService Message} (broadcasts : Broadcasts r r')
    (source : Source) (rx : ReceiverId) :
    ∃ new, r'.sent source rx = (r.sent source rx).map (· ++ new) := by
  have kept : ∀ log : Option (List Message), log = log.map (· ++ []) := fun log => by simp
  induction broadcasts with
  | refl r => exact ⟨[], kept _⟩
  | trans _ _ first second =>
      obtain ⟨early, before⟩ := first
      obtain ⟨late, after⟩ := second
      refine ⟨early ++ late, ?_⟩
      rw [after, before, Option.map_map]
      congr 1
      funext log
      exact List.append_assoc log early late
  | publish r tenantId key frame nowSecs =>
      rw [r.sent_publish]
      split
      · exact ⟨_, rfl⟩
      · exact ⟨[], kept _⟩
  | replay r redis tenantId key since =>
      rw [r.sent_replay]
      exact ⟨[], kept _⟩
  | pruneEmpty r key =>
      rw [r.sent_pruneEmpty]
      exact ⟨[], kept _⟩
  | pruneDeadWildcards r =>
      rw [r.sent_pruneDeadWildcards]
      exact ⟨[], kept _⟩
  | drained port => exact ⟨[], kept _⟩

namespace ChannelRouterService
variable {α : Type*} (r : ChannelRouterService α)

theorem receive_eq {r : ChannelRouterService α} {source : Source} {rx : ReceiverId} {log : List α}
    (attached : r.sent source rx = some log) (next : Nat) : r.receive source rx next =
      if channelCapacity < log.length - next then .lagged
      else log[next]?.elim .empty .message := by
  obtain ⟨bus, found, held⟩ := Option.bind_eq_some_iff.mp attached
  simp only [receive, found, Bus.receive, held]
  split
  · rfl
  · cases log[next]? <;> rfl

theorem isOver_receive {r : ChannelRouterService α} {source : Source} {rx : ReceiverId} {log : List α}
    {next : Nat} (attached : r.sent source rx = some log) (near : log.length - next ≤ channelCapacity) :
    (r.receive source rx next).isOver = false := by
  rw [receive_eq attached, if_neg (Nat.not_lt.mpr near)]
  cases log[next]? <;> rfl

theorem receive_of_sent {r : ChannelRouterService α} {source : Source} {rx : ReceiverId}
    {log : List α} {next : Nat} {m : α} (attached : r.sent source rx = some log)
    (near : log.length - next ≤ channelCapacity) (waiting : log[next]? = some m) :
    r.receive source rx next = .message m := by
  rw [receive_eq attached, if_neg (Nat.not_lt.mpr near), waiting, Option.elim_some]

def kept (key : ChannelKey) : List (HistoryEntry α) := (r.getOrCreateChannel key).history.entries

theorem kept_attach (own : ChannelKey) (rx : ReceiverId) (key : ChannelKey) :
    (r.attach own rx).kept key = r.kept key := by
  unfold kept getOrCreateChannel attach
  by_cases here : key = own
  · subst here
    rw [Table.lookup_upsert, Option.getD_some]
  · rw [Table.lookup_upsert_ne _ _ _ here]
    rfl

theorem mem_kept_publish {tenantId : TenantId} {own key : ChannelKey} {frame : α} {nowSecs : Nat}
    {e : HistoryEntry α} (member : e ∈ (r.publish tenantId own frame nowSecs).2.kept key) :
    e ∈ r.kept key ∨ key = own ∧ e = ⟨nowSecs, frame⟩ := by
  unfold publish at member
  split at member
  · exact Or.inl member
  · unfold kept getOrCreateChannel at member ⊢
    by_cases here : key = own
    · subst here
      rw [Table.lookup_upsert, Option.getD_some] at member
      exact (HistoryBuffer.mem_push member).imp_right fun last => ⟨rfl, last⟩
    · rw [Table.lookup_upsert_ne _ _ _ here] at member
      exact Or.inl member

theorem kept_replay (redis : RedisStreams α) (tenantId : TenantId) (own : ChannelKey) (since : Nat)
    (key : ChannelKey) : (r.replay redis tenantId own since).2.kept key = r.kept key := by
  unfold replay
  split
  · rfl
  split
  · rfl
  · unfold kept getOrCreateChannel
    by_cases here : key = own
    · subst here
      rw [Table.lookup_upsert, Option.getD_some]
      rfl
    · rw [Table.lookup_upsert_ne _ _ _ here]
      rfl

theorem mem_kept_pruneEmpty {own key : ChannelKey} {e : HistoryEntry α}
    (member : e ∈ (r.pruneEmpty own).kept key) : e ∈ r.kept key := by
  unfold kept getOrCreateChannel pruneEmpty at member
  rw [Table.lookup_retain] at member
  unfold kept getOrCreateChannel
  cases found : AList.lookup key r.channels with
  | none =>
      rw [found] at member
      exact member
  | some state =>
      rw [found, Option.filter_some] at member
      split at member
      · exact member
      · cases member

theorem kept_detach (source : Source) (rx : ReceiverId) (key : ChannelKey) :
    (r.detach source rx).kept key = r.kept key := by
  cases source with
  | wildcard wk => rfl
  | channel own =>
      unfold kept getOrCreateChannel detach
      by_cases here : key = own
      · subst here
        simp only [Table.lookup_adjust]
        cases AList.lookup key r.channels <;> rfl
      · simp only [Table.lookup_adjust_ne _ _ here]
        rfl

end ChannelRouterService

structure Keyed (r : ChannelRouterService Message) : Prop where
  sent : ∀ source rx log, r.sent source rx = some log → ∀ m ∈ log, source.matches m.key = true
  kept : ∀ key, ∀ e ∈ r.kept key, e.frame.key = key
  outbound : ∀ port, r.historyPort = some port → ∀ pair ∈ port.outbound, pair.2.key = pair.1

theorem keyed_of_sent {r r' : ChannelRouterService Message} (keyed : Keyed r)
    (sent : ∀ source rx log, r'.sent source rx = some log → log = [] ∨ r.sent source rx = some log)
    (kept : ∀ key, ∀ e ∈ r'.kept key, e ∈ r.kept key) (port : r'.historyPort = r.historyPort) :
    Keyed r' where
  sent source rx log found m member := by
    rcases sent source rx log found with rfl | older
    · cases member
    · exact keyed.sent source rx log older m member
  kept key e member := keyed.kept key e (kept key e member)
  outbound := by
    rw [port]
    exact keyed.outbound

theorem keyed_publish {r : ChannelRouterService Message} (keyed : Keyed r) (tenantId : TenantId)
    (key : ChannelKey) (frame : RawFrame) (nowSecs : Nat) :
    Keyed (r.publish tenantId key ⟨frame, key⟩ nowSecs).2 where
  sent source rx log found m member := by
    rw [ChannelRouterService.sent_publish] at found
    split at found
    · rename_i hit
      obtain ⟨older, there, rfl⟩ := Option.map_eq_some_iff.mp found
      rcases List.mem_append.mp member with before | last
      · exact keyed.sent source rx older there m before
      · rw [List.mem_singleton.mp last]
        exact hit.2
    · exact keyed.sent source rx log found m member
  kept own e member := by
    rcases r.mem_kept_publish member with older | ⟨rfl, rfl⟩
    · exact keyed.kept own e older
    · rfl
  outbound port found pair member := by
    unfold ChannelRouterService.publish at found
    split at found
    · exact keyed.outbound port found pair member
    · obtain ⟨older, there, rfl⟩ := Option.map_eq_some_iff.mp found
      unfold RedisStreamsHistoryAdapter.persist at member
      split at member
      · rcases List.mem_append.mp member with before | last
        · exact keyed.outbound older there pair before
        · rw [List.mem_singleton.mp last]
      · exact keyed.outbound older there pair member

theorem Routed.keyed {r r' : ChannelRouterService Message} (routed : Routed r r') (keyed : Keyed r) :
    Keyed r' := by
  induction routed with
  | refl => exact keyed
  | trans _ _ first second => exact second (first keyed)
  | attach r key rx =>
      refine keyed_of_sent keyed (fun source q log found => ?_) (fun own e => ?_) rfl
      · rw [r.sent_attach] at found
        split at found
        · exact Or.inl (Option.some.inj found).symm
        · exact Or.inr found
      · rw [r.kept_attach]
        exact id
  | subscribeWildcard r tenantId pattern rx =>
      refine keyed_of_sent keyed (fun source q log found => ?_) (fun _ _ => id) rfl
      rw [r.sent_subscribeWildcard] at found
      split at found
      · exact Or.inl (Option.some.inj found).symm
      · exact Or.inr found
  | publish r tenantId key frame nowSecs => exact keyed_publish keyed tenantId key frame nowSecs
  | replay r redis tenantId key since =>
      refine keyed_of_sent keyed (fun source q log found => ?_) (fun own e => ?_) ?_
      · rw [r.sent_replay] at found
        exact Or.inr found
      · rw [r.kept_replay]
        exact id
      · unfold ChannelRouterService.replay
        split
        · rfl
        · split <;> rfl
  | pruneEmpty r key =>
      refine keyed_of_sent keyed (fun source q log found => ?_) (fun own e => r.mem_kept_pruneEmpty) rfl
      rw [r.sent_pruneEmpty] at found
      exact Or.inr found
  | pruneDeadWildcards r =>
      refine keyed_of_sent keyed (fun source q log found => ?_) (fun _ _ => id) rfl
      rw [r.sent_pruneDeadWildcards] at found
      exact Or.inr found
  | detach r source rx =>
      refine keyed_of_sent keyed (fun other q log found => ?_) (fun own e => ?_) ?_
      · rw [r.sent_detach] at found
        split at found
        · cases found
        · exact Or.inr found
      · rw [r.kept_detach]
        exact id
      · cases source <;> rfl
  | drained port =>
      rename_i r key m rest
      refine ⟨keyed.sent, keyed.kept, fun other found pair member => ?_⟩
      cases found
      exact keyed.outbound _ port pair (List.mem_cons_of_mem _ member)

def KeyedStreams (redis : RedisStreams Message) : Prop :=
  ∀ name, ∀ e ∈ redis name, streamKey e.frame.key = name

theorem keyed_xadd {redis redis' : RedisStreams Message} (keyed : KeyedStreams redis)
    {maxlen evicted : Nat} {key : ChannelKey} {id : Nat × Nat} {m : Message} (own : m.key = key)
    (added : redis.xadd maxlen evicted key id m = some redis') : KeyedStreams redis' := by
  unfold RedisStreams.xadd at added
  simp only at added
  split at added
  · cases added
    intro name e member
    by_cases here : name = streamKey key
    · subst here
      rw [Function.update_self] at member
      rcases List.mem_append.mp (List.mem_of_mem_drop member) with older | last
      · exact keyed _ e older
      · rw [List.mem_singleton.mp last, own]
    · rw [Function.update_of_ne here] at member
      exact keyed name e member
  · cases added

theorem key_of_replayed {r router : ChannelRouterService Message} {redis : RedisStreams Message}
    (keyed : Keyed r) (streams : KeyedStreams redis) {tenantId : TenantId} {key : ChannelKey}
    {since : Nat} {frames : List Message}
    (found : r.replay redis tenantId key since = (.ok frames, router)) {m : Message}
    (member : m ∈ frames) : m.key = key := by
  unfold ChannelRouterService.replay at found
  split at found
  · cases found
  split at found
  · cases found
    obtain ⟨e, there, rfl⟩ := RedisStreamsHistoryAdapter.mem_since member
    exact streamKey_injective (streams _ e there)
  · cases found
    obtain ⟨e, there, rfl⟩ := HistoryBuffer.mem_since member
    exact keyed.kept key e there

end RealtimePlatform.Backend
