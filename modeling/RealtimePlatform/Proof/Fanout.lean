import RealtimePlatform.Backend.RouterInvariants

namespace RealtimePlatform.Proof.Fanout
open Library Backend SharedRouter

variable {α : Type*}

def fanout (key : ChannelKey) (targets : List (WildcardKey × SenderId)) : List SenderId :=
  (targets.filter fun target => (Source.wildcard target.1).matches key).map (·.2)

theorem foldl_sendWildcard (m : Published α) (targets : List (WildcardKey × SenderId)) (n : Nat)
    (r : SharedRouter α) :
    targets.foldl (fun acc target =>
        let next := acc.2.sendWildcard m target
        (acc.1 + next.1, next.2)) (n, r) =
      (n + ((fanout m.key targets).map fun sender => r.board.receiverCount sender).sum,
        { r with board := r.board.sendAll (fanout m.key targets) m }) := by
  induction targets generalizing n r with
  | nil => rfl
  | cons target targets ih =>
      rw [List.foldl_cons, ih]
      by_cases hit : (Source.wildcard target.1).matches m.key = true
      · have chosen : fanout m.key (target :: targets) = target.2 :: fanout m.key targets := by
          simp [fanout, hit]
        simp only [chosen, SharedRouter.sendWildcard, hit, if_true, List.map_cons, List.sum_cons,
          Switchboard.receiverCount_send, Switchboard.sendAll, List.foldl_cons, Nat.add_assoc]
      · have skipped : fanout m.key (target :: targets) = fanout m.key targets := by
          simp [fanout, hit]
        simp [skipped, SharedRouter.sendWildcard, hit]

section
variable {r : SharedRouter α} (sound : r.Sound)

include sound in
theorem nodup_fanout (key : ChannelKey) : (fanout key r.snapshotWildcards).Nodup := by
  have keys : (r.snapshotWildcards.map (·.1)).Nodup := by
    rw [snapshotWildcards, List.map_map]
    exact r.wildcards.nodupKeys
  have sources : (r.snapshotWildcards.map fun target => target.2.source).Nodup := by
    have same : r.snapshotWildcards.map (fun target => target.2.source) =
        (r.snapshotWildcards.map (·.1)).map Source.wildcard := by
      rw [List.map_map]
      refine List.map_congr_left fun target member => ?_
      obtain ⟨e, stored, rfl⟩ := List.mem_map.mp member
      exact sound.wildcard_source (AList.mem_lookup_iff.mpr stored)
    rw [same]
    exact keys.map fun _ _ => Source.wildcard.inj
  have senders : (r.snapshotWildcards.map (·.2)).Nodup := by
    refine List.Nodup.of_map SenderId.source ?_
    rw [List.map_map]
    exact sources
  exact senders.sublist (List.filter_sublist.map _)

include sound in
theorem mem_fanout_iff (wild : WildcardsAttached r) {rx : Nat}
    {a : Attached SenderId Obtained (Published α)} (live : r.board.find rx = some a) (key : ChannelKey) :
    a.sender ∈ fanout key r.snapshotWildcards ↔
      ∃ own, a.tag.source = .wildcard own ∧ (Source.wildcard own).matches key = true := by
  rw [fanout, List.mem_map]
  constructor
  · rintro ⟨target, chosen, here⟩
    obtain ⟨member, hit⟩ := List.mem_filter.mp chosen
    obtain ⟨e, stored, rfl⟩ := List.mem_map.mp member
    have made := sound.wildcard_source (AList.mem_lookup_iff.mpr stored)
    refine ⟨e.1, ?_, hit⟩
    rw [← sound.receiver_source live, ← here, made]
  · rintro ⟨own, source, hit⟩
    have stored := AList.mem_lookup_iff.mp (wild rx a own live source)
    exact ⟨(own, a.sender), List.mem_filter.mpr ⟨List.mem_map.mpr ⟨_, stored, rfl⟩, hit⟩, rfl⟩

include sound in
theorem matches_iff (wild : WildcardsAttached r) {rx : Nat}
    {a : Attached SenderId Obtained (Published α)} (live : r.board.find rx = some a) (key : ChannelKey) :
    a.tag.source.matches key = true ↔ a.sender = (r.getOrCreateChannel key).1.sender ∨
      a.sender ∈ fanout key r.snapshotWildcards := by
  rw [sound.on_channel key live, mem_fanout_iff sound wild live]
  cases source : a.tag.source with
  | channel own => simp [Source.matches]
  | wildcard own => simp

end

theorem publish_own (key : ChannelKey) (frame : α) (nowSecs : Nat) (r : SharedRouter α) :
    r.publish key.tenantId key frame nowSecs =
      (.ok (r.board.receiverCount (r.getOrCreateChannel key).1.sender +
          ((fanout key r.snapshotWildcards).map fun sender => r.board.receiverCount sender).sum),
        { (r.publishExact key frame nowSecs).2 with
          board := (r.board.send (r.getOrCreateChannel key).1.sender (r.message key frame)).sendAll
            (fanout key r.snapshotWildcards) (r.message key frame) }) := by
  have exact : r.publishExact key frame nowSecs =
      (r.board.receiverCount (r.getOrCreateChannel key).1.sender, (r.publishExact key frame nowSecs).2) := by
    rw [← (getOrCreateChannel_frame key r).1]
    rfl
  have snapshot : (r.publishExact key frame nowSecs).2.snapshotWildcards = r.snapshotWildcards := by
    rw [snapshotWildcards, wildcards_publishExact]
    rfl
  rw [publish, if_neg (not_not.mpr rfl)]
  simp only
  rw [snapshot, exact, foldl_sendWildcard, board_publishExact]
  simp only [Switchboard.receiverCount_send]
  rfl

section
variable {r : SharedRouter α} (sound : r.Sound) (wild : WildcardsAttached r)

include sound in
theorem exact_notMem_fanout (key : ChannelKey) :
    (r.getOrCreateChannel key).1.sender ∉ fanout key r.snapshotWildcards := by
  intro member
  obtain ⟨target, chosen, here⟩ := List.mem_map.mp member
  obtain ⟨e, stored, rfl⟩ := List.mem_map.mp (List.mem_filter.mp chosen).1
  have wildcard := sound.wildcard_source (AList.mem_lookup_iff.mpr stored)
  have exact := (sound.getOrCreateChannel key).channel_source (lookup_getOrCreateChannel key r)
  rw [← here, wildcard] at exact
  cases exact

include sound wild in
theorem find_publish (key : ChannelKey) (frame : α) (nowSecs rx : Nat) :
    (r.publish key.tenantId key frame nowSecs).2.board.find rx = (r.board.find rx).map fun a =>
      if a.tag.source.matches key then a.push (r.message key frame) else a := by
  rw [publish_own]
  simp only
  rw [Switchboard.find_sendAll (nodup_fanout sound key), Switchboard.find_send, Option.map_map]
  cases live : r.board.find rx with
  | none => rfl
  | some a =>
      have either := matches_iff sound wild live key
      simp only [Option.map_some, Option.some.injEq, Function.comp_apply]
      by_cases here : a.sender = (r.getOrCreateChannel key).1.sender
      · have once : (a.push (r.message key frame)).sender ∉ fanout key r.snapshotWildcards :=
          here ▸ exact_notMem_fanout sound key
        rw [if_pos here, if_neg once, if_pos (either.mpr (Or.inl here))]
      · rw [if_neg here]
        by_cases member : a.sender ∈ fanout key r.snapshotWildcards
        · rw [if_pos member, if_pos (either.mpr (Or.inr member))]
        · have missed : ¬ a.tag.source.matches key = true := fun hit =>
            (either.mp hit).elim here member
          rw [if_neg member, if_neg missed]

include sound wild in
theorem count_publish (key : ChannelKey) (frame : α) (nowSecs : Nat) :
    (r.publish key.tenantId key frame nowSecs).1 =
      .ok (r.board.count fun a => a.tag.source.matches key) := by
  rw [publish_own, Switchboard.sum_receiverCount (nodup_fanout sound key), Switchboard.receiverCount,
    ← Switchboard.count_or]
  · refine congrArg Except.ok (Switchboard.count_congr fun rx a live => ?_)
    rw [Bool.eq_iff_iff, Bool.or_eq_true, decide_eq_true_eq, decide_eq_true_eq]
    exact (matches_iff sound wild live key).symm
  · intro a here
    rw [of_decide_eq_true here]
    exact decide_eq_false (exact_notMem_fanout sound key)

end

theorem sound_sendAll {r : SharedRouter α} (sound : r.Sound) {senders : List SenderId} (m : Published α)
    (made : ∀ sender ∈ senders, ∃ key, sender.source = .wildcard key) :
    Sound { r with board := r.board.sendAll senders m } := by
  induction senders generalizing r with
  | nil => exact sound
  | cons sender senders ih =>
      obtain ⟨key, source⟩ := made sender List.mem_cons_self
      exact ih (sound.send m source) fun other member => made other (List.mem_cons_of_mem sender member)

theorem sound_publish {r : SharedRouter α} (sound : r.Sound) (key : ChannelKey) (frame : α)
    (nowSecs : Nat) : (r.publish key.tenantId key frame nowSecs).2.Sound := by
  rw [publish_own, ← board_publishExact]
  refine sound_sendAll (sound.publishExact key frame nowSecs) (r.message key frame) fun sender member => ?_
  obtain ⟨target, chosen, rfl⟩ := List.mem_map.mp member
  obtain ⟨e, stored, rfl⟩ := List.mem_map.mp (List.mem_filter.mp chosen).1
  exact ⟨e.1, sound.wildcard_source (AList.mem_lookup_iff.mpr stored)⟩

theorem wildcardsAttached_publish {r : SharedRouter α} (sound : r.Sound) (wild : WildcardsAttached r)
    (key : ChannelKey) (frame : α) (nowSecs : Nat) :
    WildcardsAttached (r.publish key.tenantId key frame nowSecs).2 := by
  intro rx a other found own
  have wildcards : (r.publish key.tenantId key frame nowSecs).2.wildcards = r.wildcards := by
    rw [publish_own]
    exact wildcards_publishExact key frame nowSecs
  rw [find_publish sound wild, Option.map_eq_some_iff] at found
  obtain ⟨old, live, rfl⟩ := found
  rw [wildcards]
  by_cases hit : old.tag.source.matches key = true
  · rw [if_pos hit] at own ⊢
    exact wild rx old other live own
  · rw [if_neg hit] at own ⊢
    exact wild rx old other live own

theorem attached_perform {r t : SharedRouter α} {op : RouterOp α} (sound : r.Sound)
    (wild : WildcardsAttached r) (taken : perform r op = some t) : t.Sound ∧ WildcardsAttached t := by
  cases op with
  | subscribe sessionTenant key rx =>
      simp only [perform] at taken
      split at taken
      · cases taken
      · unfold SharedRouter.subscribe at taken
        by_cases own : sessionTenant = key.tenantId
        · simp only [ne_eq, own, not_true_eq_false, if_false, Option.some.injEq] at taken
          rw [← taken]
          exact ⟨sound.subscribe key rx, (wild.getOrCreateChannel key).attach fun _ other => by cases other⟩
        · simp only [ne_eq, own, not_false_eq_true, if_true, Option.some.injEq] at taken
          exact taken ▸ ⟨sound, wild⟩
  | subscribeWildcard sessionTenant pattern rx =>
      simp only [perform] at taken
      split at taken
      · cases taken
      · rw [← Option.some.inj taken]
        have created := sound.getOrCreateWildcardSender ⟨sessionTenant, pattern⟩
        have stored := lookup_getOrCreateWildcardSender ⟨sessionTenant, pattern⟩ r
        refine ⟨created.attachWildcard (created.wildcard_source stored), ?_⟩
        refine (wild.getOrCreateWildcardSender _).attach ?_
        rintro _ ⟨⟩
        exact stored
  | publish publisherTenant key frame nowSecs =>
      by_cases own : publisherTenant = key.tenantId
      · subst own
        rw [← Option.some.inj taken]
        exact ⟨sound_publish sound key frame nowSecs, wildcardsAttached_publish sound wild key frame nowSecs⟩
      · have refused : t = r := by
          rw [← Option.some.inj taken, SharedRouter.publish, if_pos own]
        exact refused ▸ ⟨sound, wild⟩
  | replay durableSince requesterTenant key sinceUnixSecs =>
      rw [← Option.some.inj taken]
      exact ⟨sound.replay durableSince requesterTenant key sinceUnixSecs,
        wild.replay durableSince requesterTenant key sinceUnixSecs⟩
  | dropReceiver rx =>
      rw [← Option.some.inj taken]
      exact ⟨sound.dropReceiver rx, fun q a other found own =>
        wild q a other (Switchboard.find_of_detach found).2 own⟩
  | pruneEmpty key => exact Option.some.inj taken ▸ ⟨sound.pruneEmpty key, wild⟩
  | pruneDeadWildcards =>
      exact Option.some.inj taken ▸ ⟨sound.pruneDeadWildcards _, wild.pruneDeadWildcards _⟩

theorem attached_run {historyCapacity : Nat} {durable : Bool} {ops : List (RouterOp α)}
    {r : SharedRouter α} (reached : perform.run (withHistoryCapacity historyCapacity durable) ops = some r) :
    r.Sound ∧ WildcardsAttached r := by
  refine Step.run_invariant (I := fun r : SharedRouter α => r.Sound ∧ WildcardsAttached r)
    (fun _ _ _ held taken => attached_perform held.1 held.2 taken) reached
    ⟨sound_start historyCapacity durable, fun rx a key found => by cases found⟩

/-- A publish reaches each live receiver of the channel and of the patterns that match it once and no other,
counts them, and is recorded for its channel alone; one for another tenant does nothing. -/
theorem publish_spec {historyCapacity : Nat} {durable : Bool} {ops : List (RouterOp α)}
    {r : SharedRouter α} (reached : perform.run (withHistoryCapacity historyCapacity durable) ops = some r)
    (publisherTenant : TenantId) (key : ChannelKey) (frame : α) (nowSecs : Nat) :
    (publisherTenant = key.tenantId →
      (∀ rx, (r.publish publisherTenant key frame nowSecs).2.board.find rx =
        (r.board.find rx).map fun a =>
          if a.tag.source.matches key then a.push (r.message key frame) else a) ∧
      (r.publish publisherTenant key frame nowSecs).1 =
        .ok (r.board.count fun a => a.tag.source.matches key) ∧
      (r.publish publisherTenant key frame nowSecs).2.history key = (r.history key).push nowSecs frame ∧
      ∀ other, other ≠ key →
        (r.publish publisherTenant key frame nowSecs).2.history other = r.history other) ∧
    (publisherTenant ≠ key.tenantId → r.publish publisherTenant key frame nowSecs =
      (.error (.tenantMismatch publisherTenant key.tenantId), r)) := by
  obtain ⟨sound, wild⟩ := attached_run reached
  constructor
  · rintro rfl
    refine ⟨find_publish sound wild key frame nowSecs, count_publish sound wild key frame nowSecs, ?_, ?_⟩
    · rw [publish_own]
      exact history_publishExact key frame nowSecs
    · intro other apart
      rw [publish_own]
      exact history_publishExact_ne frame nowSecs apart
  · intro foreign
    rw [SharedRouter.publish, if_pos foreign]

section
open Lobby

def joining : List (RouterOp Nat) :=
  [.subscribe acme lobby 0, .subscribeWildcard acme "*" 1, .subscribe acme ⟨acme, "orders"⟩ 2]

def joined : SharedRouter Nat :=
  (perform.run (withHistoryCapacity 50 false) joining).getD (withHistoryCapacity 50 false)

theorem publish_spec_joined : (joined.publish acme lobby 5 100).1 = .ok 2 := by
  have reached : perform.run (withHistoryCapacity 50 false) joining = some joined := rfl
  have two : (joined.board.count fun a => a.tag.source.matches lobby) = 2 := by decide
  have counted := ((publish_spec reached acme lobby 5 100).1 rfl).2.1
  rw [counted, two]

end

end RealtimePlatform.Proof.Fanout
