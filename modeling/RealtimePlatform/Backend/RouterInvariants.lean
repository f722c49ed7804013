import RealtimePlatform.Backend.SharedRouter
import Mathlib.Data.List.DropRight

/-!
# What the router's locks keep
-/

namespace RealtimePlatform.Backend
open Library
namespace SharedRouter
variable {α : Type*}

structure Sound (r : SharedRouter α) : Prop where
  channel_source : ∀ {key state}, AList.lookup key r.channels = some state →
    state.sender.source = .channel key
  wildcard_source : ∀ {key sender}, AList.lookup key r.wildcards = some sender →
    sender.source = .wildcard key
  receiver_source : ∀ {rx a}, r.board.find rx = some a → a.sender.source = a.tag.source
  begun_le : ∀ {rx a}, r.board.find rx = some a → a.tag.begun ≤ r.begun
  serial_lt : ∀ {key m}, m ∈ r.published key → m.key = key ∧ m.serial < r.begun
  attached : ∀ {rx a key}, r.board.find rx = some a → a.tag.source = .channel key →
    ∃ state, AList.lookup key r.channels = some state ∧ state.sender = a.sender
  received : ∀ {rx a key}, r.board.find rx = some a → a.tag.source = .channel key →
    ∃ earlier, r.published key = earlier ++ a.log ∧ (∀ m ∈ earlier, m.serial < a.tag.begun) ∧
      ∀ m ∈ a.log, a.tag.begun ≤ m.serial

section
variable {r : SharedRouter α} {key : ChannelKey} {wildcard : WildcardKey} {sender : SenderId} {rx : Nat}

theorem sound_start (historyCapacity : Nat) (durable : Bool) :
    Sound (withHistoryCapacity historyCapacity durable : SharedRouter α) where
  channel_source found := by cases found
  wildcard_source found := by cases found
  receiver_source found := by cases found
  begun_le found := by cases found
  serial_lt member := absurd member List.not_mem_nil
  attached found := by cases found
  received found := by cases found

theorem getOrCreateChannel_cases (key : ChannelKey) (r : SharedRouter α) :
    (∃ state, AList.lookup key r.channels = some state ∧ r.getOrCreateChannel key = (state, r)) ∨
      AList.lookup key r.channels = none ∧ r.getOrCreateChannel key = (r.freshChannel key, { r with
        channels := AList.insert key (r.freshChannel key) r.channels, made := r.made + 1 }) := by
  unfold getOrCreateChannel
  cases found : AList.lookup key r.channels with
  | some state => exact Or.inl ⟨state, rfl, rfl⟩
  | none => exact Or.inr ⟨rfl, rfl⟩

theorem getOrCreateWildcardSender_cases (key : WildcardKey) (r : SharedRouter α) :
    (∃ sender, AList.lookup key r.wildcards = some sender ∧
        r.getOrCreateWildcardSender key = (sender, r)) ∨
      AList.lookup key r.wildcards = none ∧ r.getOrCreateWildcardSender key = (⟨.wildcard key, r.made⟩,
        { r with wildcards := AList.insert key ⟨.wildcard key, r.made⟩ r.wildcards, made := r.made + 1 }) := by
  unfold getOrCreateWildcardSender
  cases found : AList.lookup key r.wildcards with
  | some sender => exact Or.inl ⟨sender, rfl, rfl⟩
  | none => exact Or.inr ⟨rfl, rfl⟩

theorem lookup_getOrCreateChannel (key : ChannelKey) (r : SharedRouter α) :
    AList.lookup key (r.getOrCreateChannel key).2.channels = some (r.getOrCreateChannel key).1 := by
  rcases getOrCreateChannel_cases key r with ⟨state, found, created⟩ | ⟨absent, created⟩
  · rw [created]
    exact found
  · rw [created]
    exact AList.lookup_insert r.channels

theorem lookup_getOrCreateChannel_ne {other : ChannelKey} (apart : other ≠ key) :
    AList.lookup other (r.getOrCreateChannel key).2.channels = AList.lookup other r.channels := by
  rcases getOrCreateChannel_cases key r with ⟨state, found, created⟩ | ⟨absent, created⟩
  · rw [created]
  · rw [created]
    exact AList.lookup_insert_ne apart

theorem lookup_getOrCreateWildcardSender (key : WildcardKey) (r : SharedRouter α) :
    AList.lookup key (r.getOrCreateWildcardSender key).2.wildcards =
      some (r.getOrCreateWildcardSender key).1 := by
  rcases getOrCreateWildcardSender_cases key r with ⟨sender, found, created⟩ | ⟨absent, created⟩
  · rw [created]
    exact found
  · rw [created]
    exact AList.lookup_insert r.wildcards

theorem lookup_getOrCreateWildcardSender_of_some {other : WildcardKey}
    (found : AList.lookup other r.wildcards = some sender) :
    AList.lookup other (r.getOrCreateWildcardSender wildcard).2.wildcards = some sender := by
  rcases getOrCreateWildcardSender_cases wildcard r with ⟨_, _, created⟩ | ⟨absent, created⟩
  · rw [created]
    exact found
  · have apart : other ≠ wildcard := by
      rintro rfl
      rw [absent] at found
      cases found
    rw [created]
    exact (AList.lookup_insert_ne apart).trans found

theorem getOrCreateChannel_frame (key : ChannelKey) (r : SharedRouter α) :
    (r.getOrCreateChannel key).2.board = r.board ∧ (r.getOrCreateChannel key).2.wildcards = r.wildcards ∧
      (r.getOrCreateChannel key).2.begun = r.begun ∧
      (r.getOrCreateChannel key).2.published = r.published ∧
      (r.getOrCreateChannel key).2.historyCapacity = r.historyCapacity := by
  rcases getOrCreateChannel_cases key r with ⟨state, found, created⟩ | ⟨absent, created⟩ <;>
    rw [created] <;> exact ⟨rfl, rfl, rfl, rfl, rfl⟩

theorem getOrCreateWildcardSender_frame (key : WildcardKey) (r : SharedRouter α) :
    (r.getOrCreateWildcardSender key).2.board = r.board ∧
      (r.getOrCreateWildcardSender key).2.channels = r.channels ∧
      (r.getOrCreateWildcardSender key).2.begun = r.begun ∧
      (r.getOrCreateWildcardSender key).2.published = r.published ∧
      (r.getOrCreateWildcardSender key).2.historyCapacity = r.historyCapacity := by
  rcases getOrCreateWildcardSender_cases key r with ⟨state, found, created⟩ | ⟨absent, created⟩ <;>
    rw [created] <;> exact ⟨rfl, rfl, rfl, rfl, rfl⟩

theorem Sound.getOrCreateChannel (sound : Sound r) (key : ChannelKey) :
    Sound (r.getOrCreateChannel key).2 := by
  rcases getOrCreateChannel_cases key r with ⟨state, found, created⟩ | ⟨absent, created⟩
  · rw [created]
    exact sound
  · rw [created]
    refine { sound with channel_source := ?_, attached := ?_ }
    · intro other state found
      by_cases same : other = key
      · subst same
        rw [AList.lookup_insert, Option.some.injEq] at found
        rw [← found]
        rfl
      · rw [AList.lookup_insert_ne same] at found
        exact sound.channel_source found
    · intro rx a other live source
      obtain ⟨state, found, same⟩ := sound.attached live source
      have apart : other ≠ key := by
        rintro rfl
        rw [absent] at found
        cases found
      exact ⟨state, (AList.lookup_insert_ne apart).trans found, same⟩

theorem Sound.getOrCreateWildcardSender (sound : Sound r) (key : WildcardKey) :
    Sound (r.getOrCreateWildcardSender key).2 := by
  rcases getOrCreateWildcardSender_cases key r with ⟨state, found, created⟩ | ⟨absent, created⟩
  · rw [created]
    exact sound
  · rw [created]
    refine { sound with wildcard_source := ?_ }
    intro other sender found
    by_cases same : other = key
    · subst same
      rw [AList.lookup_insert, Option.some.injEq] at found
      rw [← found]
    · rw [AList.lookup_insert_ne same] at found
      exact sound.wildcard_source found

theorem Sound.attach (sound : Sound r) {source : Source} (made : sender.source = source)
    (stored : ∀ key, source = .channel key →
      ∃ state, AList.lookup key r.channels = some state ∧ state.sender = sender) :
    Sound (r.attach source sender rx) := by
  refine { sound with receiver_source := ?_, begun_le := ?_, attached := ?_, received := ?_ }
  · intro q a found
    rcases Switchboard.find_attach_cases found with ⟨_, rfl⟩ | ⟨_, before⟩
    · exact made
    · exact sound.receiver_source before
  · intro q a found
    rcases Switchboard.find_attach_cases found with ⟨_, rfl⟩ | ⟨_, before⟩
    · exact le_rfl
    · exact sound.begun_le before
  · intro q a key found own
    rcases Switchboard.find_attach_cases found with ⟨_, rfl⟩ | ⟨_, before⟩
    · exact stored key own
    · exact sound.attached before own
  · intro q a key found own
    rcases Switchboard.find_attach_cases found with ⟨_, rfl⟩ | ⟨_, before⟩
    · exact ⟨r.published key, (List.append_nil _).symm, fun m member => (sound.serial_lt member).2,
        fun m member => absurd member List.not_mem_nil⟩
    · exact sound.received before own

theorem Sound.subscribe (sound : Sound r) (key : ChannelKey) (rx : Nat) :
    Sound ((r.getOrCreateChannel key).2.attach (.channel key) (r.getOrCreateChannel key).1.sender rx) := by
  have created := sound.getOrCreateChannel key
  have stored := lookup_getOrCreateChannel key r
  refine created.attach (created.channel_source stored) ?_
  intro other same
  cases same
  exact ⟨_, stored, rfl⟩

theorem Sound.attachWildcard (sound : Sound r) (made : sender.source = .wildcard wildcard) :
    Sound (r.attach (.wildcard wildcard) sender rx) :=
  sound.attach made fun _ same => by cases same

theorem Sound.send (sound : Sound r) (m : Published α) (made : sender.source = .wildcard wildcard) :
    Sound { r with board := r.board.send sender m } := by
  refine { sound with receiver_source := ?_, begun_le := ?_, attached := ?_, received := ?_ }
  · intro q a found
    obtain ⟨old, there, on, tag, _⟩ := Switchboard.find_send_cases found
    rw [on, tag]
    exact sound.receiver_source there
  · intro q a found
    obtain ⟨old, there, _, tag, _⟩ := Switchboard.find_send_cases found
    rw [tag]
    exact sound.begun_le there
  · intro q a key found own
    obtain ⟨old, there, on, tag, _⟩ := Switchboard.find_send_cases found
    rw [on]
    exact sound.attached there (tag ▸ own)
  · intro q a key found own
    obtain ⟨old, there, on, tag, ⟨here, _⟩ | ⟨_, log⟩⟩ := Switchboard.find_send_cases found
    · have clash : old.tag.source = .wildcard wildcard := by
        rw [← sound.receiver_source there, here, made]
      rw [tag, clash] at own
      cases own
    · rw [log, tag]
      exact sound.received there (tag ▸ own)

theorem sendWildcard_frame (m : Published α) (target : WildcardKey × SenderId) (r : SharedRouter α) :
    (r.sendWildcard m target).2.begun = r.begun ∧ (r.sendWildcard m target).2.published = r.published ∧
      (r.sendWildcard m target).2.historyCapacity = r.historyCapacity := by
  unfold SharedRouter.sendWildcard
  split <;> exact ⟨rfl, rfl, rfl⟩

theorem replay_frame (durableSince : List α) (requesterTenant : TenantId) (key : ChannelKey)
    (sinceUnixSecs : Nat) (r : SharedRouter α) :
    (r.replay durableSince requesterTenant key sinceUnixSecs).2.board = r.board ∧
      (r.replay durableSince requesterTenant key sinceUnixSecs).2.wildcards = r.wildcards ∧
      (r.replay durableSince requesterTenant key sinceUnixSecs).2.begun = r.begun ∧
      (r.replay durableSince requesterTenant key sinceUnixSecs).2.published = r.published ∧
      (r.replay durableSince requesterTenant key sinceUnixSecs).2.historyCapacity = r.historyCapacity := by
  unfold SharedRouter.replay
  split
  · exact ⟨rfl, rfl, rfl, rfl, rfl⟩
  · split
    · exact ⟨rfl, rfl, rfl, rfl, rfl⟩
    · exact getOrCreateChannel_frame key r

theorem Sound.sendWildcard (sound : Sound r) (m : Published α) {target : WildcardKey × SenderId}
    (made : target.2.source = .wildcard target.1) : Sound (r.sendWildcard m target).2 := by
  unfold SharedRouter.sendWildcard
  split
  · exact sound.send m made
  · exact sound

section
variable (key : ChannelKey) (frame : α) (nowSecs : Nat)

theorem board_publishExact : (r.publishExact key frame nowSecs).2.board =
    r.board.send (r.getOrCreateChannel key).1.sender (r.message key frame) := by
  rw [← (getOrCreateChannel_frame key r).1]
  rfl

theorem published_publishExact : (r.publishExact key frame nowSecs).2.published =
    Function.update r.published key (r.published key ++ [r.message key frame]) := rfl

theorem lookup_publishExact : AList.lookup key (r.publishExact key frame nowSecs).2.channels =
    some ⟨(r.getOrCreateChannel key).1.sender, (r.getOrCreateChannel key).1.history.push nowSecs frame⟩ :=
  AList.lookup_insert _

theorem lookup_publishExact_ne {other : ChannelKey} (apart : other ≠ key) :
    AList.lookup other (r.publishExact key frame nowSecs).2.channels = AList.lookup other r.channels := by
  have inserted : AList.lookup other (r.publishExact key frame nowSecs).2.channels =
      AList.lookup other (r.getOrCreateChannel key).2.channels := AList.lookup_insert_ne apart
  exact inserted.trans (lookup_getOrCreateChannel_ne apart)

theorem wildcards_publishExact : (r.publishExact key frame nowSecs).2.wildcards = r.wildcards :=
  (getOrCreateChannel_frame key r).2.1

theorem Sound.on_channel (sound : Sound r) {a : Attached SenderId Obtained (Published α)}
    (live : r.board.find rx = some a) :
    a.sender = (r.getOrCreateChannel key).1.sender ↔ a.tag.source = .channel key := by
  have created := sound.getOrCreateChannel key
  have stored := lookup_getOrCreateChannel key r
  constructor
  · intro here
    rw [← sound.receiver_source live, here, created.channel_source stored]
  · intro own
    rw [← (getOrCreateChannel_frame key r).1] at live
    obtain ⟨state, held, same⟩ := created.attached live own
    rw [stored, Option.some.injEq] at held
    rw [← same, held]

theorem Sound.publishExact (sound : Sound r) : Sound (r.publishExact key frame nowSecs).2 := by
  have created := sound.getOrCreateChannel key
  have stored := lookup_getOrCreateChannel key r
  have channel_source : ∀ {other state}, AList.lookup other (r.publishExact key frame nowSecs).2.channels =
      some state → state.sender.source = .channel other := by
    intro other state found
    by_cases same : other = key
    · subst same
      rw [lookup_publishExact, Option.some.injEq] at found
      have made := created.channel_source stored
      rw [← found]
      exact made
    · rw [lookup_publishExact_ne key frame nowSecs same] at found
      exact sound.channel_source found
  refine ⟨channel_source, ?_, ?_, ?_, ?_, ?_, ?_⟩
  · rw [wildcards_publishExact]
    exact sound.wildcard_source
  · intro q a found
    rw [board_publishExact] at found
    obtain ⟨old, there, on, tag, _⟩ := Switchboard.find_send_cases found
    rw [on, tag]
    exact sound.receiver_source there
  · intro q a found
    rw [board_publishExact] at found
    obtain ⟨old, there, _, tag, _⟩ := Switchboard.find_send_cases found
    rw [tag]
    exact (sound.begun_le there).trans (Nat.le_succ _)
  · intro other m member
    rw [published_publishExact] at member
    by_cases same : other = key
    · subst same
      rw [Function.update_self] at member
      rcases List.mem_append.mp member with earlier | now
      · exact ⟨(sound.serial_lt earlier).1, Nat.lt_succ_of_lt (sound.serial_lt earlier).2⟩
      · rw [List.mem_singleton.mp now]
        exact ⟨rfl, Nat.lt_succ_self _⟩
    · rw [Function.update_of_ne same] at member
      exact ⟨(sound.serial_lt member).1, Nat.lt_succ_of_lt (sound.serial_lt member).2⟩
  · intro q a other found own
    rw [board_publishExact] at found
    obtain ⟨old, there, on, tag, _⟩ := Switchboard.find_send_cases found
    rw [tag] at own
    rw [on]
    by_cases same : other = key
    · subst same
      exact ⟨_, lookup_publishExact _ _ _, ((sound.on_channel other there).mpr own).symm⟩
    · rw [lookup_publishExact_ne key frame nowSecs same]
      exact sound.attached there own
  · intro q a other found own
    rw [board_publishExact] at found
    obtain ⟨old, there, on, tag, sent⟩ := Switchboard.find_send_cases found
    rw [tag] at own
    rw [tag, published_publishExact]
    obtain ⟨earlier, split, before, after⟩ := sound.received there own
    rcases sent with ⟨here, log⟩ | ⟨elsewhere, log⟩
    · have same := (sound.on_channel key there).mp here
      cases own.symm.trans same
      refine ⟨earlier, ?_, before, ?_⟩
      · rw [Function.update_self, log, ← List.append_assoc, ← split]
      · intro m member
        rw [log] at member
        rcases List.mem_append.mp member with old | now
        · exact after m old
        · rw [List.mem_singleton.mp now]
          exact sound.begun_le there
    · have apart : other ≠ key := by
        rintro rfl
        exact elsewhere ((sound.on_channel other there).mpr own)
      rw [Function.update_of_ne apart, log]
      exact ⟨earlier, split, before, after⟩

end

theorem Sound.dropReceiver (sound : Sound r) (rx : Nat) : Sound (r.dropReceiver rx) where
  channel_source := sound.channel_source
  wildcard_source := sound.wildcard_source
  receiver_source found := sound.receiver_source (Switchboard.find_of_detach found).2
  begun_le found := sound.begun_le (Switchboard.find_of_detach found).2
  serial_lt := sound.serial_lt
  attached found := sound.attached (Switchboard.find_of_detach found).2
  received found := sound.received (Switchboard.find_of_detach found).2

theorem Sound.pruneDeadWildcards (sound : Sound r) (shard : WildcardKey → Bool) :
    Sound (r.pruneDeadWildcards shard) := by
  refine { sound with wildcard_source := ?_ }
  intro key sender found
  rw [SharedRouter.pruneDeadWildcards, Table.lookup_retain, Option.filter_eq_some_iff] at found
  exact sound.wildcard_source found.1

theorem Sound.pruneEmpty (sound : Sound r) (key : ChannelKey) : Sound (r.pruneEmpty key) := by
  refine { sound with channel_source := ?_, attached := ?_ }
  · intro other state found
    rw [SharedRouter.pruneEmpty, Table.lookup_retain, Option.filter_eq_some_iff] at found
    exact sound.channel_source found.1
  · intro q a other live own
    obtain ⟨state, found, same⟩ := sound.attached live own
    have listened : r.board.receiverCount state.sender ≠ 0 := by
      intro none
      exact Switchboard.receiverCount_eq_zero.mp none q a live same.symm
    refine ⟨state, ?_, same⟩
    rw [SharedRouter.pruneEmpty, Table.lookup_retain, found]
    simp [listened]

theorem Sound.replay (sound : Sound r) (durableSince : List α) (requesterTenant : TenantId)
    (key : ChannelKey) (sinceUnixSecs : Nat) :
    Sound (r.replay durableSince requesterTenant key sinceUnixSecs).2 := by
  unfold SharedRouter.replay
  split
  · exact sound
  · split
    · exact sound
    · exact sound.getOrCreateChannel key

def WildcardsAttached (r : SharedRouter α) : Prop :=
  ∀ rx a key, r.board.find rx = some a → a.tag.source = .wildcard key →
    AList.lookup key r.wildcards = some a.sender

theorem WildcardsAttached.attach (wild : WildcardsAttached r) {source : Source} {sender : SenderId}
    {rx : Nat} (stored : ∀ key, source = .wildcard key → AList.lookup key r.wildcards = some sender) :
    WildcardsAttached (r.attach source sender rx) := by
  intro q a key found own
  rcases Switchboard.find_attach_cases found with ⟨_, rfl⟩ | ⟨_, before⟩
  · exact stored key own
  · exact wild q a key before own

theorem WildcardsAttached.getOrCreateChannel (wild : WildcardsAttached r) (key : ChannelKey) :
    WildcardsAttached (r.getOrCreateChannel key).2 := by
  obtain ⟨board, wildcards, _⟩ := getOrCreateChannel_frame key r
  intro q a other found own
  rw [board] at found
  rw [wildcards]
  exact wild q a other found own

theorem WildcardsAttached.getOrCreateWildcardSender (wild : WildcardsAttached r) (key : WildcardKey) :
    WildcardsAttached (r.getOrCreateWildcardSender key).2 := by
  intro q a other found own
  rw [(getOrCreateWildcardSender_frame key r).1] at found
  exact lookup_getOrCreateWildcardSender_of_some (wild q a other found own)

theorem WildcardsAttached.pruneDeadWildcards (wild : WildcardsAttached r) (shard : WildcardKey → Bool) :
    WildcardsAttached (r.pruneDeadWildcards shard) := by
  intro q a key found own
  have listened : 0 < r.board.receiverCount a.sender := by
    refine Nat.pos_of_ne_zero fun none => ?_
    exact Switchboard.receiverCount_eq_zero.mp none q a found rfl
  rw [SharedRouter.pruneDeadWildcards, Table.lookup_retain, wild q a key found own]
  simp [listened]

theorem WildcardsAttached.send (wild : WildcardsAttached r) (m : Published α) (sender : SenderId) :
    WildcardsAttached { r with board := r.board.send sender m } := by
  intro q a key found own
  obtain ⟨old, there, on, tag, _⟩ := Switchboard.find_send_cases found
  rw [on]
  exact wild q old key there (tag ▸ own)

theorem WildcardsAttached.replay (wild : WildcardsAttached r) (durableSince : List α)
    (requesterTenant : TenantId) (key : ChannelKey) (sinceUnixSecs : Nat) :
    WildcardsAttached (r.replay durableSince requesterTenant key sinceUnixSecs).2 := by
  obtain ⟨board, wildcards, _⟩ := replay_frame durableSince requesterTenant key sinceUnixSecs r
  intro q a other found own
  rw [board] at found
  rw [wildcards]
  exact wild q a other found own

theorem history_getOrCreateChannel (key other : ChannelKey) :
    (r.getOrCreateChannel key).2.history other = r.history other := by
  rcases getOrCreateChannel_cases key r with ⟨state, found, created⟩ | ⟨absent, created⟩
  · rw [created]
  · rw [created]
    by_cases same : other = key
    · subst same
      simp [history, absent, freshChannel]
    · simp [history, AList.lookup_insert_ne same]

theorem history_publishExact (key : ChannelKey) (frame : α) (nowSecs : Nat) :
    (r.publishExact key frame nowSecs).2.history key = (r.history key).push nowSecs frame := by
  have before := @history_getOrCreateChannel _ r key key
  rw [history, lookup_getOrCreateChannel] at before
  rw [history, lookup_publishExact, ← before]
  rfl

theorem history_publishExact_ne {key other : ChannelKey} (frame : α) (nowSecs : Nat)
    (apart : other ≠ key) : (r.publishExact key frame nowSecs).2.history other = r.history other := by
  have capacity : (r.publishExact key frame nowSecs).2.historyCapacity = r.historyCapacity :=
    (getOrCreateChannel_frame key r).2.2.2.2
  rw [history, lookup_publishExact_ne key frame nowSecs apart, capacity]
  rfl

def Recorded (r : SharedRouter α) : Prop :=
  ∀ key, (r.history key).capacity = r.historyCapacity ∧
    (r.history key).entries.map (·.frame) = ((r.published key).map (·.frame)).rtake r.historyCapacity

theorem frames_push {buf : HistoryBuffer α} {frames : List α} (positive : 0 < buf.capacity)
    (held : buf.entries.map (·.frame) = frames.rtake buf.capacity) (nowSecs : Nat) (frame : α) :
    (buf.push nowSecs frame).entries.map (·.frame) = (frames ++ [frame]).rtake buf.capacity := by
  have size := congrArg List.length held
  simp only [List.length_map, List.rtake, List.length_drop] at size
  unfold HistoryBuffer.push List.rtake
  simp only [List.map_append, List.map_cons, List.map_nil, List.length_append, List.length_singleton]
  by_cases full : buf.entries.length = buf.capacity
  · rw [if_pos full, List.map_drop, held, List.rtake, List.drop_drop, List.drop_append_of_le_length (by omega)]
    congr 2
    omega
  · rw [if_neg full, held, List.rtake, List.drop_append_of_le_length (by omega)]
    congr 2
    omega

theorem recorded_start (historyCapacity : Nat) (durable : Bool) :
    Recorded (withHistoryCapacity historyCapacity durable : SharedRouter α) :=
  fun _ => ⟨rfl, List.drop_nil.symm⟩

theorem Recorded.getOrCreateChannel (recorded : Recorded r) (key : ChannelKey) :
    Recorded (r.getOrCreateChannel key).2 := by
  intro other
  obtain ⟨_, _, _, published, capacity⟩ := getOrCreateChannel_frame key r
  rw [history_getOrCreateChannel, published, capacity]
  exact recorded other

theorem Recorded.getOrCreateWildcardSender (recorded : Recorded r) (key : WildcardKey) :
    Recorded (r.getOrCreateWildcardSender key).2 := by
  rcases getOrCreateWildcardSender_cases key r with ⟨state, found, created⟩ | ⟨absent, created⟩ <;>
    rw [created] <;> exact recorded

theorem Recorded.sendWildcard (recorded : Recorded r) (m : Published α)
    (target : WildcardKey × SenderId) : Recorded (r.sendWildcard m target).2 := by
  unfold SharedRouter.sendWildcard
  split <;> exact recorded

theorem Recorded.replay (recorded : Recorded r) (durableSince : List α) (requesterTenant : TenantId)
    (key : ChannelKey) (sinceUnixSecs : Nat) :
    Recorded (r.replay durableSince requesterTenant key sinceUnixSecs).2 := by
  unfold SharedRouter.replay
  split
  · exact recorded
  · split
    · exact recorded
    · exact recorded.getOrCreateChannel key

theorem Recorded.publishExact (recorded : Recorded r) (positive : 0 < r.historyCapacity)
    (key : ChannelKey) (frame : α) (nowSecs : Nat) :
    Recorded (r.publishExact key frame nowSecs).2 := by
  intro other
  have capacity : (r.publishExact key frame nowSecs).2.historyCapacity = r.historyCapacity :=
    (getOrCreateChannel_frame key r).2.2.2.2
  rw [capacity, published_publishExact]
  obtain ⟨size, held⟩ := recorded other
  by_cases same : other = key
  · subst same
    rw [history_publishExact, Function.update_self, List.map_append]
    refine ⟨size, ?_⟩
    have pushed := frames_push (size ▸ positive) (size.symm ▸ held) nowSecs frame
    rw [size] at pushed
    exact pushed
  · rw [history_publishExact_ne frame nowSecs same, Function.update_of_ne same]
    exact ⟨size, held⟩

theorem Recorded.pruneEmpty (recorded : Recorded r) (key : ChannelKey) : Recorded (r.pruneEmpty key) := by
  intro other
  have same : (r.pruneEmpty key).history other = r.history other := by
    obtain ⟨size, _⟩ := recorded other
    unfold history at size ⊢
    rw [SharedRouter.pruneEmpty, Table.lookup_retain]
    cases found : AList.lookup other r.channels with
    | none => rfl
    | some state =>
        rw [found] at size
        rw [Option.filter_some]
        split
        · rfl
        · rename_i pruned
          simp only [Bool.not_eq_true, Bool.not_eq_false', Bool.and_eq_true] at pruned
          have empty : state.history.entries = [] := List.isEmpty_iff.mp pruned.2
          have whole : state.history = HistoryBuffer.new r.historyCapacity := by
            rw [HistoryBuffer.new, ← size, ← empty]
            rfl
          simp [whole]
  have kept := recorded other
  rw [← same] at kept
  exact kept

def Grows (r r' : SharedRouter α) : Prop :=
  r.begun ≤ r'.begun ∧ ∀ rx a, r'.board.find rx = some a → r.begun ≤ a.tag.begun ∨
    ∃ old, r.board.find rx = some old ∧ a.sender = old.sender ∧ a.tag = old.tag ∧ old.log <+: a.log

theorem grows_of_board {r' : SharedRouter α} (begun : r'.begun = r.begun) (board : r'.board = r.board) :
    Grows r r' := by
  refine ⟨begun.ge, fun rx a live => Or.inr ⟨a, board ▸ live, rfl, rfl, List.prefix_rfl⟩⟩

theorem grows_attach {r' : SharedRouter α} (begun : r'.begun = r.begun) (board : r'.board = r.board)
    (source : Source) (sender : SenderId) (rx : Nat) : Grows r (r'.attach source sender rx) := by
  refine ⟨begun.ge, fun q a live => ?_⟩
  rcases Switchboard.find_attach_cases live with ⟨_, rfl⟩ | ⟨_, before⟩
  · exact Or.inl begun.ge
  · exact Or.inr ⟨a, board ▸ before, rfl, rfl, List.prefix_rfl⟩

theorem grows_send {r' : SharedRouter α} (m : Published α) (begun : r.begun ≤ r'.begun)
    (board : r'.board = r.board.send sender m) : Grows r r' := by
  refine ⟨begun, fun q a live => Or.inr ?_⟩
  rw [board] at live
  obtain ⟨old, there, on, tag, ⟨_, log⟩ | ⟨_, log⟩⟩ := Switchboard.find_send_cases live
  · exact ⟨old, there, on, tag, log ▸ List.prefix_append _ _⟩
  · exact ⟨old, there, on, tag, log ▸ List.prefix_rfl⟩

theorem grows_sendWildcard (m : Published α) (target : WildcardKey × SenderId) :
    Grows r (r.sendWildcard m target).2 := by
  unfold SharedRouter.sendWildcard
  split
  · exact grows_send m le_rfl rfl
  · exact grows_of_board rfl rfl

theorem grows_dropReceiver (rx : Nat) : Grows r (r.dropReceiver rx) :=
  ⟨le_rfl, fun _ a live => Or.inr ⟨a, (Switchboard.find_of_detach live).2, rfl, rfl, List.prefix_rfl⟩⟩

theorem grows_replay (durableSince : List α) (requesterTenant : TenantId) (key : ChannelKey)
    (sinceUnixSecs : Nat) : Grows r (r.replay durableSince requesterTenant key sinceUnixSecs).2 := by
  obtain ⟨board, _, begun, _⟩ := replay_frame durableSince requesterTenant key sinceUnixSecs r
  exact grows_of_board begun board

end
end SharedRouter

namespace RouterSystem
variable {α : Type*}

/-- What a step does to the router and the tasks. -/
inductive Moved (s : RouterSystem α) : RouterEvent α → RouterSystem α → Prop where
  | refusedSubscribe (sessionTenant : TenantId) (key : ChannelKey) (rx : Nat) :
      Moved s (.subscribe sessionTenant key rx) s
  | subscribe (key : ChannelKey) (rx : Nat) (free : s.router.board.find rx = none) :
      Moved s (.subscribe key.tenantId key rx) { s with
        router := (s.router.getOrCreateChannel key).2.attach (.channel key)
          (s.router.getOrCreateChannel key).1.sender rx }
  | clone (task : Nat) (key : WildcardKey) (idle : AList.lookup task s.tasks = none) :
      Moved s (.getOrCreateWildcardSender task key.tenantId key.pattern)
        (s.continueWith task (.subscribing key (s.router.getOrCreateWildcardSender key).1)
          (s.router.getOrCreateWildcardSender key).2)
  | subscribeClone (task rx : Nat) (key : WildcardKey) (sender : SenderId)
      (pending : AList.lookup task s.tasks = some (.subscribing key sender))
      (free : s.router.board.find rx = none) :
      Moved s (.subscribeClone task rx) { s with
        router := s.router.attach (.wildcard key) sender rx, tasks := AList.erase task s.tasks }
  | refusedPublish (task : Nat) (publisherTenant : TenantId) (key : ChannelKey) (frame : α)
      (nowSecs : Nat) : Moved s (.publishExact task publisherTenant key frame nowSecs) s
  | publishExact (task : Nat) (key : ChannelKey) (frame : α) (nowSecs : Nat)
      (idle : AList.lookup task s.tasks = none) :
      Moved s (.publishExact task key.tenantId key frame nowSecs)
        (s.continueWith task
          (.published (s.router.message key frame) (s.router.publishExact key frame nowSecs).1)
          (s.router.publishExact key frame nowSecs).2)
  | snapshot (task : Nat) (m : Published α) (delivered : Nat)
      (pending : AList.lookup task s.tasks = some (.published m delivered)) :
      Moved s (.snapshotWildcards task)
        (s.continueWith task (.sending m s.router.snapshotWildcards delivered) s.router)
  | send (task : Nat) (m : Published α) (target : WildcardKey × SenderId)
      (targets : List (WildcardKey × SenderId)) (delivered : Nat)
      (pending : AList.lookup task s.tasks = some (.sending m (target :: targets) delivered)) :
      Moved s (.sendWildcard task)
        (s.continueWith task (.sending m targets (delivered + (s.router.sendWildcard m target).1))
          (s.router.sendWildcard m target).2)
  | returns (task : Nat) (m : Published α) (delivered : Nat)
      (pending : AList.lookup task s.tasks = some (.sending m [] delivered)) :
      Moved s (.returnPublish task) { s with
        tasks := AList.erase task s.tasks, returned := s.returned ++ [(m, delivered)] }
  | replay (durableSince : List α) (requesterTenant : TenantId) (key : ChannelKey) (sinceUnixSecs : Nat) :
      Moved s (.replay durableSince requesterTenant key sinceUnixSecs) { s with
        router := (s.router.replay durableSince requesterTenant key sinceUnixSecs).2 }
  | drop (rx : Nat) : Moved s (.dropReceiver rx) { s with router := s.router.dropReceiver rx }
  | pruneEmpty (key : ChannelKey) : Moved s (.pruneEmpty key) { s with router := s.router.pruneEmpty key }
  | pruneDead (shard : WildcardKey → Bool) :
      Moved s (.pruneDeadWildcards shard) { s with router := s.router.pruneDeadWildcards shard }

theorem moved_of_step {s t : RouterSystem α} {e : RouterEvent α} (taken : step s e = some t) :
    Moved s e t := by
  cases e with
  | subscribe sessionTenant key rx =>
      simp only [step] at taken
      split at taken
      · cases taken
      · rename_i free
        rw [Bool.not_eq_true, Option.isSome_eq_false_iff, Option.isNone_iff_eq_none] at free
        unfold SharedRouter.subscribe at taken
        by_cases own : sessionTenant = key.tenantId
        · subst own
          simp only [ne_eq, not_true_eq_false, if_false, Option.some.injEq] at taken
          exact taken ▸ .subscribe key rx free
        · simp only [ne_eq, own, not_false_eq_true, if_true, Option.some.injEq] at taken
          exact taken ▸ .refusedSubscribe sessionTenant key rx
  | getOrCreateWildcardSender task sessionTenant pattern =>
      simp only [step] at taken
      split at taken
      · cases taken
      · rename_i free
        rw [Bool.not_eq_true, Option.isSome_eq_false_iff, Option.isNone_iff_eq_none] at free
        exact Option.some.inj taken ▸ .clone task ⟨sessionTenant, pattern⟩ free
  | subscribeClone task rx =>
      simp only [step] at taken
      split at taken
      · rename_i key sender pending
        split at taken
        · cases taken
        · rename_i free
          rw [Bool.not_eq_true, Option.isSome_eq_false_iff, Option.isNone_iff_eq_none] at free
          exact Option.some.inj taken ▸ .subscribeClone task rx key sender pending free
      · cases taken
  | publishExact task publisherTenant key frame nowSecs =>
      simp only [step] at taken
      split at taken
      · cases taken
      · rename_i free
        rw [Bool.not_eq_true, Option.isSome_eq_false_iff, Option.isNone_iff_eq_none] at free
        split at taken
        · exact Option.some.inj taken ▸ .refusedPublish task publisherTenant key frame nowSecs
        · rename_i own
          rw [ne_eq, not_not] at own
          subst own
          exact Option.some.inj taken ▸ .publishExact task key frame nowSecs free
  | snapshotWildcards task =>
      simp only [step] at taken
      split at taken
      · rename_i m delivered pending
        exact Option.some.inj taken ▸ .snapshot task m delivered pending
      · cases taken
  | sendWildcard task =>
      simp only [step] at taken
      split at taken
      · rename_i m target targets delivered pending
        exact Option.some.inj taken ▸ .send task m target targets delivered pending
      · cases taken
  | returnPublish task =>
      simp only [step] at taken
      split at taken
      · rename_i m delivered pending
        exact Option.some.inj taken ▸ .returns task m delivered pending
      · cases taken
  | replay durableSince requesterTenant key sinceUnixSecs =>
      exact Option.some.inj taken ▸ .replay durableSince requesterTenant key sinceUnixSecs
  | dropReceiver rx => exact Option.some.inj taken ▸ .drop rx
  | pruneEmpty key => exact Option.some.inj taken ▸ .pruneEmpty key
  | pruneDeadWildcards shard => exact Option.some.inj taken ▸ .pruneDead shard

theorem grows_step {s t : RouterSystem α} {e : RouterEvent α} (taken : step s e = some t) :
    s.router.Grows t.router := by
  cases moved_of_step taken with
  | subscribe key rx free =>
      obtain ⟨board, _, begun, _⟩ := SharedRouter.getOrCreateChannel_frame key s.router
      exact SharedRouter.grows_attach begun board _ _ rx
  | clone task key idle =>
      obtain ⟨board, _, begun, _⟩ := SharedRouter.getOrCreateWildcardSender_frame key s.router
      exact SharedRouter.grows_of_board begun board
  | subscribeClone task rx key sender pending free => exact SharedRouter.grows_attach rfl rfl _ _ rx
  | publishExact task key frame nowSecs idle =>
      exact SharedRouter.grows_send _ (Nat.le_succ _)
        (SharedRouter.board_publishExact key frame nowSecs)
  | send task m target targets delivered pending => exact SharedRouter.grows_sendWildcard m target
  | replay durableSince requesterTenant key sinceUnixSecs =>
      exact SharedRouter.grows_replay durableSince requesterTenant key sinceUnixSecs
  | drop rx => exact SharedRouter.grows_dropReceiver rx
  | refusedSubscribe | refusedPublish | snapshot | returns | pruneEmpty | pruneDead =>
      exact SharedRouter.grows_of_board rfl rfl

structure Consistent (s : RouterSystem α) : Prop where
  sound : s.router.Sound
  clone_source : ∀ {task key sender}, AList.lookup task s.tasks = some (.subscribing key sender) →
    sender.source = .wildcard key
  target_source : ∀ {task m targets delivered},
    AList.lookup task s.tasks = some (.sending m targets delivered) →
    ∀ target ∈ targets, target.2.source = .wildcard target.1

theorem consistent_start (historyCapacity : Nat) (durable : Bool) :
    Consistent (start historyCapacity durable : RouterSystem α) where
  sound := SharedRouter.sound_start historyCapacity durable
  clone_source pending := by cases pending
  target_source pending := by cases pending

section
variable {s : RouterSystem α} {r : SharedRouter α} {task : Nat} {next : RouterTask α}

theorem lookup_continueWith {other : Nat} {found : RouterTask α}
    (pending : AList.lookup other (s.continueWith task next r).tasks = some found) :
    other = task ∧ found = next ∨ other ≠ task ∧ AList.lookup other s.tasks = some found := by
  by_cases same : other = task
  · rw [same, continueWith, AList.lookup_insert, Option.some.injEq] at pending
    exact Or.inl ⟨same, pending.symm⟩
  · rw [continueWith, AList.lookup_insert_ne same] at pending
    exact Or.inr ⟨same, pending⟩

theorem lookup_of_erase {other : Nat} {tasks : Table Nat (RouterTask α)}
    (pending : AList.lookup other (AList.erase task tasks) = some next) :
    AList.lookup other tasks = some next := by
  by_cases same : other = task
  · rw [same, AList.lookup_erase] at pending
    cases pending
  · rw [AList.lookup_erase_ne same] at pending
    exact pending

theorem Consistent.continueWith (consistent : Consistent s) (sound : r.Sound)
    (cloned : ∀ key sender, next = .subscribing key sender → sender.source = .wildcard key)
    (targeted : ∀ m targets delivered, next = .sending m targets delivered →
      ∀ target ∈ targets, target.2.source = .wildcard target.1) :
    Consistent (s.continueWith task next r) where
  sound := sound
  clone_source {other key sender} pending := by
    rcases lookup_continueWith pending with ⟨_, rfl⟩ | ⟨_, before⟩
    · exact cloned key sender rfl
    · exact consistent.clone_source before
  target_source {other m targets delivered} pending := by
    rcases lookup_continueWith pending with ⟨_, rfl⟩ | ⟨_, before⟩
    · exact targeted m targets delivered rfl
    · exact consistent.target_source before

end

theorem consistent_step {s t : RouterSystem α} {e : RouterEvent α} (consistent : Consistent s)
    (taken : step s e = some t) : Consistent t := by
  have whole := consistent
  obtain ⟨sound, clone_source, target_source⟩ := consistent
  cases moved_of_step taken with
  | refusedSubscribe | refusedPublish => exact whole
  | subscribe key rx free => exact ⟨sound.subscribe key rx, clone_source, target_source⟩
  | clone task key idle =>
      have created := sound.getOrCreateWildcardSender key
      refine whole.continueWith created ?_ (fun _ _ _ other => by cases other)
      rintro _ _ ⟨⟩
      exact created.wildcard_source (SharedRouter.lookup_getOrCreateWildcardSender key s.router)
  | subscribeClone task rx key sender pending free =>
      exact ⟨sound.attachWildcard (clone_source pending),
        fun found => clone_source (lookup_of_erase found), fun found => target_source (lookup_of_erase found)⟩
  | publishExact task key frame nowSecs idle =>
      exact whole.continueWith (sound.publishExact key frame nowSecs)
        (fun _ _ other => by cases other) (fun _ _ _ other => by cases other)
  | snapshot task m delivered pending =>
      refine whole.continueWith sound (fun _ _ other => by cases other) ?_
      rintro _ _ _ ⟨⟩ target member
      obtain ⟨e, stored, rfl⟩ := List.mem_map.mp member
      exact sound.wildcard_source (AList.mem_lookup_iff.mpr stored)
  | send task m target targets delivered pending =>
      have made := target_source pending
      refine whole.continueWith (sound.sendWildcard m (made target List.mem_cons_self))
        (fun _ _ other => by cases other) ?_
      rintro _ _ _ ⟨⟩
      exact fun other member => made other (List.mem_cons_of_mem target member)
  | returns task m delivered pending =>
      exact ⟨sound, fun found => clone_source (lookup_of_erase found),
        fun found => target_source (lookup_of_erase found)⟩
  | replay durableSince requesterTenant key sinceUnixSecs =>
      exact ⟨sound.replay durableSince requesterTenant key sinceUnixSecs, clone_source, target_source⟩
  | drop rx => exact ⟨sound.dropReceiver rx, clone_source, target_source⟩
  | pruneEmpty key => exact ⟨sound.pruneEmpty key, clone_source, target_source⟩
  | pruneDead shard => exact ⟨sound.pruneDeadWildcards shard, clone_source, target_source⟩

theorem consistent_run {historyCapacity : Nat} {durable : Bool} {es : List (RouterEvent α)}
    {s : RouterSystem α} (reached : step.run (start historyCapacity durable) es = some s) :
    Consistent s :=
  Step.run_invariant (fun _ _ _ held taken => consistent_step held taken) reached
    (consistent_start historyCapacity durable)

end RouterSystem

namespace Lobby

def acme : TenantId := ⟨[0, 0, 0, 0, 0, 0, 64, 0, 128, 0, 0, 0, 0, 0, 0, 7], rfl⟩

def lobby : ChannelKey := ⟨acme, "lobby"⟩

/-- The state that a run of events leads to. -/
def after (es : List (RouterEvent Nat)) : RouterSystem Nat :=
  (RouterSystem.step.run (RouterSystem.start 2 false) es).getD (RouterSystem.start 2 false)

end Lobby
end RealtimePlatform.Backend
