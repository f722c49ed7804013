import RealtimePlatform.Backend.RouterInvariants
import Mathlib.Data.List.Sort

namespace RealtimePlatform.Proof.WildcardOrder
open Library Backend RouterSystem

variable {α : Type*}

def common (key : ChannelKey) (one two : List (Published α)) : List (Published α) :=
  one.filter fun m => m.key = key && two.any fun m' => m'.key = key && m'.serial == m.serial

/-- Receivers that match a channel are sent the frames they share in one order, that of the history. -/
def OrderAgrees (s : RouterSystem α) : Prop :=
  ∀ key rx rx' a a', s.router.board.find rx = some a → s.router.board.find rx' = some a' →
    a.tag.source.matches key = true → a'.tag.source.matches key = true →
    (a.tag.source ≠ .channel key ∨ a'.tag.source ≠ .channel key) →
    common key a.log a'.log = common key a'.log a.log ∧
      (common key a.log a'.log).Sublist (s.router.published key)

/-- What a publish sends to a pattern, no receiver of it has been sent a later frame of the channel before. -/
def NotOvertaken (s : RouterSystem α) (e : RouterEvent α) : Prop :=
  ∀ task m target targets delivered, e = .sendWildcard task →
    AList.lookup task s.tasks = some (.sending m (target :: targets) delivered) →
    (Source.wildcard target.1).matches m.key = true → ∀ rx a, s.router.board.find rx = some a →
    a.sender = target.2 → ∀ m' ∈ a.log, m'.key = m.key → m'.serial < m.serial

def Carries (m : Published α) : RouterTask α → Prop
  | .subscribing _ _ => False
  | .published own _ | .sending own _ _ => own = m

structure Logged (s : RouterSystem α) : Prop where
  sorted : ∀ key, (s.router.published key).Pairwise (·.serial < ·.serial)
  log : ∀ {rx a}, s.router.board.find rx = some a → ∀ m ∈ a.log, m ∈ s.router.published m.key
  carried : ∀ {task w m}, AList.lookup task s.tasks = some w → Carries m w →
    m ∈ s.router.published m.key

/-- In each log the frames of one channel are in the order of their publishes. -/
def Ordered (s : RouterSystem α) : Prop :=
  ∀ rx a, s.router.board.find rx = some a →
    a.log.Pairwise fun m m' => m.key = m'.key → m.serial < m'.serial

section
variable {s : RouterSystem α}

theorem Logged.eq_of_serial (logged : Logged s) {key : ChannelKey} {m m' : Published α}
    (member : m ∈ s.router.published key) (member' : m' ∈ s.router.published key)
    (same : m'.serial = m.serial) : m' = m := by
  have serials : ((s.router.published key).map (·.serial)).Pairwise (· < ·) :=
    List.pairwise_map.mpr (logged.sorted key)
  exact List.inj_on_of_nodup_map serials.nodup member' member same

theorem Logged.mem_common (logged : Logged s) {rx rx' : Nat}
    {a a' : Attached SenderId Obtained (Published α)} (live : s.router.board.find rx = some a)
    (live' : s.router.board.find rx' = some a') {key : ChannelKey} {m : Published α} :
    m ∈ common key a.log a'.log ↔ m ∈ a.log ∧ m ∈ a'.log ∧ m.key = key := by
  simp only [common, List.mem_filter, Bool.and_eq_true, decide_eq_true_eq, List.any_eq_true, beq_iff_eq]
  constructor
  · rintro ⟨member, own, m', member', own', same⟩
    have published := logged.log live m member
    have published' := logged.log live' m' member'
    rw [own] at published
    rw [own'] at published'
    rw [logged.eq_of_serial published published' same] at member'
    exact ⟨member, member', own⟩
  · rintro ⟨member, member', own⟩
    exact ⟨member, own, m, member', own, rfl⟩

theorem Ordered.common (ordered : Ordered s) {rx : Nat} {a : Attached SenderId Obtained (Published α)}
    (live : s.router.board.find rx = some a) (key : ChannelKey) (two : List (Published α)) :
    (common key a.log two).Pairwise (·.serial < ·.serial) := by
  unfold WildcardOrder.common
  rw [List.pairwise_filter]
  refine (ordered rx a live).imp fun before own own' => before ?_
  simp only [Bool.and_eq_true, decide_eq_true_eq] at own own'
  exact own.1.trans own'.1.symm

theorem orderAgrees_of_ordered (logged : Logged s) (ordered : Ordered s) : OrderAgrees s := by
  intro key rx rx' a a' live live' _ _ _
  have : Std.Antisymm fun m m' : Published α => m.serial < m'.serial :=
    ⟨fun _ _ before after => absurd (before.trans after) (lt_irrefl _)⟩
  have : Std.Irrefl fun m m' : Published α => m.serial < m'.serial := ⟨fun _ => lt_irrefl _⟩
  have one := ordered.common live key a'.log
  constructor
  · refine one.eq_of_mem_iff (ordered.common live' key a.log) fun m => ?_
    rw [logged.mem_common live live', logged.mem_common live' live]
    tauto
  · refine List.sublist_of_subperm_of_pairwise (List.subperm_of_subset one.nodup ?_) one
      (logged.sorted key)
    intro m member
    obtain ⟨sent, _, own⟩ := (logged.mem_common live live').mp member
    exact own ▸ logged.log live m sent

end

theorem logged_start (historyCapacity : Nat) (durable : Bool) :
    Logged (start historyCapacity durable : RouterSystem α) where
  sorted _ := List.Pairwise.nil
  log live := by cases live
  carried pending := by cases pending

section
variable {s t : RouterSystem α}

theorem Logged.keep (logged : Logged s) (published : t.router.published = s.router.published)
    (log : ∀ rx a, t.router.board.find rx = some a → ∀ m ∈ a.log, m ∈ s.router.published m.key)
    (carried : ∀ task w m, AList.lookup task t.tasks = some w → Carries m w →
      m ∈ s.router.published m.key) : Logged t where
  sorted key := by
    rw [published]
    exact logged.sorted key
  log live m member := by
    rw [published]
    exact log _ _ live m member
  carried pending carries := by
    rw [published]
    exact carried _ _ _ pending carries

theorem Logged.log_attach (logged : Logged s) {r : SharedRouter α} (board : r.board = s.router.board)
    {source : Source} {sender : SenderId} {rx q : Nat} {a : Attached SenderId Obtained (Published α)}
    (live : (r.attach source sender rx).board.find q = some a) :
    ∀ m ∈ a.log, m ∈ s.router.published m.key := by
  rcases Switchboard.find_attach_cases live with ⟨_, rfl⟩ | ⟨_, before⟩
  · exact fun m member => absurd member List.not_mem_nil
  · exact logged.log (board ▸ before)

theorem Logged.log_sendWildcard (logged : Logged s) {m : Published α}
    (known : m ∈ s.router.published m.key) {target : WildcardKey × SenderId} {q : Nat}
    {a : Attached SenderId Obtained (Published α)}
    (live : (s.router.sendWildcard m target).2.board.find q = some a) :
    ∀ m' ∈ a.log, m' ∈ s.router.published m'.key := by
  unfold SharedRouter.sendWildcard at live
  split at live
  · obtain ⟨old, there, _, _, ⟨_, log⟩ | ⟨_, log⟩⟩ := Switchboard.find_send_cases live
    · intro m' member
      rw [log] at member
      rcases List.mem_append.mp member with before | now
      · exact logged.log there m' before
      · rw [List.mem_singleton.mp now]
        exact known
    · exact log ▸ logged.log there
  · exact logged.log live

theorem Logged.continueWith (logged : Logged s) {task other : Nat} {next w : RouterTask α}
    {r : SharedRouter α} (known : ∀ m, Carries m next → m ∈ s.router.published m.key)
    (pending : AList.lookup other (s.continueWith task next r).tasks = some w) {m : Published α}
    (carries : Carries m w) : m ∈ s.router.published m.key := by
  rcases lookup_continueWith pending with ⟨_, rfl⟩ | ⟨_, before⟩
  · exact known m carries
  · exact logged.carried before carries

theorem logged_publishExact (logged : Logged s) (sound : s.router.Sound) (task : Nat) (key : ChannelKey)
    (frame : α) (nowSecs : Nat) : Logged (s.continueWith task
      (.published (s.router.message key frame) (s.router.publishExact key frame nowSecs).1)
      (s.router.publishExact key frame nowSecs).2) := by
  have kept : ∀ m, m ∈ s.router.published m.key →
      m ∈ Function.update s.router.published key
        (s.router.published key ++ [s.router.message key frame]) m.key := by
    intro m member
    by_cases same : m.key = key
    · rw [same] at member ⊢
      rw [Function.update_self]
      exact List.mem_append_left _ member
    · rw [Function.update_of_ne same]
      exact member
  have new : s.router.message key frame ∈ Function.update s.router.published key
      (s.router.published key ++ [s.router.message key frame]) key := by
    rw [Function.update_self]
    exact List.mem_append_right _ (List.mem_singleton.mpr rfl)
  refine ⟨fun other => ?_, fun {q a} live m member => ?_, fun {other w m} pending carries => ?_⟩
  · rw [RouterSystem.continueWith, SharedRouter.published_publishExact]
    by_cases same : other = key
    · subst same
      rw [Function.update_self, List.pairwise_append]
      refine ⟨logged.sorted other, List.pairwise_singleton _ _, fun m earlier m' now => ?_⟩
      rw [List.mem_singleton.mp now]
      exact (sound.serial_lt earlier).2
    · rw [Function.update_of_ne same]
      exact logged.sorted other
  · rw [RouterSystem.continueWith, SharedRouter.board_publishExact] at live
    obtain ⟨old, there, _, _, ⟨_, log⟩ | ⟨_, log⟩⟩ := Switchboard.find_send_cases live
    · rw [log] at member
      rcases List.mem_append.mp member with before | now
      · exact kept m (logged.log there m before)
      · rw [List.mem_singleton.mp now]
        exact new
    · rw [log] at member
      exact kept m (logged.log there m member)
  · rcases lookup_continueWith pending with ⟨_, rfl⟩ | ⟨_, before⟩
    · rw [← show s.router.message key frame = m from carries]
      exact new
    · exact kept m (logged.carried before carries)

end

theorem logged_step {s t : RouterSystem α} {e : RouterEvent α} (sound : s.router.Sound)
    (logged : Logged s) (taken : step s e = some t) : Logged t := by
  cases moved_of_step taken with
  | refusedSubscribe | refusedPublish => exact logged
  | subscribe key rx free =>
      obtain ⟨board, _, _, published, _⟩ := SharedRouter.getOrCreateChannel_frame key s.router
      exact logged.keep published (fun _ _ live => logged.log_attach board live)
        (fun _ _ _ => logged.carried)
  | clone task key idle =>
      obtain ⟨board, _, _, published, _⟩ := SharedRouter.getOrCreateWildcardSender_frame key s.router
      exact logged.keep published (fun _ _ live => logged.log (board ▸ live))
        (fun _ _ _ pending => logged.continueWith (fun _ => False.elim) pending)
  | subscribeClone task rx key sender pending free =>
      exact logged.keep rfl (fun _ _ live => logged.log_attach rfl live)
        (fun _ _ _ found => logged.carried (lookup_of_erase found))
  | publishExact task key frame nowSecs idle => 
      exact logged_publishExact logged sound task key frame nowSecs
  | snapshot task m delivered pending =>
      refine logged.keep rfl (fun _ _ => logged.log)
        (fun _ _ _ found => logged.continueWith (fun m' same => ?_) found)
      exact logged.carried pending same
  | send task m target targets delivered pending =>
      have known := logged.carried pending rfl
      obtain ⟨_, published, _⟩ := SharedRouter.sendWildcard_frame m target s.router
      refine logged.keep published (fun _ _ live => logged.log_sendWildcard known live)
        (fun _ _ _ found => logged.continueWith (fun m' same => ?_) found)
      exact logged.carried pending same
  | returns task m delivered pending =>
      exact logged.keep rfl (fun _ _ => logged.log)
        (fun _ _ _ found => logged.carried (lookup_of_erase found))
  | replay durableSince requesterTenant key sinceUnixSecs =>
      obtain ⟨board, _, _, published, _⟩ := SharedRouter.replay_frame durableSince requesterTenant key
        sinceUnixSecs s.router
      exact logged.keep published (fun _ _ live => logged.log (board ▸ live))
        (fun _ _ _ => logged.carried)
  | drop rx =>
      exact logged.keep rfl (fun _ _ live => logged.log (Switchboard.find_of_detach live).2)
        (fun _ _ _ => logged.carried)
  | pruneEmpty | pruneDead =>
      exact logged.keep rfl (fun _ _ => logged.log) (fun _ _ _ => logged.carried)

theorem ordered_attach {s : RouterSystem α} (ordered : Ordered s) {r : SharedRouter α}
    (board : r.board = s.router.board) {source : Source} {sender : SenderId} {rx q : Nat}
    {a : Attached SenderId Obtained (Published α)}
    (live : (r.attach source sender rx).board.find q = some a) :
    a.log.Pairwise fun m m' => m.key = m'.key → m.serial < m'.serial := by
  rcases Switchboard.find_attach_cases live with ⟨_, rfl⟩ | ⟨_, before⟩
  · exact List.Pairwise.nil
  · exact ordered q a (board ▸ before)

theorem ordered_send {s : RouterSystem α} (ordered : Ordered s) {m : Published α} {sender : SenderId}
    (latest : ∀ rx a, s.router.board.find rx = some a → a.sender = sender →
      ∀ m' ∈ a.log, m'.key = m.key → m'.serial < m.serial) {q : Nat}
    {a : Attached SenderId Obtained (Published α)}
    (live : (s.router.board.send sender m).find q = some a) :
    a.log.Pairwise fun m m' => m.key = m'.key → m.serial < m'.serial := by
  obtain ⟨old, there, _, _, ⟨here, log⟩ | ⟨_, log⟩⟩ := Switchboard.find_send_cases live
  · rw [log, List.pairwise_append]
    refine ⟨ordered q old there, List.pairwise_singleton _ _, fun m' before m'' now => ?_⟩
    rw [List.mem_singleton.mp now]
    exact latest q old there here m' before
  · exact log ▸ ordered q old there

theorem ordered_step {s t : RouterSystem α} {e : RouterEvent α} (sound : s.router.Sound) (logged : Logged s)
    (ordered : Ordered s) (inTurn : NotOvertaken s e) (taken : step s e = some t) : Ordered t := by
  cases moved_of_step taken with
  | subscribe key rx free =>
      exact fun _ _ => ordered_attach ordered (SharedRouter.getOrCreateChannel_frame key s.router).1
  | clone task key idle =>
      have board := (SharedRouter.getOrCreateWildcardSender_frame key s.router).1
      exact fun q a live => ordered q a (board ▸ live)
  | subscribeClone task rx key sender pending free => exact fun _ _ => ordered_attach ordered rfl
  | publishExact task key frame nowSecs idle =>
      have board := @SharedRouter.board_publishExact _ s.router key frame nowSecs
      intro q a live
      refine ordered_send ordered (fun rx old there _ m' member _ => ?_) (board ▸ live)
      exact (sound.serial_lt (logged.log there m' member)).2
  | send task m target targets delivered pending =>
      intro q a live
      simp only [continueWith, SharedRouter.sendWildcard] at live
      split at live
      · rename_i hit
        exact ordered_send ordered (inTurn task m target targets delivered rfl pending hit) live
      · exact ordered q a live
  | replay durableSince requesterTenant key sinceUnixSecs =>
      have board := (SharedRouter.replay_frame durableSince requesterTenant key sinceUnixSecs s.router).1
      exact fun q a live => ordered q a (board ▸ live)
  | drop rx => exact fun q a live => ordered q a (Switchboard.find_of_detach live).2
  | refusedSubscribe | refusedPublish | snapshot | returns | pruneEmpty | pruneDead => exact ordered

theorem logged_run {historyCapacity : Nat} {durable : Bool} {es : List (RouterEvent α)}
    {s : RouterSystem α} (reached : step.run (start historyCapacity durable) es = some s) :
    Consistent s ∧ Logged s :=
  Step.run_invariant (I := fun s : RouterSystem α => Consistent s ∧ Logged s)
    (fun _ _ _ held taken => ⟨consistent_step held.1 taken, logged_step held.1.sound held.2 taken⟩) reached
    ⟨consistent_start historyCapacity durable, logged_start historyCapacity durable⟩

theorem not_overtaken_of_agrees {s t : RouterSystem α} {e : RouterEvent α} (consistent : Consistent s)
    (logged : Logged t) (taken : step s e = some t) (agrees : OrderAgrees t) : NotOvertaken s e := by
  rintro task m target targets delivered rfl pending hit rx a live here m' member same
  cases moved_of_step taken with
  | send _ m'' target'' targets'' delivered'' pending'' =>
      cases pending.symm.trans pending''
      have source : a.tag.source = .wildcard target.1 := by
        rw [← consistent.sound.receiver_source live, here]
        exact consistent.target_source pending target List.mem_cons_self
      have now : (s.router.sendWildcard m target).2.board.find rx = some (a.push m) := by
        rw [SharedRouter.sendWildcard, if_pos hit, Switchboard.find_send, live, Option.map_some, if_pos here]
      have matching : (a.push m).tag.source.matches m.key = true := by
        rw [Attached.push, source]
        exact hit
      have pattern : (a.push m).tag.source ≠ .channel m.key := by
        rw [Attached.push, source]
        exact Source.noConfusion
      obtain ⟨_, sublist⟩ := agrees m.key rx rx _ _ now now matching matching (Or.inl pattern)
      have sorted := (logged.sorted m.key).sublist sublist
      have chosen : ∀ x ∈ a.log ++ [m], x.key = m.key → (decide (x.key = m.key) &&
          (a.log ++ [m]).any fun y => decide (y.key = m.key) && y.serial == x.serial) = true := by
        intro x inside own
        rw [Bool.and_eq_true, List.any_eq_true]
        exact ⟨decide_eq_true own, x, inside, by simp [own]⟩
      rw [common, Attached.push, List.filter_append, List.pairwise_append] at sorted
      exact sorted.2.2 m' (List.mem_filter.mpr ⟨member, chosen m' (List.mem_append_left _ member) same⟩)
        m (List.mem_filter.mpr ⟨List.mem_singleton.mpr rfl, chosen m (by simp) rfl⟩)

/-- The receivers of a channel and of the patterns that match it agree with the history on the order of the
frames they share, throughout a run, just when no send to a pattern is overtaken in it. -/
theorem order_agrees_iff {historyCapacity : Nat} {durable : Bool} {es : List (RouterEvent α)}
    {s : RouterSystem α} (reached : step.run (start historyCapacity durable) es = some s) :
    step.Throughout OrderAgrees (start historyCapacity durable) es ↔
      step.Meets NotOvertaken (start historyCapacity durable) es := by
  rw [Step.throughout_iff_prefixes, Step.meets_iff_prefixes]
  constructor
  · rintro agrees ds e t ⟨rest, rfl⟩ before
    obtain ⟨u, now, _⟩ := Step.run_append_iff.mp reached
    obtain ⟨t', before', taken⟩ := Step.run_concat_iff.mp now
    obtain rfl := Option.some.inj (before.symm.trans before')
    exact not_overtaken_of_agrees (logged_run before).1 (logged_run now).2 taken
      (agrees _ u (List.prefix_append _ _) now)
  · rintro inTurn ds t short before
    have met : step.Meets NotOvertaken (start historyCapacity durable) ds :=
      Step.meets_iff_prefixes.mpr fun es e u shorter => inTurn es e u (shorter.trans short)
    have held := Step.run_invariant_of_meets
      (I := fun s : RouterSystem α => (Consistent s ∧ Logged s) ∧ Ordered s)
      (fun s e t held inTurn taken => ⟨⟨consistent_step held.1.1 taken,
          logged_step held.1.1.sound held.1.2 taken⟩,
        ordered_step held.1.1.sound held.1.2 held.2 inTurn taken⟩) before
      ⟨⟨consistent_start historyCapacity durable, logged_start historyCapacity durable⟩,
        fun q a live => by cases live⟩ met
    exact orderAgrees_of_ordered held.1.2 held.2

section
open Lobby

def overtaking : List (RouterEvent Nat) :=
  [.subscribe acme lobby 0, .getOrCreateWildcardSender 1 acme "*", .subscribeClone 1 1,
    .publishExact 2 acme lobby 5 100, .publishExact 3 acme lobby 6 100, .snapshotWildcards 2,
    .snapshotWildcards 3, .sendWildcard 3, .sendWildcard 2, .returnPublish 3, .returnPublish 2]

theorem run_overtaking : step.run (start 2 false) overtaking = some (after overtaking) := rfl

def five : Published Nat := ⟨lobby, 0, 5⟩

def six : Published Nat := ⟨lobby, 1, 6⟩

theorem exact_overtaking : (after overtaking).router.board.find 0 =
    some ⟨⟨.channel lobby, 0⟩, ⟨.channel lobby, 0⟩, [five, six]⟩ := by rfl

theorem wildcard_overtaking : (after overtaking).router.board.find 1 =
    some ⟨⟨.wildcard ⟨acme, "*"⟩, 1⟩, ⟨.wildcard ⟨acme, "*"⟩, 0⟩, [six, five]⟩ := by
  rfl

theorem not_agrees_overtaking : ¬ OrderAgrees (after overtaking) := by
  intro agrees
  have frames := (agrees lobby 0 1 _ _ exact_overtaking wildcard_overtaking rfl (by decide)
    (Or.inr nofun)).1
  have one : (common lobby [five, six] [six, five]).map (·.frame) = [5, 6] := by decide
  have two : (common lobby [six, five] [five, six]).map (·.frame) = [6, 5] := by decide
  rw [frames, two] at one
  cases one

theorem disagree_overtaking :
    step.run (start 2 false) overtaking = some (after overtaking) ∧ ¬ OrderAgrees (after overtaking) :=
  ⟨run_overtaking, not_agrees_overtaking⟩

theorem notOvertaken_of_logs {s : RouterSystem Nat} {task : Nat} {m : Published Nat} {target : WildcardKey × SenderId}
    {targets : List (WildcardKey × SenderId)} {delivered : Nat}
    (sends : AList.lookup task s.tasks = some (.sending m (target :: targets) delivered))
    (earlier : (s.router.board.receivers.entries.all fun e =>
      e.2.sender != target.2 || e.2.log.all fun m' => decide (m'.serial < m.serial)) = true) :
    NotOvertaken s (.sendWildcard task) := by
  intro other m' target' targets' delivered' same held _ rx a found sender older member _
  cases same
  obtain ⟨rfl, rest⟩ := RouterTask.sending.inj (Option.some.inj (sends.symm.trans held))
  obtain ⟨rfl, rfl⟩ := List.cons.inj rest.1
  have checked := List.all_eq_true.mp earlier ⟨rx, a⟩ (AList.mem_lookup_iff.mp found)
  simp only [sender, bne_self_eq_false, Bool.false_or, List.all_eq_true, decide_eq_true_eq] at checked
  exact checked older member

theorem meets_unsent {s : RouterSystem Nat} {es : List (RouterEvent Nat)}
    (unsent : ∀ task, .sendWildcard task ∉ es) : step.Meets NotOvertaken s es := by
  apply Step.meets_of_forall
  rintro e member s task m target targets delivered rfl
  exact absurd member (unsent task)

/-- The second publish starts when the first has sent, and returns before it. -/
def firstSent : List (RouterEvent Nat) :=
  [.subscribe acme lobby 0, .getOrCreateWildcardSender 1 acme "*", .subscribeClone 1 1,
    .publishExact 2 acme lobby 5 100, .snapshotWildcards 2]

def secondSent : List (RouterEvent Nat) :=
  firstSent ++ .sendWildcard 2 :: [.publishExact 3 acme lobby 6 100, .snapshotWildcards 3]

def inTurn : List (RouterEvent Nat) :=
  secondSent ++ .sendWildcard 3 :: [.returnPublish 3, .returnPublish 2]

theorem order_agrees_iff_inTurn : step.run (start 2 false) inTurn = some (after inTurn) ∧
    step.Throughout OrderAgrees (start 2 false) inTurn := by
  have first : step.run (start 2 false) firstSent = some (after firstSent) := rfl
  have second : step.run (start 2 false) secondSent = some (after secondSent) := rfl
  have reached : step.run (start 2 false) inTurn = some (after inTurn) := rfl
  refine ⟨reached, (order_agrees_iff reached).mpr ?_⟩
  refine (Step.meets_append second).mpr ⟨(Step.meets_append first).mpr ⟨?_, ?_⟩, ?_⟩
  · exact meets_unsent (by simp [firstSent])
  · refine Step.meets_cons (notOvertaken_of_logs rfl rfl) rfl (meets_unsent (by simp))
  · refine Step.meets_cons (notOvertaken_of_logs rfl rfl) rfl (meets_unsent (by simp))

end

end RealtimePlatform.Proof.WildcardOrder
