import RealtimePlatform.Backend.RouterInvariants

namespace RealtimePlatform.Proof.WildcardSubscriptions
open Library Backend RouterSystem

variable {α : Type*}

/-- Every publish that has returned reached the live receivers that had been returned before it began and
whose pattern matches. -/
def NothingLost (s : RouterSystem α) : Prop :=
  ∀ m delivered, (m, delivered) ∈ s.returned → ∀ rx a key, s.router.board.find rx = some a →
    a.tag.source = .wildcard key → a.tag.begun ≤ m.serial → (Source.wildcard key).matches m.key = true →
    m ∈ a.log

/-- The sweep does not remove an entry whose sender a subscriber has cloned and not yet subscribed to. -/
def SparesClones (s : RouterSystem α) (e : RouterEvent α) : Prop :=
  ∀ shard, e = .pruneDeadWildcards shard → ∀ task key sender,
    AList.lookup task s.tasks = some (.subscribing key sender) → shard key = true →
    s.router.board.receiverCount sender ≠ 0

def Reaches (r : SharedRouter α) (m : Published α) (targets : List (WildcardKey × SenderId)) : Prop :=
  ∀ rx a key, r.board.find rx = some a → a.tag.source = .wildcard key → a.tag.begun ≤ m.serial →
    (Source.wildcard key).matches m.key = true → m ∈ a.log ∨ (key, a.sender) ∈ targets

theorem Reaches.grows {r r' : SharedRouter α} {m : Published α} {targets : List (WildcardKey × SenderId)}
    (reaches : Reaches r m targets) (grows : r.Grows r') (early : m.serial < r.begun) :
    Reaches r' m targets := by
  intro rx a key live source since hit
  rcases grows.2 rx a live with new | ⟨old, there, on, tag, log⟩
  · exact absurd (new.trans since) (Nat.not_le.mpr early)
  · rw [tag] at source since
    rcases reaches rx old key there source since hit with got | due
    · exact Or.inl (log.subset got)
    · exact Or.inr (on ▸ due)

theorem Reaches.send {r : SharedRouter α} {m : Published α}
    {target : WildcardKey × SenderId} {targets : List (WildcardKey × SenderId)}
    (reaches : Reaches r m (target :: targets)) :
    Reaches (r.sendWildcard m target).2 m targets := by
  unfold SharedRouter.sendWildcard
  split
  · intro rx a key live source since hit
    obtain ⟨old, there, on, tag, sent⟩ := Switchboard.find_send_cases live
    rw [tag] at source since
    rcases sent with ⟨here, log⟩ | ⟨elsewhere, log⟩
    · exact Or.inl (log ▸ List.mem_append_right _ (List.mem_singleton.mpr rfl))
    · rcases reaches rx old key there source since hit with got | due
      · exact Or.inl (log ▸ got)
      · rcases List.mem_cons.mp due with now | later
        · exact absurd (congrArg Prod.snd now) elsewhere
        · exact Or.inr (on ▸ later)
  · rename_i missed
    intro rx a key live source since hit
    rcases reaches rx a key live source since hit with got | due
    · exact Or.inl got
    · rcases List.mem_cons.mp due with now | later
      · exact absurd (congrArg Prod.fst now ▸ hit) missed
      · exact Or.inr later

theorem reaches_snapshot {r : SharedRouter α} (attached : r.WildcardsAttached) (m : Published α) :
    Reaches r m r.snapshotWildcards := by
  intro rx a key live source _ _
  exact Or.inr (List.mem_map.mpr ⟨_, AList.mem_lookup_iff.mp (attached rx a key live source), rfl⟩)

structure Served (s : RouterSystem α) : Prop where
  attached : s.router.WildcardsAttached
  cloned : ∀ {task key sender}, AList.lookup task s.tasks = some (.subscribing key sender) →
    AList.lookup key s.router.wildcards = some sender
  blocked : ∀ {task m delivered}, AList.lookup task s.tasks = some (.published m delivered) →
    m.serial < s.router.begun
  sending : ∀ {task m targets delivered},
    AList.lookup task s.tasks = some (.sending m targets delivered) →
    m.serial < s.router.begun ∧ Reaches s.router m targets
  returned : ∀ {m delivered}, (m, delivered) ∈ s.returned →
    m.serial < s.router.begun ∧ Reaches s.router m []

theorem served_start (historyCapacity : Nat) (durable : Bool) :
    Served (start historyCapacity durable : RouterSystem α) where
  attached rx a key found := by cases found
  cloned pending := by cases pending
  blocked pending := by cases pending
  sending pending := by cases pending
  returned member := absurd member List.not_mem_nil

section
variable {s : RouterSystem α} {r : SharedRouter α} {task : Nat} {next : RouterTask α}

theorem Served.continueWith (served : Served s) (grows : s.router.Grows r) (attached : r.WildcardsAttached)
    (stored : ∀ key sender, AList.lookup key s.router.wildcards = some sender →
      AList.lookup key r.wildcards = some sender)
    (cloned : ∀ key sender, next = .subscribing key sender → AList.lookup key r.wildcards = some sender)
    (blocked : ∀ m delivered, next = .published m delivered → m.serial < r.begun)
    (sending : ∀ m targets delivered, next = .sending m targets delivered →
      m.serial < r.begun ∧ Reaches r m targets) : Served (s.continueWith task next r) where
  attached := attached
  cloned pending := by
    rcases lookup_continueWith pending with ⟨_, rfl⟩ | ⟨_, before⟩
    · exact cloned _ _ rfl
    · exact stored _ _ (served.cloned before)
  blocked pending := by
    rcases lookup_continueWith pending with ⟨_, rfl⟩ | ⟨_, before⟩
    · exact blocked _ _ rfl
    · exact (served.blocked before).trans_le grows.1
  sending pending := by
    rcases lookup_continueWith pending with ⟨_, rfl⟩ | ⟨_, before⟩
    · exact sending _ _ _ rfl
    · obtain ⟨early, reaches⟩ := served.sending before
      exact ⟨early.trans_le grows.1, reaches.grows grows early⟩
  returned member := by
    obtain ⟨early, reaches⟩ := served.returned member
    exact ⟨early.trans_le grows.1, reaches.grows grows early⟩

theorem Served.resume (served : Served s) (grows : s.router.Grows r) (attached : r.WildcardsAttached)
    {tasks : Table Nat (RouterTask α)}
    (fewer : ∀ {other found}, AList.lookup other tasks = some found →
      AList.lookup other s.tasks = some found)
    (cloned : ∀ {task key sender}, AList.lookup task tasks = some (.subscribing key sender) →
      AList.lookup key r.wildcards = some sender) :
    Served { s with router := r, tasks := tasks } where
  attached := attached
  cloned := cloned
  blocked pending := (served.blocked (fewer pending)).trans_le grows.1
  sending pending := by
    obtain ⟨early, reaches⟩ := served.sending (fewer pending)
    exact ⟨early.trans_le grows.1, reaches.grows grows early⟩
  returned member := by
    obtain ⟨early, reaches⟩ := served.returned member
    exact ⟨early.trans_le grows.1, reaches.grows grows early⟩

end

theorem served_step {s t : RouterSystem α} {e : RouterEvent α} (served : Served s) (spares : SparesClones s e)
    (taken : step s e = some t) : Served t := by
  have grows := grows_step taken
  cases moved_of_step taken with
  | refusedSubscribe | refusedPublish => exact served
  | subscribe key rx free =>
      have wildcards := (SharedRouter.getOrCreateChannel_frame key s.router).2.1
      refine served.resume grows
        ((served.attached.getOrCreateChannel key).attach fun _ other => by cases other) id ?_
      intro task key' sender pending
      exact (congrArg (AList.lookup key') wildcards).trans (served.cloned pending)
  | clone task key idle =>
      refine served.continueWith grows (served.attached.getOrCreateWildcardSender key)
        (fun _ _ => SharedRouter.lookup_getOrCreateWildcardSender_of_some) ?_
        (fun _ _ other => by cases other) (fun _ _ _ other => by cases other)
      rintro _ _ ⟨⟩
      exact SharedRouter.lookup_getOrCreateWildcardSender key s.router
  | subscribeClone task rx key sender pending free =>
      refine served.resume grows (served.attached.attach ?_) lookup_of_erase
        (fun found => served.cloned (lookup_of_erase found))
      rintro _ ⟨⟩
      exact served.cloned pending
  | publishExact task key frame nowSecs idle =>
      have wildcards := @SharedRouter.wildcards_publishExact _ s.router key frame nowSecs
      have board := @SharedRouter.board_publishExact _ s.router key frame nowSecs
      refine served.continueWith grows ?_ (fun _ _ found => by rw [wildcards]; exact found)
        (fun _ _ other => by cases other) ?_ (fun _ _ _ other => by cases other)
      · have sent := served.attached.send (s.router.message key frame)
          (s.router.getOrCreateChannel key).1.sender
        intro rx a other live source
        rw [wildcards]
        exact sent rx a other (board ▸ live) source
      · rintro _ _ ⟨⟩
        exact Nat.lt_succ_self _
  | snapshot task m delivered pending =>
      refine served.continueWith grows served.attached (fun _ _ => id) (fun _ _ other => by cases other)
        (fun _ _ other => by cases other) ?_
      rintro _ _ _ ⟨⟩
      exact ⟨served.blocked pending, reaches_snapshot served.attached m⟩
  | send task m target targets delivered pending =>
      obtain ⟨early, reaches⟩ := served.sending pending
      refine served.continueWith grows ?_ ?_ (fun _ _ other => by cases other)
        (fun _ _ other => by cases other) ?_
      · unfold SharedRouter.sendWildcard
        split
        · exact served.attached.send m target.2
        · exact served.attached
      · intro key sender found
        unfold SharedRouter.sendWildcard
        split <;> exact found
      · rintro _ _ _ ⟨⟩
        exact ⟨early.trans_le grows.1, reaches.send⟩
  | returns task m delivered pending =>
      obtain ⟨early, reaches⟩ := served.sending pending
      have resumed : Served { s with tasks := AList.erase task s.tasks } :=
        served.resume grows served.attached lookup_of_erase
          (fun found => served.cloned (lookup_of_erase found))
      refine { resumed with returned := ?_ }
      intro m' delivered' member
      rcases List.mem_append.mp member with before | now
      · exact served.returned before
      · obtain ⟨rfl, _⟩ := Prod.mk.inj (List.mem_singleton.mp now)
        exact ⟨early, reaches⟩
  | replay durableSince requesterTenant key sinceUnixSecs =>
      have wildcards := (SharedRouter.replay_frame durableSince requesterTenant key sinceUnixSecs
        s.router).2.1
      refine served.resume grows (served.attached.replay durableSince requesterTenant key sinceUnixSecs) id ?_
      intro task key' sender pending
      exact (congrArg (AList.lookup key') wildcards).trans (served.cloned pending)
  | drop rx =>
      refine served.resume grows ?_ id served.cloned
      exact fun q a other found own =>
        served.attached q a other (Switchboard.find_of_detach found).2 own
  | pruneEmpty key => exact served.resume grows served.attached id served.cloned
  | pruneDead shard =>
      refine served.resume grows (served.attached.pruneDeadWildcards shard) id ?_
      intro task key sender pending
      rw [SharedRouter.pruneDeadWildcards, Table.lookup_retain, served.cloned pending, Option.filter_some,
        if_pos]
      by_cases swept : shard key = true
      · have listened := spares shard rfl task key sender pending swept
        simp [Nat.pos_of_ne_zero listened]
      · simp [swept]

/-- Where the sweep spares what is being subscribed to, no receiver of a pattern misses a publish that began
after it was returned. -/
theorem nothing_lost {historyCapacity : Nat} {durable : Bool} {es : List (RouterEvent α)}
    {s : RouterSystem α} (reached : step.run (start historyCapacity durable) es = some s)
    (spares : step.Meets SparesClones (start historyCapacity durable) es) : NothingLost s := by
  have served := Step.run_invariant_of_meets (fun _ _ _ held spares taken => served_step held spares taken)
    reached (served_start historyCapacity durable) spares
  intro m delivered member rx a key live source since hit
  rcases (served.returned member).2 rx a key live source since hit with got | due
  · exact got
  · exact absurd due List.not_mem_nil

section
open Lobby

def sweptBetween : List (RouterEvent Nat) :=
  [.getOrCreateWildcardSender 0 acme "*", .pruneDeadWildcards fun _ => true, .subscribeClone 0 1,
    .publishExact 2 acme lobby 5 100, .snapshotWildcards 2, .returnPublish 2]

theorem lost_sweptBetween :
    step.run (start 2 false) sweptBetween = some (after sweptBetween) ∧ ¬ NothingLost (after sweptBetween) := by
  refine ⟨rfl, fun held => ?_⟩
  have got := held ⟨lobby, 0, 5⟩ 0 (List.mem_singleton.mpr rfl) 1
    ⟨⟨.wildcard ⟨acme, "*"⟩, 0⟩, ⟨.wildcard ⟨acme, "*"⟩, 0⟩, []⟩ ⟨acme, "*"⟩ rfl rfl le_rfl (by decide)
  exact absurd got List.not_mem_nil

def sweptAfter : List (RouterEvent Nat) :=
  [.getOrCreateWildcardSender 0 acme "*", .subscribeClone 0 1, .pruneDeadWildcards fun _ => true,
    .publishExact 2 acme lobby 5 100, .snapshotWildcards 2, .sendWildcard 2, .returnPublish 2]

theorem nothing_lost_sweptAfter : NothingLost (after sweptAfter) := by
  have reached : step.run (start 2 false) sweptAfter = some (after sweptAfter) := rfl
  have other : ∀ (s : RouterSystem Nat) (e : RouterEvent Nat),
      (∀ shard, e ≠ .pruneDeadWildcards shard) → SparesClones s e :=
    fun s e apart shard same => absurd same (apart shard)
  refine nothing_lost reached ⟨other _ _ nofun, ?_⟩
  rintro _ ⟨⟩
  refine ⟨other _ _ nofun, ?_⟩
  rintro _ ⟨⟩
  refine ⟨fun shard _ task key sender pending => ?_, ?_⟩
  · cases pending
  · rintro _ ⟨⟩
    refine Step.meets_of_forall (fun e member s => other s e fun shard same => ?_) _
    subst same
    simp at member

end

end RealtimePlatform.Proof.WildcardSubscriptions
