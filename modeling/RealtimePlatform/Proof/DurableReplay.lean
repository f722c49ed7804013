import RealtimePlatform.Backend.DurableHistory
import RealtimePlatform.Proof.Handling

namespace RealtimePlatform.Proof.DurableReplay
open Library Backend ChannelRouterService DurableHistory

section
variable {α : Type*} {d d' : DurableHistory α} {capacity maxlen : Nat} {key : ChannelKey}

/-- Everything the ring buffer of a channel returns is in the answer to a replay. -/
def Superset (d : DurableHistory α) : Prop :=
  ∀ key sinceSecs frame, frame ∈ (history key d.router).since sinceSecs →
    ∃ frames, d.replay key sinceSecs = .ok frames ∧ frame ∈ frames

def Covered (entries : List (StreamEntry α)) (e : HistoryEntry α) : Prop :=
  ∀ sinceSecs < e.timestampSecs, ∃ x ∈ entries, x.frame = e.frame ∧
    (sinceSecs = 0 ∨ idBefore (sinceSecs * 1000 % 2 ^ 64, 0) x.id = true)

def Ported (capacity : Nat) (d : DurableHistory α) : Prop := Sized capacity d.router ∧ d.router.historyPort.isSome

theorem mem_ring {buf : HistoryBuffer α} {sinceSecs : Nat} {frame : α} : frame ∈ buf.since sinceSecs ↔
    ∃ e ∈ buf.entries, sinceSecs < e.timestampSecs ∧ e.frame = frame := by
  simp [HistoryBuffer.since, and_assoc]

theorem mem_stream {redis : RedisStreams α} {sinceSecs : Nat} {frame : α} :
    frame ∈ RedisStreamsHistoryAdapter.since redis key sinceSecs ↔ ∃ x ∈ redis (streamKey key),
      x.frame = frame ∧ (sinceSecs = 0 ∨ idBefore (sinceSecs * 1000 % 2 ^ 64, 0) x.id = true) := by
  by_cases all : sinceSecs = 0
  · simp [RedisStreamsHistoryAdapter.since, all]
  · simp only [RedisStreamsHistoryAdapter.since, all, if_false, List.mem_map, List.mem_filter, false_or]
    constructor
    · rintro ⟨x, ⟨stored, later⟩, same⟩
      exact ⟨x, stored, same, later⟩
    · rintro ⟨x, stored, same, later⟩
      exact ⟨x, ⟨stored, later⟩, same⟩

theorem replay_eq (ported : Ported capacity d) (key : ChannelKey) (sinceSecs : Nat) :
    d.replay key sinceSecs = .ok (RedisStreamsHistoryAdapter.since d.read key sinceSecs) := by
  obtain ⟨port, there⟩ := Option.isSome_iff_exists.mp ported.2
  simp [DurableHistory.replay, ChannelRouterService.replay, there]

theorem superset_iff (ported : Ported capacity d) : Superset d ↔
    ∀ key, ∀ e ∈ (history key d.router).entries, Covered (d.read (streamKey key)) e := by
  simp only [Superset, replay_eq ported, Except.ok.injEq, exists_eq_left', mem_ring, mem_stream]
  constructor
  · exact fun superset key e kept sinceSecs later => superset key sinceSecs e.frame ⟨e, kept, later, rfl⟩
  · rintro covered key sinceSecs frame ⟨e, kept, later, rfl⟩
    exact covered key e kept sinceSecs later

theorem covered_nil_iff {e : HistoryEntry α} : Covered [] e ↔ e.timestampSecs = 0 := by
  constructor
  · intro covered
    by_contra stamped
    obtain ⟨x, stored, -⟩ := covered 0 (Nat.pos_of_ne_zero stamped)
    cases stored
  · intro unstamped sinceSecs later
    omega

theorem covered_zero {entries : List (StreamEntry α)} {e : HistoryEntry α} (unstamped : e.timestampSecs = 0) :
    Covered entries e := by
  intro sinceSecs later
  omega

/-- What has to hold before an event for the stream to stay a superset. -/
def Keeps (d : DurableHistory α) : HistoryEvent α → Prop
  | .call (.publish tenantId key frame now) =>
    tenantId = key.tenantId → Covered (d.read (streamKey key)) ⟨now.unixSecs, frame⟩
  | .written id evicted => ∀ w ∈ d.writing, ∀ e ∈ (history w.1 d.router).entries,
    Covered ((d.redis (streamKey w.1) ++ [StreamEntry.mk id w.2]).drop evicted) e
  | .writtenElsewhere key id evicted frame => ∀ e ∈ (history key d.router).entries,
    Covered ((d.redis (streamKey key) ++ [StreamEntry.mk id frame]).drop evicted) e
  | .readable answers => answers = false → ∀ key, ∀ e ∈ (history key d.router).entries, e.timestampSecs = 0
  | _ => True

theorem ported_start (capacity : Nat) : Ported capacity (start capacity : DurableHistory α) :=
  ⟨⟨rfl, nofun⟩, rfl⟩

theorem superset_start (capacity : Nat) : Superset (start capacity : DurableHistory α) := by
  rw [superset_iff (ported_start capacity)]
  exact fun _ => nofun

theorem take_eq (taken : d.takeStep = some d') : d'.redis = d.redis ∧ d'.readable = d.readable ∧
    d'.router.channels = d.router.channels ∧ d'.router.historyCapacity = d.router.historyCapacity ∧
    d'.router.historyPort.isSome := by
  unfold takeStep at taken
  split at taken
  · cases taken
    exact ⟨rfl, rfl, rfl, rfl, rfl⟩
  · cases taken

theorem xadd_eq {redis redis' : RedisStreams α} {evicted : Nat} {id : Nat × Nat} {frame : α}
    (added : redis.xadd maxlen evicted key id frame = some redis') :
    redis' = Function.update redis (streamKey key) ((redis (streamKey key) ++ [StreamEntry.mk id frame]).drop evicted) := by
  simp only [RedisStreams.xadd, Option.ite_none_right_eq_some] at added
  exact (Option.some.inj added.2).symm

theorem ported_step (ported : Ported capacity d) {e : HistoryEvent α} (taken : d.step maxlen e = some d') :
    Ported capacity d' := by
  cases e with
  | call e =>
      rw [← Option.some.inj taken]
      exact ⟨sized_apply ported.1 e, (isSome_historyPort_apply e).trans ported.2⟩
  | take =>
      obtain ⟨-, -, channels, same, port⟩ := take_eq taken
      refine ⟨⟨same.trans ported.1.1, fun key state found => ?_⟩, port⟩
      exact ported.1.2 key state (channels ▸ found)
  | written id evicted =>
      obtain ⟨w, -, added⟩ := Option.bind_eq_some_iff.mp taken
      obtain ⟨redis, -, rfl⟩ := Option.map_eq_some_iff.mp added
      exact ported
  | writeFailed =>
      obtain ⟨w, -, rfl⟩ := Option.map_eq_some_iff.mp taken
      exact ported
  | writtenElsewhere key id evicted frame =>
      obtain ⟨redis, -, rfl⟩ := Option.map_eq_some_iff.mp taken
      exact ported
  | readable answers =>
      rw [← Option.some.inj taken]
      exact ported

theorem superset_xadd {redis : RedisStreams α} {evicted : Nat} {id : Nat × Nat} {frame : α}
    (ported : Ported capacity d) (superset : Superset d)
    (added : d.redis.xadd maxlen evicted key id frame = some redis) (router : d'.router = d.router)
    (stored : d'.redis = redis) (readable : d'.readable = d.readable) :
    (∀ e ∈ (history key d.router).entries,
      Covered ((d.redis (streamKey key) ++ [StreamEntry.mk id frame]).drop evicted) e) ↔ Superset d' := by
  have there : Ported capacity d' := by rwa [Ported, router]
  rw [superset_iff there, router]
  rw [superset_iff ported] at superset
  cases answers : d.readable with
  | false =>
      simp only [DurableHistory.read, readable, answers, Bool.false_eq_true, if_false] at superset ⊢
      exact iff_of_true (fun e kept => covered_zero (covered_nil_iff.mp (superset key e kept))) superset
  | true =>
      simp only [DurableHistory.read, readable, answers, if_true, stored, xadd_eq added] at superset ⊢
      constructor
      · intro here other e kept
        by_cases same : other = key
        · subst same
          rw [Function.update_self]
          exact here e kept
        · rw [Function.update_of_ne fun equal => same (streamKey_injective equal)]
          exact superset other e kept
      · intro every e kept
        have covered := every key e kept
        rwa [Function.update_self] at covered

theorem superset_publish {tenantId : TenantId} {frame : α} {now : Clock} (ported : Ported capacity d)
    (superset : Superset d) (router : d'.router = d.router.apply (.publish tenantId key frame now))
    (same : d'.read = d.read) :
    (tenantId = key.tenantId → Covered (d.read (streamKey key)) ⟨now.unixSecs, frame⟩) ↔ Superset d' := by
  have there : Ported capacity d' := by
    rw [Ported, router]
    exact ⟨sized_apply ported.1 _, (isSome_historyPort_apply _).trans ported.2⟩
  rw [superset_iff there, same, router]
  rw [superset_iff ported] at superset
  constructor
  · intro fresh other e kept
    rw [history_publish] at kept
    split at kept
    · rename_i accepted
      obtain ⟨rfl, own⟩ := accepted
      rcases HistoryBuffer.mem_push kept with old | rfl
      · exact superset key e old
      · exact fresh own
    · exact superset other e kept
  · intro every own
    refine every key _ ?_
    rw [history_publish, if_pos ⟨rfl, own⟩]
    exact List.mem_append_right _ (List.mem_singleton_self _)

theorem keeps_iff {e : HistoryEvent α} (ported : Ported capacity d) (superset : Superset d)
    (taken : d.step maxlen e = some d') : Keeps d e ↔ Superset d' := by
  cases e with
  | call e =>
      have there := ported_step ported taken
      rw [step, Option.some.injEq] at taken
      have router : d'.router = d.router.apply e := by rw [← taken]
      have same : d'.read = d.read := by rw [← taken]; rfl
      have unpublished (silent : ∀ key, recorded key e = none) : Superset d' := by
        rw [superset_iff there, same, router]
        intro key e kept
        rw [history_apply ported.1, silent] at kept
        exact (superset_iff ported).mp superset key e kept
      cases e with
      | publish tenantId key frame now => exact superset_publish ported superset router same
      | subscribe | subscribeWildcard | replay | detach | pruneEmpty | pruneDeadWildcards =>
          exact iff_of_true trivial (unpublished fun _ => rfl)
  | take =>
      have there := ported_step ported taken
      obtain ⟨redis, readable, channels, same, -⟩ := take_eq taken
      refine iff_of_true trivial ?_
      rw [superset_iff there]
      intro key e kept
      rw [history_congr channels same] at kept
      rw [DurableHistory.read, redis, readable]
      exact (superset_iff ported).mp superset key e kept
  | written id evicted =>
      obtain ⟨w, writing, added⟩ := Option.bind_eq_some_iff.mp taken
      obtain ⟨redis, stored, rfl⟩ := Option.map_eq_some_iff.mp added
      refine Iff.trans ?_ (superset_xadd ported superset stored rfl rfl rfl)
      simp [Keeps, writing]
  | writeFailed =>
      obtain ⟨w, -, rfl⟩ := Option.map_eq_some_iff.mp taken
      exact iff_of_true trivial superset
  | writtenElsewhere key id evicted frame =>
      obtain ⟨redis, stored, rfl⟩ := Option.map_eq_some_iff.mp taken
      exact superset_xadd ported superset stored rfl rfl rfl
  | readable answers =>
      have there := ported_step ported taken
      rw [step, Option.some.injEq] at taken
      subst taken
      rw [superset_iff there]
      rw [superset_iff ported] at superset
      cases answers with
      | false => simp [Keeps, DurableHistory.read, covered_nil_iff]
      | true =>
          refine iff_of_true nofun fun key e kept => ?_
          have covered := superset key e kept
          rw [DurableHistory.read] at covered
          split at covered
          · exact covered
          · exact covered_zero (covered_nil_iff.mp covered)

/-- The answers contain what the ring buffers return in every state of a run exactly when every step keeps it so. -/
theorem superset_iff_kept (capacity maxlen : Nat) (es : List (HistoryEvent α)) (d : DurableHistory α)
    (reached : Step.run (DurableHistory.step maxlen) (start capacity) es = some d) :
    Step.Meets (DurableHistory.step maxlen) Keeps (start capacity) es ↔
      Step.Throughout (DurableHistory.step maxlen) Superset (start capacity) es :=
  Step.meets_iff_throughout (fun _ _ _ ported taken => ported_step ported taken)
    (fun _ _ _ ported superset taken => keeps_iff ported superset taken) reached (ported_start capacity)
    (superset_start capacity)

end

section
open SampleToken

def roomKey : ChannelKey := ⟨tenantOne, "room"⟩

def unwritten : DurableHistory Nat :=
  { (start 50) with router := (start 50).router.apply (.publish tenantOne roomKey 7 ⟨0, 5000000000⟩) }

theorem unwritten_is_missing :
    Step.run (DurableHistory.step 1000) (start 50) [.call (.publish tenantOne roomKey 7 ⟨0, 5000000000⟩)] =
      some unwritten ∧
    (history roomKey unwritten.router).since 0 = [7] ∧ unwritten.replay roomKey 0 = .ok [] ∧
    ¬ Superset unwritten := by
  have ring : (history roomKey unwritten.router).since 0 = [7] := rfl
  have answer : unwritten.replay roomKey 0 = .ok [] := rfl
  refine ⟨rfl, ring, answer, fun superset => ?_⟩
  obtain ⟨frames, replayed, member⟩ := superset roomKey 0 7 (by simp [ring])
  cases replayed.symm.trans answer
  cases member

def firstElsewhere : List (HistoryEvent Nat) :=
  [.writtenElsewhere roomKey (5000, 0) 0 7, .call (.publish tenantOne roomKey 7 ⟨0, 5000000000⟩)]

def elsewhere : DurableHistory Nat :=
  { unwritten with redis := Function.update (fun _ => []) (streamKey roomKey) [⟨(5000, 0), 7⟩] }

theorem run_firstElsewhere : Step.run (DurableHistory.step 1000) (start 50) firstElsewhere = some elsewhere := rfl

theorem superset_elsewhere :
    Step.Throughout (DurableHistory.step 1000) Superset (start 50) firstElsewhere := by
  refine (superset_iff_kept 50 1000 firstElsewhere elsewhere run_firstElsewhere).mp ⟨nofun, fun d first => ⟨?_, fun _ _ => trivial⟩⟩
  cases first
  rintro - sinceSecs earlier
  refine ⟨⟨(5000, 0), 7⟩, by simp [DurableHistory.read, start], rfl, Or.inr ?_⟩
  have small : sinceSecs < 5 := earlier
  have whole : sinceSecs * 1000 % 2 ^ 64 = sinceSecs * 1000 := Nat.mod_eq_of_lt (by omega)
  simp only [idBefore, whole, Bool.or_eq_true, decide_eq_true_eq]
  left
  omega

end

end RealtimePlatform.Proof.DurableReplay
