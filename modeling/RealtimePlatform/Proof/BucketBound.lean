import RealtimePlatform.Proof.ChunkAdmission

namespace RealtimePlatform.Proof.BucketBound
open Library Backend ChunkAdmission

/-- A call on the bucket, which adds its time to those of the accepted calls when it is one. -/
def call (state : TokenBucket × List Nat) (now : Nat) : TokenBucket × List Nat :=
  ((state.1.tryConsume now).2, if (state.1.tryConsume now).1 then now :: state.2 else state.2)

/-- A new bucket after calls at the given times, and when it accepted one. -/
def run (capacity refillPerSec start : Nat) (times : List Nat) : TokenBucket × List Nat :=
  times.foldl call (TokenBucket.new capacity refillPerSec start, [])

structure Fair (capacity refillPerSec start now : Nat) (state : TokenBucket × List Nat) : Prop where
  sized : state.1.capacity = capacity
  paced : state.1.refillPerSec = refillPerSec
  refilled : state.1.lastRefill ≤ now
  tight : Tight (capacity : ℚ) refillPerSec (seconds start) (state.2.map seconds) state.1.tokens
    (seconds state.1.lastRefill)

section
variable {capacity refillPerSec start last now : Nat} {state : TokenBucket × List Nat}

theorem seconds_le {a b : Nat} (le : a ≤ b) : seconds a ≤ seconds b := by
  unfold seconds
  gcongr

theorem fair_new : Fair capacity refillPerSec start start
    (TokenBucket.new capacity refillPerSec start, []) :=
  ⟨rfl, rfl, le_rfl, Tight.full (Nat.cast_nonneg capacity) (Nat.cast_nonneg refillPerSec) (seconds start)⟩

def found (bucket : TokenBucket) (now : Nat) : ℚ :=
  tokensAt bucket.capacity bucket.refillPerSec bucket.tokens (seconds bucket.lastRefill) (seconds now)

theorem tryConsume_eq {bucket : TokenBucket} (later : bucket.lastRefill ≤ now) : bucket.tryConsume now =
    if 1 ≤ found bucket now then (true, { bucket with tokens := found bucket now - 1, lastRefill := now })
    else (false, { bucket with tokens := found bucket now, lastRefill := now }) := by
  unfold TokenBucket.tryConsume found tokensAt
  rw [elapsed_eq later]

theorem tryConsume_iff {bucket : TokenBucket} (later : bucket.lastRefill ≤ now) :
    (bucket.tryConsume now).1 = true ↔ 1 ≤ found bucket now := by
  rw [tryConsume_eq later]
  split
  · rename_i enough
    simp [enough]
  · rename_i short
    simp [short]

theorem tryConsume_refused {bucket : TokenBucket} {late : Nat} (rising : 0 ≤ bucket.refillPerSec)
    (later : bucket.lastRefill ≤ now) (le : now ≤ late) (refused : (bucket.tryConsume now).1 = false) :
    (bucket.tryConsume now).2.tryConsume late = bucket.tryConsume late := by
  have short : ¬ 1 ≤ found bucket now := by
    intro enough
    rw [tryConsume_eq later, if_pos enough] at refused
    cases refused
  have waited : found { bucket with tokens := found bucket now, lastRefill := now } late = found bucket late :=
    tokensAt_tokensAt bucket.tokens rising (seconds_le le)
  rw [tryConsume_eq later, if_neg short, tryConsume_eq le, waited, tryConsume_eq (later.trans le)]

theorem found_new {capacity refillPerSec start now : Nat} (later : start ≤ now) :
    found (TokenBucket.new capacity refillPerSec start) now = capacity :=
  tokensAt_full (Nat.cast_nonneg refillPerSec) (seconds_le later)

theorem tryConsume_new {capacity refillPerSec start now : Nat} (later : start ≤ now) :
    (TokenBucket.new capacity refillPerSec start).tryConsume now =
      (TokenBucket.new capacity refillPerSec now).tryConsume now := by
  have fresh : (TokenBucket.new capacity refillPerSec now).lastRefill ≤ now := le_rfl
  rw [tryConsume_eq later, tryConsume_eq fresh, found_new later, found_new le_rfl]
  rfl

theorem Fair.found (fair : Fair capacity refillPerSec start last state) (later : last ≤ now) :
    Tight (capacity : ℚ) refillPerSec (seconds start) (state.2.map seconds) (found state.1 now)
      (seconds now) := by
  have waited := fair.tight.wait (Nat.cast_nonneg refillPerSec) (seconds_le (fair.refilled.trans later))
  rw [BucketBound.found, fair.sized, fair.paced]
  exact waited

theorem Fair.accepted_iff (fair : Fair capacity refillPerSec start last state) (later : last ≤ now) :
    (state.1.tryConsume now).1 = true ↔ 1 ≤ BucketBound.found state.1 now :=
  tryConsume_iff (fair.refilled.trans later)

theorem Fair.call (fair : Fair capacity refillPerSec start last state) (later : last ≤ now) :
    Fair capacity refillPerSec start now (call state now) := by
  have waited := fair.found later
  unfold BucketBound.call
  rw [tryConsume_eq (fair.refilled.trans later)]
  split
  · rename_i enough
    exact ⟨fair.sized, fair.paced, le_rfl, waited.take enough (Nat.cast_nonneg refillPerSec)⟩
  · exact ⟨fair.sized, fair.paced, le_rfl, waited⟩

theorem Fair.calls {times : List Nat} (fair : Fair capacity refillPerSec start last state)
    (ordered : (last :: times).Pairwise (· ≤ ·)) : ∃ final ∈ last :: times,
      Fair capacity refillPerSec start final (times.foldl BucketBound.call state) := by
  induction times generalizing last state with
  | nil => exact ⟨last, List.mem_singleton_self last, fair⟩
  | cons now times ih =>
      have later : last ≤ now := (List.pairwise_cons.mp ordered).1 now List.mem_cons_self
      obtain ⟨final, member, done⟩ := ih (fair.call later) (List.pairwise_cons.mp ordered).2
      exact ⟨final, List.mem_cons_of_mem last member, done⟩

end

/-- Every window of a run stays within its bound, and a call is refused only where it would break one. -/
theorem bounded_and_greedy (capacity refillPerSec start : Nat) (times : List Nat)
    (ordered : (start :: times).Pairwise (· ≤ ·)) :
    (0 ≤ (run capacity refillPerSec start times).1.tokens ∧
      (run capacity refillPerSec start times).1.tokens ≤ capacity) ∧
    (∀ early late : ℚ, early ≤ late →
      (within early late ((run capacity refillPerSec start times).2.map seconds) : ℚ) ≤
        capacity + (late - early) * refillPerSec) ∧
    ∀ now, (∀ time ∈ start :: times, time ≤ now) →
      (((run capacity refillPerSec start times).1.tryConsume now).1 = true ↔
        ∀ early, seconds start ≤ early → early ≤ seconds now →
          (within early (seconds now) ((run capacity refillPerSec start times).2.map seconds) : ℚ) + 1 ≤
            capacity + (seconds now - early) * refillPerSec) := by
  have fresh : Fair capacity refillPerSec start start (TokenBucket.new capacity refillPerSec start, []) := fair_new
  obtain ⟨final, member, fair⟩ := fresh.calls ordered
  refine ⟨⟨fair.tight.nonneg, fair.tight.le⟩, fair.tight.window, ?_⟩
  intro now later
  have reached := later final member
  rw [run, fair.accepted_iff reached]
  exact (fair.found reached).enough_iff

theorem bounded_and_greedy_three :
    (0 ≤ (run 1 1 0 [0, 500000000, 1500000000]).1.tokens ∧
      (run 1 1 0 [0, 500000000, 1500000000]).1.tokens ≤ (1 : Nat)) ∧
    (∀ early late : ℚ, early ≤ late →
      (within early late ((run 1 1 0 [0, 500000000, 1500000000]).2.map seconds) : ℚ) ≤
        (1 : Nat) + (late - early) * (1 : Nat)) ∧
    ∀ now, (∀ time ∈ [0, 0, 500000000, 1500000000], time ≤ now) →
      (((run 1 1 0 [0, 500000000, 1500000000]).1.tryConsume now).1 = true ↔
        ∀ early, seconds 0 ≤ early → early ≤ seconds now →
          (within early (seconds now) ((run 1 1 0 [0, 500000000, 1500000000]).2.map seconds) : ℚ) + 1 ≤
            (1 : Nat) + (seconds now - early) * (1 : Nat)) :=
  bounded_and_greedy 1 1 0 [0, 500000000, 1500000000] (by decide)

end RealtimePlatform.Proof.BucketBound
