import RealtimePlatform.Backend.Admission
import RealtimePlatform.Library.TokenBucket
import RealtimePlatform.Proof.ChunkTransparency

namespace RealtimePlatform.Proof.ChunkAdmission
open Library Utf16 Backend Sdk ChunkTransparency

/-- What `check` answers for frames of one session that arrive at the given times. -/
def answers (s : SessionId) (tenantId : TenantId) : RateLimitService → List Nat → List Bool
  | _, [] => []
  | limiter, now :: times =>
    (limiter.check s tenantId now).1 :: answers s tenantId (limiter.check s tenantId now).2 times

def seconds (now : Nat) : ℚ := (now : ℚ) / 1000000000

/-- The arrivals ask the bucket for no more than it has, can hold and regains. -/
def Affords (bucket : TokenBucket) (times : List Nat) : Prop :=
  Covered bucket.refillPerSec bucket.tokens (seconds bucket.lastRefill) (times.map seconds) ∧
    Paced bucket.capacity bucket.refillPerSec (times.map seconds)

/-- The bucket of a tenant, made at its first frame. -/
def tenantBucket (limiter : RateLimitService) (tenantId : TenantId) (now : Nat) : TokenBucket :=
  (limiter.perTenant tenantId).getD
    (TokenBucket.new (limiter.configFor tenantId).tenantCapacity
      (limiter.configFor tenantId).tenantRefillPerSec now)

def sessionBucket (limiter : RateLimitService) (s : SessionId) (tenantId : TenantId) (now : Nat) : TokenBucket :=
  (limiter.perSession s).getD
    (TokenBucket.new (limiter.configFor tenantId).sessionCapacity
      (limiter.configFor tenantId).sessionRefillPerSec now)

section
variable {bucket : TokenBucket} {limiter : RateLimitService} {s : SessionId} {tenantId : TenantId}
  {now : Nat} {times : List Nat}

theorem elapsed_eq (later : bucket.lastRefill ≤ now) :
    ((now - bucket.lastRefill : Nat) : ℚ) / 1000000000 = seconds now - seconds bucket.lastRefill := by
  rw [Nat.cast_sub later, seconds, seconds, sub_div]

theorem affords_cons (later : bucket.lastRefill ≤ now) : Affords bucket (now :: times) ↔
    (bucket.tryConsume now).1 = true ∧ Affords (bucket.tryConsume now).2 times := by
  unfold Affords TokenBucket.tryConsume
  rw [← admits_iff, ← admits_iff, List.map_cons, Admits, tokensAt, ← elapsed_eq later]
  dsimp only
  split
  · rename_i enough
    simp [enough]
  · rename_i short
    simp [short]

theorem lastRefill_tryConsume : (bucket.tryConsume now).2.lastRefill = now := by
  unfold TokenBucket.tryConsume
  dsimp only
  split <;> rfl

theorem tenantBucket_check (next : Nat) :
    tenantBucket (limiter.check s tenantId now).2 tenantId next =
      ((tenantBucket limiter tenantId now).tryConsume now).2 := by
  simp [tenantBucket, RateLimitService.check, RateLimitService.tenantTry]

theorem sessionBucket_check (next : Nat) :
    sessionBucket (limiter.check s tenantId now).2 s tenantId next =
      ((sessionBucket limiter s tenantId now).tryConsume now).2 := by
  simp [sessionBucket, RateLimitService.check, RateLimitService.sessionTry]

theorem check_eq : (limiter.check s tenantId now).1 =
    (((sessionBucket limiter s tenantId now).tryConsume now).1 &&
      ((tenantBucket limiter tenantId now).tryConsume now).1) := by
  rw [RateLimitService.check, RateLimitService.sessionTry, RateLimitService.tenantTry]
  exact rfl

theorem answers_iff (ordered : (now :: times).Pairwise (· ≤ ·))
    (session : (sessionBucket limiter s tenantId now).lastRefill ≤ now)
    (tenant : (tenantBucket limiter tenantId now).lastRefill ≤ now) :
    (∀ answer ∈ answers s tenantId limiter (now :: times), answer = true) ↔
      Affords (sessionBucket limiter s tenantId now) (now :: times) ∧
        Affords (tenantBucket limiter tenantId now) (now :: times) := by
  induction times generalizing limiter now with
  | nil =>
      rw [affords_cons session, affords_cons tenant, answers, answers, List.forall_mem_singleton, check_eq,
        Bool.and_eq_true]
      simp [Affords, Covered, Paced]
  | cons next times ih =>
      rw [affords_cons session, affords_cons tenant, answers, List.forall_mem_cons, check_eq, Bool.and_eq_true]
      have le : now ≤ next := (List.pairwise_cons.mp ordered).1 next List.mem_cons_self
      have rest := @ih (limiter.check s tenantId now).2 next (List.pairwise_cons.mp ordered).2
      rw [sessionBucket_check, tenantBucket_check, lastRefill_tryConsume, lastRefill_tryConsume] at rest
      rw [rest le le]
      tauto

theorem affords_new {capacity refillPerSec : Nat} :
    Affords (TokenBucket.new capacity refillPerSec now) (now :: times) ↔
      Paced (capacity : ℚ) refillPerSec ((now :: times).map seconds) := by
  unfold Affords
  rw [← admits_iff]
  exact admits_full_iff (times.map seconds) (seconds now)

end

/-- The frames that a message becomes. -/
def frameCount (payload : Utf16) : Nat :=
  if utf8ByteLength payload ≤ lenPayload then 1
  else (splitByByteBudget payload dataBudgetPerChunk).length

theorem length_encodeChunks {rolls : List.Vector (Fin 36) 4} {payload : Utf16} {maxMessageBytes : Nat}
    {chunks : List Utf16} (accepted : encodeChunks rolls payload maxMessageBytes = .ok chunks) :
    chunks.length = frameCount payload := by
  unfold encodeChunks at accepted
  unfold frameCount
  dsimp only at accepted
  split at accepted
  · rename_i small
    cases accepted
    rw [if_pos small]
    rfl
  · rename_i large
    rw [if_neg large]
    split at accepted
    · cases accepted
    · split at accepted
      · cases accepted
      · cases accepted
        exact List.length_mapIdx

/-- The first `n + 1` arrivals. -/
def arrivals (times : Nat → Nat) (n : Nat) : List Nat := (List.range (n + 1)).map times

def rolled : List.Vector (Fin 36) 4 := List.Vector.replicate 4 ⟨0, Nat.zero_lt_succ 35⟩

def nameless : Uuid := List.Vector.replicate 16 0

theorem check_fresh : ((RateLimitService.new {}).check nameless nameless 0).1 = true := by decide +kernel

theorem paced_const (capacity now n : Nat) (refill : ℚ) :
    Paced (capacity : ℚ) refill ((arrivals (fun _ => now) n).map seconds) ↔ n < capacity := by
  have same : ∀ (k : Nat) (t : ℚ), ((arrivals (fun _ => now) n).map seconds)[k]? = some t ↔
      k ≤ n ∧ seconds now = t := by
    intro k t
    rw [arrivals, List.map_map, List.getElem?_map, Option.map_eq_some_iff]
    constructor
    · rintro ⟨i, found, rfl⟩
      have bound := (List.getElem?_eq_some_iff.mp found).1
      rw [List.length_range] at bound
      exact ⟨Nat.le_of_lt_succ bound, rfl⟩
    · rintro ⟨le, rfl⟩
      exact ⟨k, List.getElem?_range (Nat.lt_succ_of_le le), rfl⟩
  constructor
  · intro paced
    have whole := paced 0 n _ _ (Nat.zero_le n) ((same 0 _).mpr ⟨Nat.zero_le n, rfl⟩)
      ((same n _).mpr ⟨le_rfl, rfl⟩)
    rw [sub_self, zero_mul, Nat.cast_zero, sub_zero, add_zero] at whole
    have few : ((n + 1 : Nat) : ℚ) ≤ capacity := by exact_mod_cast whole
    exact Nat.cast_le.mp few
  · intro few i j early late le first second
    obtain ⟨_, rfl⟩ := (same i early).mp first
    obtain ⟨inside, rfl⟩ := (same j late).mp second
    have bound : ((j + 1 : Nat) : ℚ) ≤ (capacity + i : Nat) := Nat.cast_le.mpr (by omega)
    push_cast at bound
    rw [sub_self, zero_mul]
    linarith

def letters (n : Nat) : List Char := List.replicate n 'x'

theorem cutsCleanly_replicate (budget used n : Nat) : cutsCleanly budget used (List.replicate n 'x') := by
  have one : ('x' : Char).utf8Size = 1 := by decide
  induction n generalizing used with
  | zero => trivial
  | succ n ih =>
      rw [List.replicate_succ, cutsCleanly]
      split
      · exact ih _
      · refine ⟨fun torn => ?_, ih _⟩
        rw [splits, one] at torn
        exact absurd torn.1 (by decide)

theorem utf8ByteLength_letters (n : Nat) : utf8ByteLength (units (letters n)) = n := by
  rw [utf8ByteLength_units, letters, utf8Length_replicate, show ('x' : Char).utf8Size = 1 by decide, Nat.mul_one]

theorem frameCount_letters {n : Nat} (long : lenPayload < n) :
    frameCount (units (letters n)) = pieceCount dataBudgetPerChunk 0 (letters n) := by
  have some : letters n ≠ [] := by
    intro none
    have length := congrArg List.length none
    rw [letters, List.length_replicate, List.length_nil] at length
    omega
  rw [frameCount, utf8ByteLength_letters, if_neg (Nat.not_le.mpr long)]
  exact (@pieces_wellFormed dataBudgetPerChunk (by decide) (letters n) some).2 (cutsCleanly_replicate _ _ _)

theorem encodeChunks_letters (rolls : List.Vector (Fin 36) 4) {n : Nat} (long : lenPayload < n)
    (short : n ≤ defaultMaxMessageBytes) (few : frameCount (units (letters n)) ≤ maxChunks) :
    ∃ chunks, encodeChunks rolls (units (letters n)) defaultMaxMessageBytes = .ok chunks := by
  rw [frameCount, utf8ByteLength_letters, if_neg (Nat.not_le.mpr long)] at few
  rw [encodeChunks]
  dsimp only
  rw [utf8ByteLength_letters, if_neg (Nat.not_le.mpr long), if_neg (Nat.not_lt.mpr short),
    if_neg (Nat.not_lt.mpr few)]
  exact ⟨_, rfl⟩

theorem frameCount_long : frameCount (units (letters 3706)) = 20 := by
  rw [frameCount_letters (by decide)]
  decide +kernel

theorem frameCount_three : frameCount (units (letters 400)) = 3 := by
  rw [frameCount_letters (by decide)]
  decide +kernel

end RealtimePlatform.Proof.ChunkAdmission
