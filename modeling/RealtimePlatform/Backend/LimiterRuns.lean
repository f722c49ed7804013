import RealtimePlatform.Backend.Admission

/-!
# Runs of the limiter

What a sequence of calls makes of the buckets.
-/

namespace RealtimePlatform.Backend

inductive LimiterCall where
  | check (sessionId : SessionId) (tenantId : TenantId) (now : Nat)
  | checkTenant (tenantId : TenantId) (now : Nat)
  | setTenantLimits (tenantId : TenantId) (config : RateLimitConfig)
  | clearTenantLimits (tenantId : TenantId)
  | dropSession (sessionId : SessionId)

def LimiterCall.reading : LimiterCall → Option Nat
  | .check _ _ now => some now
  | .checkTenant _ now => some now
  | _ => none

/-- No call reads an earlier time than the calls before it. -/
def Ordered (start : Nat) (calls : List LimiterCall) : Prop :=
  (start :: calls.filterMap LimiterCall.reading).Pairwise (· ≤ ·)

instance (start : Nat) (calls : List LimiterCall) : Decidable (Ordered start calls) :=
  inferInstanceAs (Decidable (List.Pairwise _ _))

namespace RateLimitService

def apply (limiter : RateLimitService) : LimiterCall → RateLimitService
  | .check sessionId tenantId now => (limiter.check sessionId tenantId now).2
  | .checkTenant tenantId now => (limiter.checkTenant tenantId now).2
  | .setTenantLimits tenantId config => limiter.setTenantLimits tenantId config
  | .clearTenantLimits tenantId => limiter.clearTenantLimits tenantId
  | .dropSession sessionId => limiter.dropSession sessionId

/-- What a call answers. -/
def answer (limiter : RateLimitService) : LimiterCall → Option Bool
  | .check sessionId tenantId now => some (limiter.check sessionId tenantId now).1
  | .checkTenant tenantId now => some (limiter.checkTenant tenantId now).1
  | _ => none

/-- The calls of a run, each with the limiter that it finds. -/
def trace (limiter : RateLimitService) : List LimiterCall → List (RateLimitService × LimiterCall)
  | [] => []
  | call :: calls => (limiter, call) :: trace (limiter.apply call) calls

end RateLimitService

/-- The bucket refills and was last refilled by `now`. -/
structure Refills (now : Nat) (bucket : TokenBucket) : Prop where
  rising : 0 ≤ bucket.refillPerSec
  past : bucket.lastRefill ≤ now

theorem Refills.mono {now late : Nat} {bucket : TokenBucket} (refills : Refills now bucket) (le : now ≤ late) :
    Refills late bucket :=
  ⟨refills.rising, refills.past.trans le⟩

theorem refills_new (capacity refillPerSec now : Nat) : Refills now (TokenBucket.new capacity refillPerSec now) :=
  ⟨Nat.cast_nonneg refillPerSec, le_rfl⟩

theorem Refills.tryConsume {start now : Nat} {bucket : TokenBucket} (refills : Refills start bucket) :
    Refills now (bucket.tryConsume now).2 := by
  unfold TokenBucket.tryConsume
  dsimp only
  split
  · exact ⟨refills.rising, le_rfl⟩
  · exact ⟨refills.rising, le_rfl⟩

theorem forall_update {κ β : Type*} [DecidableEq κ] {P : β → Prop} {f : κ → Option β} {key : κ} {v : Option β}
    (held : ∀ k b, f k = some b → P b) (put : ∀ b, v = some b → P b) :
    ∀ k b, Function.update f key v k = some b → P b := by
  intro k b found
  by_cases here : k = key
  · subst here
    rw [Function.update_self] at found
    exact put b found
  · rw [Function.update_of_ne here] at found
    exact held k b found

/-- Every bucket refills and was last refilled by `now`. -/
structure Current (now : Nat) (limiter : RateLimitService) : Prop where
  session : ∀ s bucket, limiter.perSession s = some bucket → Refills now bucket
  tenant : ∀ tenantId bucket, limiter.perTenant tenantId = some bucket → Refills now bucket

section
variable {start now : Nat} {limiter : RateLimitService} {s : SessionId} {tenantId : TenantId}

theorem current_new (config : RateLimitConfig) (now : Nat) : Current now (RateLimitService.new config) := by
  constructor <;> intro owner bucket held <;> cases held

theorem Current.mono (current : Current start limiter) (le : start ≤ now) : Current now limiter :=
  ⟨fun s bucket held => (current.session s bucket held).mono le,
    fun t bucket held => (current.tenant t bucket held).mono le⟩

theorem Current.tenantTry (current : Current start limiter) (tenantId : TenantId) (now : Nat) :
    Refills now (limiter.tenantTry tenantId now).2 := by
  unfold RateLimitService.tenantTry
  cases held : limiter.perTenant tenantId with
  | none => exact (refills_new _ _ now).tryConsume
  | some bucket => exact (current.tenant tenantId bucket held).tryConsume

theorem Current.sessionTry (current : Current start limiter) (s : SessionId) (tenantId : TenantId) (now : Nat) :
    Refills now (limiter.sessionTry s tenantId now).2 := by
  unfold RateLimitService.sessionTry
  cases held : limiter.perSession s with
  | none => exact (refills_new _ _ now).tryConsume
  | some bucket => exact (current.session s bucket held).tryConsume

theorem Current.check (current : Current start limiter) (le : start ≤ now) :
    Current now (limiter.check s tenantId now).2 where
  session := forall_update (current.mono le).session fun _ put => Option.some.inj put ▸ current.sessionTry s tenantId now
  tenant := forall_update (current.mono le).tenant fun _ put => Option.some.inj put ▸ current.tenantTry tenantId now

theorem Current.checkTenant (current : Current start limiter) (le : start ≤ now) :
    Current now (limiter.checkTenant tenantId now).2 where
  session := (current.mono le).session
  tenant := forall_update (current.mono le).tenant fun _ put => Option.some.inj put ▸ current.tenantTry tenantId now

theorem Current.apply (current : Current start limiter) {call : LimiterCall}
    (le : start ≤ call.reading.getD start) : Current (call.reading.getD start) (limiter.apply call) := by
  cases call with
  | check s tenantId now => exact current.check le
  | checkTenant tenantId now => exact current.checkTenant le
  | setTenantLimits tenantId config =>
      exact ⟨current.session, forall_update current.tenant fun _ put => nomatch put⟩
  | clearTenantLimits tenantId =>
      exact ⟨current.session, forall_update current.tenant fun _ put => nomatch put⟩
  | dropSession s => exact ⟨forall_update current.session (fun _ put => nomatch put), current.tenant⟩

theorem ordered_cons {call : LimiterCall} {calls : List LimiterCall} :
    Ordered start (call :: calls) ↔ start ≤ call.reading.getD start ∧ Ordered (call.reading.getD start) calls := by
  unfold Ordered
  cases reading : call.reading with
  | none => simp [reading]
  | some now =>
      rw [List.filterMap_cons_some reading, Option.getD_some, List.pairwise_cons, List.forall_mem_cons]
      constructor
      · rintro ⟨⟨le, _⟩, later⟩
        exact ⟨le, later⟩
      · rintro ⟨le, later⟩
        refine ⟨⟨le, fun t member => ?_⟩, later⟩
        exact le.trans ((List.pairwise_cons.mp later).1 t member)

theorem current_of_mem_trace {calls : List LimiterCall} (current : Current start limiter)
    (ordered : Ordered start calls) {found : RateLimitService} {call : LimiterCall}
    (member : (found, call) ∈ limiter.trace calls) (reading : call.reading = some now) : Current now found := by
  induction calls generalizing start limiter with
  | nil => cases member
  | cons first calls ih =>
      obtain ⟨le, later⟩ := ordered_cons.mp ordered
      rcases List.mem_cons.mp member with here | rest
      · obtain ⟨rfl, rfl⟩ := Prod.mk.inj here
        rw [reading] at le
        exact current.mono le
      · exact ih (current.apply le) later rest

end
end RealtimePlatform.Backend
