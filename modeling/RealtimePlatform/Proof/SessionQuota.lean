import RealtimePlatform.Backend.LimiterRuns
import RealtimePlatform.Proof.BucketBound
import Mathlib.Tactic.NormNum

namespace RealtimePlatform.Proof.SessionQuota
open Backend RateLimitService ChunkAdmission BucketBound

/-- The call is a frame of the session. -/
def sent (s : SessionId) : LimiterCall → Bool
  | .check q _ _ => q = s
  | _ => false

def names (s : SessionId) (tenantId : TenantId) : LimiterCall → Bool
  | .check q named _ => q = s && named = tenantId
  | _ => false

def takes (p : RateLimitService × LimiterCall) : Bool :=
  match p.2 with
  | .check _ tenantId now => (p.1.tenantTry tenantId now).1
  | .checkTenant tenantId now => (p.1.tenantTry tenantId now).1
  | _ => false

def accepts (p : RateLimitService × LimiterCall) : Bool := p.1.answer p.2 = some true

def heard (s : SessionId) (limiter : RateLimitService) (calls : List LimiterCall) : List (Option Bool) :=
  ((limiter.trace calls).filter fun p => !sent s p.2).map fun p => p.1.answer p.2

def spared (s : SessionId) (limiter : RateLimitService) (calls : List LimiterCall) : List LimiterCall :=
  ((limiter.trace calls).filter fun p => !(sent s p.2 && !accepts p)).map (·.2)

/-- No session costs its tenant more than its accepted frames do. -/
structure Protected (config : RateLimitConfig) (calls : List LimiterCall) : Prop where
  spares : ∀ limiter s tenantId now, (limiter, .check s tenantId now) ∈ (new config).trace calls →
    (limiter.sessionTry s tenantId now).1 = false → (limiter.tenantTry tenantId now).1 = false
  charged : ∀ s tenantId,
    ((new config).trace calls).countP (fun p => names s tenantId p.2 && takes p) ≤
      ((new config).trace calls).countP fun p => names s tenantId p.2 && accepts p
  unmoved : ∀ s, heard s (new config) (spared s (new config) calls) = heard s (new config) calls

/-- A frame that finds no token in its session's bucket finds none in the tenant's. -/
def Drained (p : RateLimitService × LimiterCall) : Prop :=
  match p.2 with
  | .check s tenantId now => 1 ≤ found (tenantBucket p.1 tenantId now) now →
      1 ≤ found (sessionBucket p.1 s tenantId now) now
  | _ => True

section
variable {start now late : Nat} {limiter : RateLimitService} {s : SessionId} {tenantId named : TenantId}
  {config : RateLimitConfig} {calls : List LimiterCall}

theorem tenantBucket_refills (current : Current now limiter) : Refills now (tenantBucket limiter tenantId now) := by
  unfold tenantBucket
  cases held : limiter.perTenant tenantId with
  | none => exact refills_new _ _ now
  | some bucket => exact current.tenant tenantId bucket held

theorem sessionBucket_refills (current : Current now limiter) : Refills now (sessionBucket limiter s tenantId now) := by
  unfold sessionBucket
  cases held : limiter.perSession s with
  | none => exact refills_new _ _ now
  | some bucket => exact current.session s bucket held

theorem tenantTry_iff (current : Current now limiter) :
    (limiter.tenantTry tenantId now).1 = true ↔ 1 ≤ found (tenantBucket limiter tenantId now) now :=
  tryConsume_iff (tenantBucket_refills current).past

theorem sessionTry_iff (current : Current now limiter) :
    (limiter.sessionTry s tenantId now).1 = true ↔ 1 ≤ found (sessionBucket limiter s tenantId now) now :=
  tryConsume_iff (sessionBucket_refills current).past

theorem drained_check (current : Current now limiter) : Drained (limiter, .check s tenantId now) ↔
    ((limiter.sessionTry s tenantId now).1 = false → (limiter.tenantTry tenantId now).1 = false) := by
  show (_ → _) ↔ _
  rw [← tenantTry_iff current, ← sessionTry_iff current]
  cases (limiter.sessionTry s tenantId now).1 <;> cases (limiter.tenantTry tenantId now).1 <;> decide

theorem current_check (ordered : Ordered 0 calls) (member : (limiter, .check s tenantId now) ∈ (new config).trace calls) :
    Current now limiter :=
  current_of_mem_trace (current_new config 0) ordered member rfl

theorem accepts_check : accepts (limiter, .check s tenantId now) =
    ((limiter.sessionTry s tenantId now).1 && (limiter.tenantTry tenantId now).1) := by
  show decide (some _ = some true) = _
  simp [RateLimitService.check]

theorem accepts_of_takes {p : RateLimitService × LimiterCall} (spares : ∀ q named now, p.2 = .check q named now →
      (p.1.sessionTry q named now).1 = false → (p.1.tenantTry named now).1 = false)
    (taken : (names s tenantId p.2 && takes p) = true) : (names s tenantId p.2 && accepts p) = true := by
  obtain ⟨limiter, call⟩ := p
  cases call with
  | check q named now =>
      rw [Bool.and_eq_true] at taken ⊢
      refine ⟨taken.1, ?_⟩
      have charge : (limiter.tenantTry named now).1 = true := taken.2
      rw [accepts_check, charge, Bool.and_true]
      by_contra refused
      have none := spares q named now rfl (Bool.eq_false_iff.mpr refused)
      rw [charge] at none
      cases none
  | checkTenant _ _ => exact absurd taken (by simp [names])
  | setTenantLimits _ _ => exact absurd taken (by simp [names])
  | clearTenantLimits _ => exact absurd taken (by simp [names])
  | dropSession _ => exact absurd taken (by simp [names])

structure Alike (s : SessionId) (now : Nat) (a b : RateLimitService) : Prop where
  defaultConfig : a.defaultConfig = b.defaultConfig
  overrides : a.overrides = b.overrides
  session : ∀ q, q ≠ s → a.perSession q = b.perSession q
  tenant : ∀ tenantId late, now ≤ late → a.tenantTry tenantId late = b.tenantTry tenantId late

@[simp] theorem tenantTry_check_self : (limiter.check s tenantId now).2.tenantTry tenantId late =
    (limiter.tenantTry tenantId now).2.tryConsume late := by
  simp [check, tenantTry]

theorem tenantTry_check_of_ne (apart : named ≠ tenantId) :
    (limiter.check s tenantId now).2.tenantTry named late = limiter.tenantTry named late := by
  simp [check, tenantTry, configFor, apart]

@[simp] theorem tenantTry_checkTenant_self : (limiter.checkTenant tenantId now).2.tenantTry tenantId late =
    (limiter.tenantTry tenantId now).2.tryConsume late := by
  simp [checkTenant, tenantTry]

theorem tenantTry_checkTenant_of_ne (apart : named ≠ tenantId) :
    (limiter.checkTenant tenantId now).2.tenantTry named late = limiter.tenantTry named late := by
  simp [checkTenant, tenantTry, configFor, apart]

@[simp] theorem tenantTry_setTenantLimits_self : (limiter.setTenantLimits tenantId config).tenantTry tenantId late =
    (TokenBucket.new config.tenantCapacity config.tenantRefillPerSec late).tryConsume late := by
  simp [setTenantLimits, tenantTry, configFor]

theorem tenantTry_setTenantLimits_of_ne (apart : named ≠ tenantId) :
    (limiter.setTenantLimits tenantId config).tenantTry named late = limiter.tenantTry named late := by
  simp [setTenantLimits, tenantTry, configFor, apart]

@[simp] theorem tenantTry_clearTenantLimits_self : (limiter.clearTenantLimits tenantId).tenantTry tenantId late =
    (TokenBucket.new limiter.defaultConfig.tenantCapacity limiter.defaultConfig.tenantRefillPerSec late).tryConsume
      late := by
  simp [clearTenantLimits, tenantTry, configFor]

theorem tenantTry_clearTenantLimits_of_ne (apart : named ≠ tenantId) :
    (limiter.clearTenantLimits tenantId).tenantTry named late = limiter.tenantTry named late := by
  simp [clearTenantLimits, tenantTry, configFor, apart]

theorem tenantTry_refused (current : Current now limiter) (le : now ≤ late)
    (refused : (limiter.tenantTry tenantId now).1 = false) :
    (limiter.tenantTry tenantId now).2.tryConsume late = limiter.tenantTry tenantId late := by
  cases held : limiter.perTenant tenantId with
  | none =>
      simp only [tenantTry, held, Option.getD_none] at refused ⊢
      rw [← tryConsume_new le]
      exact tryConsume_refused (refills_new _ _ now).rising le_rfl le refused
  | some bucket =>
      have kept := current.tenant tenantId bucket held
      simp only [tenantTry, held, Option.getD_some] at refused ⊢
      exact tryConsume_refused kept.rising kept.past le refused

variable {a b : RateLimitService}

theorem Alike.refl (s : SessionId) (now : Nat) (limiter : RateLimitService) : Alike s now limiter limiter :=
  ⟨rfl, rfl, fun _ _ => rfl, fun _ _ _ => rfl⟩

theorem Alike.configFor (alike : Alike s now a b) (tenantId : TenantId) : a.configFor tenantId = b.configFor tenantId := by
  simp only [RateLimitService.configFor, alike.defaultConfig, alike.overrides]

theorem Alike.sessionTry (alike : Alike s now a b) {q : SessionId} (other : q ≠ s) (late : Nat) :
    a.sessionTry q tenantId late = b.sessionTry q tenantId late := by
  simp only [RateLimitService.sessionTry, alike.configFor tenantId, alike.session q other]

theorem tenant_of_ne_of_self {a b a' b' : RateLimitService} (alike : Alike s now a b) (le : now ≤ late) (tenantId : TenantId)
    (self : ∀ later, late ≤ later → a'.tenantTry tenantId later = b'.tenantTry tenantId later)
    (first : ∀ named later, named ≠ tenantId → a'.tenantTry named later = a.tenantTry named later)
    (second : ∀ named later, named ≠ tenantId → b'.tenantTry named later = b.tenantTry named later) :
    ∀ named later, late ≤ later → a'.tenantTry named later = b'.tenantTry named later := by
  intro named later after
  by_cases here : named = tenantId
  · subst here
    exact self later after
  · rw [first named later here, second named later here]
    exact alike.tenant named later (le.trans after)

theorem session_update (alike : Alike s now a b) {x y : SessionId → Option TokenBucket} {q : SessionId}
    {u v : Option TokenBucket} (first : x = Function.update a.perSession q u)
    (second : y = Function.update b.perSession q v) (same : q ≠ s → u = v) :
    ∀ r, r ≠ s → x r = y r := by
  intro r other
  subst first second
  by_cases here : r = q
  · subst here
    rw [Function.update_self, Function.update_self, same other]
  · rw [Function.update_of_ne here, Function.update_of_ne here]
    exact alike.session r other

theorem Alike.check (alike : Alike s now a b) (q : SessionId) (tenantId : TenantId) (le : now ≤ late) :
    Alike s late (a.check q tenantId late).2 (b.check q tenantId late).2 where
  defaultConfig := alike.defaultConfig
  overrides := alike.overrides
  session := session_update alike rfl rfl fun other => by rw [alike.sessionTry other late]
  tenant := by
    apply tenant_of_ne_of_self alike le tenantId
    · intro later after
      rw [tenantTry_check_self, tenantTry_check_self, alike.tenant tenantId late le]
    · intro named later apart
      exact tenantTry_check_of_ne apart
    · intro named later apart
      exact tenantTry_check_of_ne apart

theorem Alike.checkTenant (alike : Alike s now a b) (tenantId : TenantId) (le : now ≤ late) :
    Alike s late (a.checkTenant tenantId late).2 (b.checkTenant tenantId late).2 where
  defaultConfig := alike.defaultConfig
  overrides := alike.overrides
  session := alike.session
  tenant := by
    apply tenant_of_ne_of_self alike le tenantId
    · intro later after
      rw [tenantTry_checkTenant_self, tenantTry_checkTenant_self, alike.tenant tenantId late le]
    · intro named later apart
      exact tenantTry_checkTenant_of_ne apart
    · intro named later apart
      exact tenantTry_checkTenant_of_ne apart

theorem Alike.setTenantLimits (alike : Alike s now a b) (tenantId : TenantId) (config : RateLimitConfig) :
    Alike s now (a.setTenantLimits tenantId config) (b.setTenantLimits tenantId config) where
  defaultConfig := alike.defaultConfig
  overrides := by
    show Function.update a.overrides _ _ = _
    rw [alike.overrides]
    rfl
  session := alike.session
  tenant := by
    apply tenant_of_ne_of_self alike le_rfl tenantId
    · intro later _
      rw [tenantTry_setTenantLimits_self, tenantTry_setTenantLimits_self]
    · intro named later apart
      exact tenantTry_setTenantLimits_of_ne apart
    · intro named later apart
      exact tenantTry_setTenantLimits_of_ne apart

theorem Alike.clearTenantLimits (alike : Alike s now a b) (tenantId : TenantId) :
    Alike s now (a.clearTenantLimits tenantId) (b.clearTenantLimits tenantId) where
  defaultConfig := alike.defaultConfig
  overrides := by
    show Function.update a.overrides _ _ = _
    rw [alike.overrides]
    rfl
  session := alike.session
  tenant := by
    apply tenant_of_ne_of_self alike le_rfl tenantId
    · intro later _
      rw [tenantTry_clearTenantLimits_self, tenantTry_clearTenantLimits_self, alike.defaultConfig]
    · intro named later apart
      exact tenantTry_clearTenantLimits_of_ne apart
    · intro named later apart
      exact tenantTry_clearTenantLimits_of_ne apart

theorem Alike.dropSession (alike : Alike s now a b) (q : SessionId) :
    Alike s now (a.dropSession q) (b.dropSession q) :=
  ⟨alike.defaultConfig, alike.overrides, session_update alike rfl rfl fun _ => rfl, alike.tenant⟩

theorem Alike.apply (alike : Alike s now a b) (call : LimiterCall) (le : now ≤ call.reading.getD now) :
    Alike s (call.reading.getD now) (a.apply call) (b.apply call) := by
  cases call with
  | check q tenantId late => exact alike.check q tenantId le
  | checkTenant tenantId late => exact alike.checkTenant tenantId le
  | setTenantLimits tenantId config => exact alike.setTenantLimits tenantId config
  | clearTenantLimits tenantId => exact alike.clearTenantLimits tenantId
  | dropSession q => exact alike.dropSession q

theorem Alike.answer (alike : Alike s now a b) {call : LimiterCall} (le : now ≤ call.reading.getD now)
    (other : sent s call = false) : a.answer call = b.answer call := by
  cases call with
  | check q tenantId late =>
      have apart : q ≠ s := by simpa [sent] using other
      simp only [RateLimitService.answer, RateLimitService.check, alike.sessionTry apart late,
        alike.tenant tenantId late le]
  | checkTenant tenantId late =>
      simp only [RateLimitService.answer, RateLimitService.checkTenant, alike.tenant tenantId late le]
  | setTenantLimits tenantId config => rfl
  | clearTenantLimits tenantId => rfl
  | dropSession q => rfl

theorem Alike.spare (alike : Alike s now a b) (current : Current late a) (le : now ≤ late)
    (refused : (a.tenantTry tenantId late).1 = false) : Alike s late (a.check s tenantId late).2 b where
  defaultConfig := alike.defaultConfig
  overrides := alike.overrides
  session := by
    intro q other
    show Function.update _ _ _ _ = _
    rw [Function.update_of_ne other]
    exact alike.session q other
  tenant := by
    apply tenant_of_ne_of_self alike le tenantId
    · intro later after
      rw [tenantTry_check_self, tenantTry_refused current after refused]
      exact alike.tenant tenantId later (le.trans after)
    · intro named later apart
      exact tenantTry_check_of_ne apart
    · intro named later _
      rfl

theorem heard_cons (call : LimiterCall) : heard s limiter (call :: calls) =
    if sent s call then heard s (limiter.apply call) calls
    else limiter.answer call :: heard s (limiter.apply call) calls := by
  cases own : sent s call <;> simp [heard, trace, own]

theorem spared_cons (call : LimiterCall) : spared s limiter (call :: calls) =
    if sent s call && !accepts (limiter, call) then spared s (limiter.apply call) calls
    else call :: spared s (limiter.apply call) calls := by
  unfold spared
  rw [trace, List.filter_cons]
  cases sent s call && !accepts (limiter, call) <;> rfl

theorem heard_spared (alike : Alike s start a b) (current : Current start a) (ordered : Ordered start calls)
    (drained : ∀ p ∈ a.trace calls, Drained p) : heard s b (spared s a calls) = heard s a calls := by
  induction calls generalizing start a b with
  | nil => rfl
  | cons call calls ih =>
      obtain ⟨le, later⟩ := ordered_cons.mp ordered
      obtain ⟨here, rest⟩ := List.forall_mem_cons.mp drained
      have onward := current.apply le
      rw [spared_cons, heard_cons]
      cases own : sent s call with
      | false =>
          rw [Bool.false_and, if_neg (by decide), if_neg (by decide), heard_cons, own, if_neg (by decide),
            ← alike.answer le own, ih (alike.apply call le) onward later rest]
      | true =>
          rw [Bool.true_and, if_pos rfl]
          cases taken : accepts (a, call) with
          | true =>
              rw [Bool.not_true, if_neg (by decide), heard_cons, own, if_pos rfl]
              exact ih (alike.apply call le) onward later rest
          | false =>
              rw [Bool.not_false, if_pos rfl]
              refine ih ?_ onward later rest
              cases call with
              | check q tenantId now =>
                  obtain rfl : q = s := by simpa [sent] using own
                  have now' := current.mono le
                  refine alike.spare now' le ?_
                  rw [accepts_check, Bool.and_eq_false_iff] at taken
                  exact taken.elim ((drained_check now').mp here) id
              | checkTenant _ _ => cases own
              | setTenantLimits _ _ => cases own
              | clearTenantLimits _ => cases own
              | dropSession _ => cases own

end

def flood : List LimiterCall := [.check nameless nameless 0, .check nameless nameless 0]

/-- The second frame finds the one token that has come back. -/
def patient : List LimiterCall := [.check nameless nameless 0, .check nameless nameless 1000000000]

end RealtimePlatform.Proof.SessionQuota
