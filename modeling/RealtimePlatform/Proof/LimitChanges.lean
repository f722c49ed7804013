import RealtimePlatform.Backend.LimiterTasks
import Mathlib.Tactic.NormNum

namespace RealtimePlatform.Proof.LimitChanges
open Library Backend LimiterSystem

def Quiet (tenantId : TenantId) (s : LimiterSystem) : Prop := ∀ task, s.tasks task ≠ some (.reset tenantId)

def BuiltFrom (config : RateLimitConfig) (bucket : TokenBucket) : Prop :=
  bucket.capacity = config.tenantCapacity ∧ bucket.refillPerSec = config.tenantRefillPerSec

/-- When no change of its limits is under way, a tenant's bucket is that of the configuration in force. -/
def InForce (s : LimiterSystem) : Prop :=
  ∀ tenantId, Quiet tenantId s → ∀ bucket, s.limiter.perTenant tenantId = some bucket →
    BuiltFrom (s.limiter.configFor tenantId) bucket

/-- A task that makes a tenant's bucket, while no change of the limits is under way, has read a
configuration that gives the tenant what the one in force does. -/
def UpToDate (s : LimiterSystem) : LimiterEvent → Prop
  | .chargeTenant task _ => ∀ tenantId cfg sessionOk, s.tasks task = some (.tenantPart tenantId cfg sessionOk) →
      s.limiter.perTenant tenantId = none → Quiet tenantId s →
      cfg.tenantCapacity = (s.limiter.configFor tenantId).tenantCapacity ∧
        cfg.tenantRefillPerSec = (s.limiter.configFor tenantId).tenantRefillPerSec
  | _ => True

section
variable {s t : LimiterSystem} {e : LimiterEvent} {task now : Nat} {tenantId named : TenantId}
  {cfg config : RateLimitConfig} {bucket : TokenBucket} {todo : Option LimiterTask}

theorem tryConsume_limits : (bucket.tryConsume now).2.capacity = bucket.capacity ∧
    (bucket.tryConsume now).2.refillPerSec = bucket.refillPerSec := by
  unfold TokenBucket.tryConsume
  dsimp only
  split
  · exact ⟨rfl, rfl⟩
  · exact ⟨rfl, rfl⟩

theorem builtFrom_tryConsume : BuiltFrom config (bucket.tryConsume now).2 ↔ BuiltFrom config bucket := by
  unfold BuiltFrom
  rw [tryConsume_limits.1, tryConsume_limits.2]

theorem builtFrom_new : BuiltFrom config (TokenBucket.new cfg.tenantCapacity cfg.tenantRefillPerSec now) ↔
    cfg.tenantCapacity = config.tenantCapacity ∧ cfg.tenantRefillPerSec = config.tenantRefillPerSec := by
  unfold BuiltFrom TokenBucket.new
  rw [Nat.cast_inj, Nat.cast_inj]

theorem quiet_assign (calm : todo ≠ some (.reset tenantId)) (kept : t.tasks = Function.update s.tasks task todo)
    (before : Quiet tenantId s) : Quiet tenantId t := by
  intro other
  rw [kept]
  by_cases here : other = task
  · rw [here, Function.update_self]
    exact calm
  · rw [Function.update_of_ne here]
    exact before other

theorem quiet_of_assign (calm : s.tasks task ≠ some (.reset tenantId))
    (kept : t.tasks = Function.update s.tasks task todo) (after : Quiet tenantId t) : Quiet tenantId s := by
  intro other
  by_cases here : other = task
  · exact here ▸ calm
  · have there := after other
    rw [kept, Function.update_of_ne here] at there
    exact there

theorem not_quiet_assign (kept : t.tasks = Function.update s.tasks task (some (.reset tenantId))) :
    ¬ Quiet tenantId t := by
  intro quiet
  apply quiet task
  rw [kept, Function.update_self]

theorem enter_eq_some {todo : LimiterTask} {limiter : RateLimitService} (entered : s.enter task todo limiter = some t) :
    s.tasks task = none ∧ t.limiter = limiter ∧ t.tasks = Function.update s.tasks task (some todo) := by
  unfold enter at entered
  split at entered
  · rename_i free
    obtain rfl := Option.some.inj entered
    exact ⟨Option.isNone_iff_eq_none.mp free, rfl, rfl⟩
  · cases entered

inductive Touches (tenantId : TenantId) (s : LimiterSystem) : LimiterEvent → LimiterSystem → Prop
  | none {e : LimiterEvent} {t : LimiterSystem} (bucket : t.limiter.perTenant tenantId = s.limiter.perTenant tenantId)
    (config : t.limiter.configFor tenantId = s.limiter.configFor tenantId)
    (quiet : Quiet tenantId t → Quiet tenantId s) : Touches tenantId s e t
  | change {e : LimiterEvent} {t : LimiterSystem} (loud : ¬ Quiet tenantId t) : Touches tenantId s e t
  | reset {e : LimiterEvent} {t : LimiterSystem} (gone : t.limiter.perTenant tenantId = none) : Touches tenantId s e t
  | charge (task now : Nat) {cfg : RateLimitConfig} {sessionOk : Bool} {t : LimiterSystem}
    (turn : s.tasks task = some (.tenantPart tenantId cfg sessionOk))
    (charged : t.limiter = (s.limiter.chargeTenant tenantId cfg now).2)
    (done : t.tasks = Function.update s.tasks task Option.none) : Touches tenantId s (.chargeTenant task now) t

theorem touches_read {todo : LimiterTask} (entered : s.enter task todo s.limiter = some t) (tenantId : TenantId) :
    Touches tenantId s e t := by
  obtain ⟨free, limiter, tasks⟩ := enter_eq_some entered
  refine .none (by rw [limiter]) (by rw [limiter]) (quiet_of_assign ?_ tasks)
  rw [free]
  exact nofun

theorem touches_override {config : Option RateLimitConfig}
    (entered : s.enter task (.reset named) (s.limiter.override named config) = some t) (tenantId : TenantId) :
    Touches tenantId s e t := by
  obtain ⟨free, limiter, tasks⟩ := enter_eq_some entered
  by_cases here : tenantId = named
  · subst here
    exact .change (not_quiet_assign tasks)
  · refine .none (by rw [limiter]; rfl) ?_ (quiet_of_assign ?_ tasks)
    · rw [limiter]
      simp [RateLimitService.configFor, RateLimitService.override, here]
    · rw [free]
      exact nofun

theorem touches_step (stepped : step s e = some t) (tenantId : TenantId) : Touches tenantId s e t := by
  cases e with
  | check task sessionId named => exact touches_read stepped tenantId
  | checkTenant task named => exact touches_read stepped tenantId
  | chargeSession task now =>
      simp only [step] at stepped
      split at stepped
      · rename_i turn
        obtain rfl := Option.some.inj stepped
        refine .none rfl rfl (quiet_of_assign ?_ rfl)
        rw [turn]
        exact nofun
      · cases stepped
  | chargeTenant task now =>
      simp only [step] at stepped
      split at stepped
      · rename_i named cfg sessionOk turn
        obtain rfl := Option.some.inj stepped
        by_cases here : tenantId = named
        · subst here
          exact .charge task now turn rfl rfl
        · refine .none (Function.update_of_ne here _ _) rfl (quiet_of_assign ?_ rfl)
          rw [turn]
          exact nofun
      · cases stepped
  | setTenantLimits task named config => exact touches_override stepped tenantId
  | clearTenantLimits task named => exact touches_override stepped tenantId
  | removeTenant task =>
      simp only [step] at stepped
      split at stepped
      · rename_i named turn
        obtain rfl := Option.some.inj stepped
        by_cases here : tenantId = named
        · subst here
          exact .reset (Function.update_self _ _ _)
        · refine .none (Function.update_of_ne here _ _) rfl (quiet_of_assign ?_ rfl)
          rw [turn]
          intro same
          cases same
          exact here rfl
      · cases stepped
  | dropSession sessionId =>
      obtain rfl := Option.some.inj stepped
      exact .none rfl rfl id

theorem perTenant_chargeTenant (limiter : RateLimitService) :
    (limiter.chargeTenant tenantId cfg now).2.perTenant tenantId =
      some (((limiter.perTenant tenantId).getD
        (TokenBucket.new cfg.tenantCapacity cfg.tenantRefillPerSec now)).tryConsume now).2 :=
  Function.update_self _ _ _

theorem inForce_step (held : InForce s) (stepped : step s e = some t) : UpToDate s e ↔ InForce t := by
  constructor
  · intro fresh tenantId quiet bucket found
    cases touches_step stepped tenantId with
    | none same config before =>
        rw [config]
        exact held tenantId (before quiet) bucket (same ▸ found)
    | change loud => exact absurd quiet loud
    | reset gone =>
        rw [gone] at found
        cases found
    | @charge task now cfg sessionOk _ turn charged done =>
        have before : Quiet tenantId s := by
          refine quiet_of_assign ?_ done quiet
          rw [turn]
          exact nofun
        rw [charged, perTenant_chargeTenant] at found
        obtain rfl := Option.some.inj found
        rw [charged, builtFrom_tryConsume]
        cases made : s.limiter.perTenant tenantId with
        | none => exact builtFrom_new.mpr (fresh tenantId cfg sessionOk turn made before)
        | some bucket => exact held tenantId before bucket made
  · intro after
    cases e with
    | chargeTenant task now =>
        intro tenantId cfg sessionOk turn missing quiet
        simp only [step, turn] at stepped
        obtain rfl := Option.some.inj stepped
        have calm : (none : Option LimiterTask) ≠ some (.reset tenantId) := nofun
        have built := after tenantId (quiet_assign calm rfl quiet) _ (perTenant_chargeTenant s.limiter)
        rw [builtFrom_tryConsume, missing, Option.getD_none] at built
        exact builtFrom_new.mp built
    | _ => trivial

end

theorem inForce_new (config : RateLimitConfig) : InForce (new config) := by
  intro tenantId _ bucket found
  cases found

/-- Through a run the limits in force are those of the buckets exactly when no outdated configuration makes
a bucket. -/
theorem in_force_iff (config : RateLimitConfig) (es : List LimiterEvent) (s : LimiterSystem)
    (reached : step.run (new config) es = some s) :
    Step.Throughout step InForce (new config) es ↔ Step.Meets step UpToDate (new config) es :=
  (Step.meets_iff_throughout (fun _ _ _ _ _ => trivial) (fun _ _ _ (_ : True) held stepped => inForce_step held stepped)
    reached trivial (inForce_new config)).symm

def anyTenant : TenantId := ⟨9 :: List.replicate 15 0, rfl⟩

/-- An HTTP publish is checked while an administrator leaves the tenant one token. -/
def raced : List LimiterEvent := [.checkTenant 0 anyTenant, .setTenantLimits 1 anyTenant ⟨1, 0, 1, 0⟩,
  .removeTenant 1, .chargeTenant 0 0]

def outdated : RateLimitService :=
  (RateLimitService.chargeTenant (((RateLimitService.new {}).override anyTenant (some ⟨1, 0, 1, 0⟩)).removeTenant
    anyTenant) anyTenant {} 0).2

theorem run_raced : ∃ s, step.run (new {}) raced = some s ∧ s.limiter = outdated ∧ Quiet anyTenant s := by
  refine ⟨_, rfl, rfl, fun task => ?_⟩
  match task with
  | 0 => exact nofun
  | 1 => exact nofun
  | _ + 2 => exact nofun

theorem not_in_force_raced : ¬ Step.Throughout step InForce (new {}) raced := by
  intro held
  obtain ⟨s, reached, same, quiet⟩ := run_raced
  have last := Step.throughout_iff_prefixes.mp held raced s List.prefix_rfl reached
  have built := last anyTenant quiet
  rw [same] at built
  have sized := (built _ (perTenant_chargeTenant _)).1
  rw [tryConsume_limits.1] at sized
  -- The bucket holds the 2000 tokens of the default.
  norm_num [outdated, RateLimitService.configFor, RateLimitService.chargeTenant, RateLimitService.removeTenant,
    RateLimitService.override, TokenBucket.new] at sized

/-- The administrator is done before the publish is checked. -/
def settled : List LimiterEvent := [.setTenantLimits 1 anyTenant ⟨1, 0, 1, 0⟩, .removeTenant 1,
  .checkTenant 0 anyTenant, .chargeTenant 0 0]

theorem in_force_iff_settled : Step.Throughout step InForce (new {}) settled := by
  refine (in_force_iff {} settled _ rfl).mpr ?_
  refine Step.meets_cons trivial rfl (Step.meets_cons trivial rfl (Step.meets_cons trivial rfl
    (Step.meets_cons ?_ rfl trivial)))
  intro tenantId cfg sessionOk there _ _
  cases there
  exact ⟨rfl, rfl⟩

end RealtimePlatform.Proof.LimitChanges
