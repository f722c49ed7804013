import RealtimePlatform.Backend.Admission
import RealtimePlatform.Library.Transition

/-!
# The limiter that tasks share

The calls of the limiter, cut into the operations on its maps. A task is between two of them; `answers`
is a ghost.
-/

namespace RealtimePlatform.Backend
open Library

namespace RateLimitService

def chargeSession (limiter : RateLimitService) (sessionId : SessionId) (cfg : RateLimitConfig) (now : Nat) :
    Bool × RateLimitService :=
  let session := ((limiter.perSession sessionId).getD
    (TokenBucket.new cfg.sessionCapacity cfg.sessionRefillPerSec now)).tryConsume now
  (session.1, { limiter with perSession := Function.update limiter.perSession sessionId (some session.2) })

def chargeTenant (limiter : RateLimitService) (tenantId : TenantId) (cfg : RateLimitConfig) (now : Nat) :
    Bool × RateLimitService :=
  let tenant := ((limiter.perTenant tenantId).getD
    (TokenBucket.new cfg.tenantCapacity cfg.tenantRefillPerSec now)).tryConsume now
  (tenant.1, { limiter with perTenant := Function.update limiter.perTenant tenantId (some tenant.2) })

def override (limiter : RateLimitService) (tenantId : TenantId) (config : Option RateLimitConfig) :
    RateLimitService :=
  { limiter with overrides := Function.update limiter.overrides tenantId config }

def removeTenant (limiter : RateLimitService) (tenantId : TenantId) : RateLimitService :=
  { limiter with perTenant := Function.update limiter.perTenant tenantId none }

end RateLimitService

/-- What a task has yet to do of the call it is in. -/
inductive LimiterTask where
  | check (sessionId : SessionId) (tenantId : TenantId) (cfg : RateLimitConfig)
  | tenantPart (tenantId : TenantId) (cfg : RateLimitConfig) (sessionOk : Bool)
  | reset (tenantId : TenantId)

structure LimiterSystem where
  limiter : RateLimitService
  tasks : Nat → Option LimiterTask := fun _ => none
  answers : List (Nat × Bool) := []

inductive LimiterEvent where
  | check (task : Nat) (sessionId : SessionId) (tenantId : TenantId)
  | checkTenant (task : Nat) (tenantId : TenantId)
  | chargeSession (task : Nat) (now : Nat)
  | chargeTenant (task : Nat) (now : Nat)
  | setTenantLimits (task : Nat) (tenantId : TenantId) (config : RateLimitConfig)
  | clearTenantLimits (task : Nat) (tenantId : TenantId)
  | removeTenant (task : Nat)
  | dropSession (sessionId : SessionId)

namespace LimiterSystem

def new (config : RateLimitConfig) : LimiterSystem := { limiter := RateLimitService.new config }

def assign (task : Nat) (todo : Option LimiterTask) (s : LimiterSystem) : LimiterSystem :=
  { s with tasks := Function.update s.tasks task todo }

/-- The first step of a call, on a task that is in none. -/
def enter (task : Nat) (todo : LimiterTask) (limiter : RateLimitService) (s : LimiterSystem) : Option LimiterSystem :=
  if (s.tasks task).isNone then some ({ s with limiter := limiter }.assign task (some todo)) else none

def step : Step LimiterSystem LimiterEvent
  | s, .check task sessionId tenantId =>
    s.enter task (.check sessionId tenantId (s.limiter.configFor tenantId)) s.limiter
  -- There is no session's answer to join with.
  | s, .checkTenant task tenantId =>
    s.enter task (.tenantPart tenantId (s.limiter.configFor tenantId) true) s.limiter
  | s, .setTenantLimits task tenantId config =>
    s.enter task (.reset tenantId) (s.limiter.override tenantId (some config))
  | s, .clearTenantLimits task tenantId =>
    s.enter task (.reset tenantId) (s.limiter.override tenantId none)
  | s, .chargeSession task now =>
    match s.tasks task with
    | some (.check sessionId tenantId cfg) =>
      let session := s.limiter.chargeSession sessionId cfg now
      some ({ s with limiter := session.2 }.assign task (some (.tenantPart tenantId cfg session.1)))
    | _ => none
  | s, .chargeTenant task now =>
    match s.tasks task with
    | some (.tenantPart tenantId cfg sessionOk) =>
      let tenant := s.limiter.chargeTenant tenantId cfg now
      some ({ s with limiter := tenant.2, answers := s.answers ++ [(task, sessionOk && tenant.1)] }.assign task none)
    | _ => none
  | s, .removeTenant task =>
    match s.tasks task with
    | some (.reset tenantId) => some ({ s with limiter := s.limiter.removeTenant tenantId }.assign task none)
    | _ => none
  | s, .dropSession sessionId => some { s with limiter := s.limiter.dropSession sessionId }

end LimiterSystem
end RealtimePlatform.Backend
