import RealtimePlatform.Backend.Entities
import Mathlib.Algebra.Order.Field.Rat
import Mathlib.Logic.Function.Basic

/-!
# Rate limiting and metrics

Token counts are exact rationals where the source has `f64`. The maps of the limiter are never
enumerated, so they are functions; the latency histogram of the metrics is left out.
-/

namespace RealtimePlatform.Backend

structure TokenBucket where
  capacity : ℚ
  tokens : ℚ
  refillPerSec : ℚ
  lastRefill : Nat

namespace TokenBucket

def new (capacity refillPerSec now : Nat) : TokenBucket := ⟨capacity, capacity, refillPerSec, now⟩

def tryConsume (now : Nat) (bucket : TokenBucket) : Bool × TokenBucket :=
  let elapsed : ℚ := ((now - bucket.lastRefill : Nat) : ℚ) / 1000000000
  let tokens := min (bucket.tokens + elapsed * bucket.refillPerSec) bucket.capacity
  if 1 ≤ tokens then (true, { bucket with tokens := tokens - 1, lastRefill := now })
  else (false, { bucket with tokens := tokens, lastRefill := now })

end TokenBucket

structure RateLimitService where
  defaultConfig : RateLimitConfig
  overrides : TenantId → Option RateLimitConfig
  perSession : SessionId → Option TokenBucket
  perTenant : TenantId → Option TokenBucket

namespace RateLimitService

def new (defaultConfig : RateLimitConfig) : RateLimitService :=
  ⟨defaultConfig, fun _ => none, fun _ => none, fun _ => none⟩

def configFor (limiter : RateLimitService) (tenantId : TenantId) : RateLimitConfig :=
  (limiter.overrides tenantId).getD limiter.defaultConfig

def setTenantLimits (tenantId : TenantId) (config : RateLimitConfig) (limiter : RateLimitService) :
    RateLimitService :=
  { limiter with
    overrides := Function.update limiter.overrides tenantId (some config)
    perTenant := Function.update limiter.perTenant tenantId none }

def clearTenantLimits (tenantId : TenantId) (limiter : RateLimitService) : RateLimitService :=
  { limiter with
    overrides := Function.update limiter.overrides tenantId none
    perTenant := Function.update limiter.perTenant tenantId none }

def sessionTry (limiter : RateLimitService) (sessionId : SessionId) (tenantId : TenantId)
    (now : Nat) : Bool × TokenBucket :=
  let cfg := limiter.configFor tenantId
  ((limiter.perSession sessionId).getD
    (TokenBucket.new cfg.sessionCapacity cfg.sessionRefillPerSec now)).tryConsume now

def tenantTry (limiter : RateLimitService) (tenantId : TenantId) (now : Nat) : Bool × TokenBucket :=
  let cfg := limiter.configFor tenantId
  ((limiter.perTenant tenantId).getD
    (TokenBucket.new cfg.tenantCapacity cfg.tenantRefillPerSec now)).tryConsume now

-- Both buckets are charged before the conjunction is formed.
def check (limiter : RateLimitService) (sessionId : SessionId) (tenantId : TenantId) (now : Nat) :
    Bool × RateLimitService :=
  let session := limiter.sessionTry sessionId tenantId now
  let tenant := limiter.tenantTry tenantId now
  (session.1 && tenant.1,
    { limiter with
      perSession := Function.update limiter.perSession sessionId (some session.2)
      perTenant := Function.update limiter.perTenant tenantId (some tenant.2) })

def dropSession (sessionId : SessionId) (limiter : RateLimitService) : RateLimitService :=
  { limiter with perSession := Function.update limiter.perSession sessionId none }

def checkTenant (limiter : RateLimitService) (tenantId : TenantId) (now : Nat) :
    Bool × RateLimitService :=
  let tenant := limiter.tenantTry tenantId now
  (tenant.1, { limiter with perTenant := Function.update limiter.perTenant tenantId (some tenant.2) })

end RateLimitService

inductive Transport where
  | webSocket | tcp
  deriving DecidableEq

structure MetricsService where
  wsConnectionsActive : Int := 0
  tcpConnectionsActive : Int := 0
  messagesTotal : TenantId → String → Nat := fun _ _ => 0
  pushFallbackTotal : TenantId → Nat := fun _ => 0
  rateLimitedTotal : TenantId → Nat := fun _ => 0

namespace MetricsService

def connectionOpened (metrics : MetricsService) : Transport → MetricsService
  | .webSocket => { metrics with wsConnectionsActive := metrics.wsConnectionsActive + 1 }
  | .tcp => { metrics with tcpConnectionsActive := metrics.tcpConnectionsActive + 1 }

def connectionClosed (metrics : MetricsService) : Transport → MetricsService
  | .webSocket => { metrics with wsConnectionsActive := metrics.wsConnectionsActive - 1 }
  | .tcp => { metrics with tcpConnectionsActive := metrics.tcpConnectionsActive - 1 }

def recordFrame (tenantId : TenantId) (opcode : String) (metrics : MetricsService) : MetricsService :=
  { metrics with
    messagesTotal := fun tenant label =>
      metrics.messagesTotal tenant label + if tenant = tenantId ∧ label = opcode then 1 else 0 }

def recordPushFallback (tenantId : TenantId) (metrics : MetricsService) : MetricsService :=
  { metrics with
    pushFallbackTotal := fun tenant =>
      metrics.pushFallbackTotal tenant + if tenant = tenantId then 1 else 0 }

def recordRateLimited (tenantId : TenantId) (metrics : MetricsService) : MetricsService :=
  { metrics with
    rateLimitedTotal := fun tenant =>
      metrics.rateLimitedTotal tenant + if tenant = tenantId then 1 else 0 }

end MetricsService
end RealtimePlatform.Backend
