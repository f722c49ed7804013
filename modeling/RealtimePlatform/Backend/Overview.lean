import RealtimePlatform.Library.Exposition
import RealtimePlatform.Backend.NotificationLog

/-!
# The overview of a tenant

The counters are read out of the text that the registry renders, the sessions out of the presence
service and the two delivery counts out of the notification log.
-/

namespace RealtimePlatform.Backend
open Library

def messageLine (metrics : MetricsService) (child : TenantId × String) : List Char :=
  sampleLine "realtime_engine_messages_total" [("opcode", child.2.toList), ("tenant_id", child.1.toText)]
    (Nat.toDigits 10 (metrics.messagesTotal child.1 child.2))

def limitedLine (metrics : MetricsService) (tenantId : TenantId) : List Char :=
  sampleLine "realtime_engine_rate_limited_total" [("tenant_id", tenantId.toText)]
    (Nat.toDigits 10 (metrics.rateLimitedTotal tenantId))

def otherMetrics : List String := [
  "realtime_engine_frame_processing_seconds",
  "realtime_engine_push_fallback_total",
  "realtime_engine_tcp_connections_active",
  "realtime_engine_ws_connections_active"]

/-- A text that exposes the registry: a line for each labelled counter that has been touched, in whatever
order, between comments and the samples of the other metrics. Counts below 2 to the 53rd are written with
all their digits. -/
structure Exposition (metrics : MetricsService) where
  written : List (List Char)
  children : List (TenantId × String)
  limited : List TenantId
  others : List (List Char)
  order : written.Perm (children.map (messageLine metrics) ++ (limited.map (limitedLine metrics) ++ others))
  childrenDistinct : children.Nodup
  mem_children : ∀ child, child ∈ children ↔ metrics.messagesTotal child.1 child.2 ≠ 0
  limitedDistinct : limited.Nodup
  mem_limited : ∀ tenantId, tenantId ∈ limited ↔ metrics.rateLimitedTotal tenantId ≠ 0
  single : ∀ line ∈ others, '\n' ∉ line ∧ line.getLast? ≠ some '\r'
  foreign : ∀ line ∈ others, line.head? = some '#' ∨ ∃ name ∈ otherMetrics, name.toList <+: line

def Exposition.text {metrics : MetricsService} (exposition : Exposition metrics) : List Char :=
  exposition.written.flatMap fun line => line ++ ['\n']

def samples (metricName : String) (tenantId : TenantId) (line : List Char) : Bool :=
  metricName.toList <+: line && line.head? ≠ some '#' &&
    "tenant_id=\"".toList ++ tenantId.toText ++ ['"'] <:+: line

def sumMetricForTenant (raw : List Char) (metricName : String) (tenantId : TenantId) : Nat :=
  ((((lines raw).filter (samples metricName tenantId)).filterMap fun line => parseF64 (lastWord line)).map
    Double.asU64).sum % 2 ^ 64

def PresenceService.listSessions (tenantId : TenantId) (presence : PresenceService) : List PresenceEntry :=
  (presence.sessions.entries.map Sigma.snd).filter fun entry => entry.tenantId = tenantId

structure OverviewResponseDto where
  tenantId : TenantId
  activeSessions : Nat
  messagesTotal : Nat
  rateLimitedTotal : Nat
  realtimeMessagesTotal : Nat
  pushMessagesTotal : Nat

/-- `raw` is what the registry renders when the request is handled. -/
def getOverview (raw : List Char) (presence : PresenceService) (notifications : NotificationRepository)
    (tenantId : TenantId) : OverviewResponseDto where
  tenantId := tenantId
  activeSessions := (presence.listSessions tenantId).length
  messagesTotal := sumMetricForTenant raw "realtime_engine_messages_total" tenantId
  rateLimitedTotal := sumMetricForTenant raw "realtime_engine_rate_limited_total" tenantId
  realtimeMessagesTotal := (notifications.countByDelivery tenantId).1
  pushMessagesTotal := (notifications.countByDelivery tenantId).2

end RealtimePlatform.Backend
