import RealtimePlatform.Library.Timestamp
import RealtimePlatform.Backend.Realtime
import Mathlib.Data.List.Sort

/-!
# The notification log of the portal

The table `notifications` with its statements. A time is stored as its text, and the feed is ordered by
these texts.
-/

namespace RealtimePlatform.Backend
open Library

namespace NotificationDelivery

def asStr : NotificationDelivery → String
  | .realtime => "realtime"
  | .push => "push"

def fromStr (raw : String) : NotificationDelivery := if raw = "push" then .push else .realtime

theorem fromStr_asStr (delivery : NotificationDelivery) : fromStr delivery.asStr = delivery := by
  cases delivery <;> rfl

end NotificationDelivery

structure NotificationRow where
  id : Uuid
  tenantId : TenantId
  channelId : String
  payload : String
  delivery : String
  createdAt : Timestamp
  readAt : Option Timestamp

structure NotificationRepository where
  rows : List NotificationRow := []

namespace NotificationRepository

def ids (repo : NotificationRepository) : List Uuid := repo.rows.map NotificationRow.id

def insert (id : Uuid) (n : Notification) (createdAt : Timestamp) (repo : NotificationRepository) :
    NotificationRepository :=
  if id ∈ repo.ids then repo
  else ⟨repo.rows ++ [⟨id, n.tenantId, n.channelId, n.payload, n.delivery.asStr, createdAt, none⟩]⟩

def rowsOf (tenantId : TenantId) (repo : NotificationRepository) : List NotificationRow :=
  repo.rows.filter fun row => row.tenantId = tenantId

/-- `ORDER BY created_at DESC` on texts. -/
def laterFirst (row other : NotificationRow) : Bool := !decide (row.createdAt.toRfc3339 < other.createdAt.toRfc3339)

def listForTenant (tenantId : TenantId) (limit : Nat) (repo : NotificationRepository) : List NotificationRow :=
  ((repo.rowsOf tenantId).mergeSort laterFirst).take limit

def countByDelivery (tenantId : TenantId) (repo : NotificationRepository) : Nat × Nat :=
  (repo.rows.countP fun row => row.tenantId = tenantId && row.delivery = "realtime",
    repo.rows.countP fun row => row.tenantId = tenantId && row.delivery = "push")

def unreadCount (tenantId : TenantId) (repo : NotificationRepository) : Nat :=
  repo.rows.countP fun row => row.tenantId = tenantId && row.readAt.isNone

def markRead (tenantId : TenantId) (id : Uuid) (now : Timestamp) (repo : NotificationRepository) :
    NotificationRepository :=
  ⟨repo.rows.map fun row =>
    if row.id = id && (row.tenantId = tenantId && row.readAt.isNone) then { row with readAt := some now } else row⟩

def markAllRead (tenantId : TenantId) (now : Timestamp) (repo : NotificationRepository) : NotificationRepository :=
  ⟨repo.rows.map fun row =>
    if row.tenantId = tenantId && row.readAt.isNone then { row with readAt := some now } else row⟩

end NotificationRepository

/-- The statements that change the table. -/
inductive NotificationEvent where
  | inserted (id : Uuid) (n : Notification) (createdAt : Timestamp)
  | markedRead (tenantId : TenantId) (id : Uuid) (now : Timestamp)
  | markedAllRead (tenantId : TenantId) (now : Timestamp)

namespace NotificationEvent

def apply (repo : NotificationRepository) : NotificationEvent → NotificationRepository
  | inserted id n createdAt => repo.insert id n createdAt
  | markedRead tenantId id now => repo.markRead tenantId id now
  | markedAllRead tenantId now => repo.markAllRead tenantId now

def tenantId : NotificationEvent → TenantId
  | inserted _ n _ => n.tenantId
  | markedRead tenantId _ _ => tenantId
  | markedAllRead tenantId _ => tenantId

end NotificationEvent

def feedLimit : Nat := 100

structure NotificationResponseDto where
  id : Uuid
  channelId : String
  payload : String
  delivery : String
  createdAt : Timestamp
  readAt : Option Timestamp

def NotificationRow.toResponse (row : NotificationRow) : NotificationResponseDto :=
  ⟨row.id, row.channelId, row.payload, (NotificationDelivery.fromStr row.delivery).asStr, row.createdAt, row.readAt⟩

structure NotificationListResponseDto where
  items : List NotificationResponseDto
  unreadCount : Nat

def listNotifications (tenantId : TenantId) (repo : NotificationRepository) : NotificationListResponseDto :=
  ⟨(repo.listForTenant tenantId feedLimit).map NotificationRow.toResponse, repo.unreadCount tenantId⟩

end RealtimePlatform.Backend
