import RealtimePlatform.Backend.TokenService
import RealtimePlatform.Backend.Realtime

/-!
# Stored Web Push subscriptions

The table `push_subscriptions` with its statements, the requests that write it, and the job that a
spawned lookup submits. The channel list is stored as JSON and read back unchanged.
-/

namespace RealtimePlatform.Backend
open Library

structure PushSubscription where
  endpoint : String
  tenantId : TenantId
  sub : String
  p256dhKey : String
  authKey : String
  channels : List String
  deviceLabel : Option String
  deriving DecidableEq

structure PushSubscriptionRow where
  subscription : PushSubscription
  createdAt : Nat
  deriving DecidableEq

structure PushSubscriptionSummary where
  endpoint : String
  sub : String
  channels : List String
  deviceLabel : Option String
  createdAt : Nat
  deriving DecidableEq

/-- The rows in the order of their insertion; the endpoint is the primary key. -/
structure PushSubscriptionRepository where
  rows : List PushSubscriptionRow
  distinct : (rows.map (·.subscription.endpoint)).Nodup

namespace PushSubscriptionRepository

def new : PushSubscriptionRepository := ⟨[], List.nodup_nil⟩

def endpoints (repo : PushSubscriptionRepository) : List String :=
  repo.rows.map (·.subscription.endpoint)

/-- `ON CONFLICT(endpoint) DO UPDATE`: every column but the time of creation. -/
def rewriteRow (sub : PushSubscription) (row : PushSubscriptionRow) : PushSubscriptionRow :=
  if row.subscription.endpoint = sub.endpoint then { row with subscription := sub } else row

theorem endpoint_rewriteRow (sub : PushSubscription) (row : PushSubscriptionRow) :
    (rewriteRow sub row).subscription.endpoint = row.subscription.endpoint := by
  unfold rewriteRow
  split
  · rename_i same
    exact same.symm
  · rfl

def upsert (sub : PushSubscription) (createdAt : Nat) (repo : PushSubscriptionRepository) :
    PushSubscriptionRepository :=
  if stored : sub.endpoint ∈ repo.endpoints then
    { rows := repo.rows.map (rewriteRow sub)
      distinct := by
        rw [List.map_map]
        simpa only [Function.comp_def, endpoint_rewriteRow] using repo.distinct }
  else
    { rows := repo.rows ++ [⟨sub, createdAt⟩]
      distinct := by
        rw [List.map_append]
        exact nodup_concat repo.distinct stored }

def delete (tenantId : TenantId) (endpoint : String) (repo : PushSubscriptionRepository) :
    PushSubscriptionRepository where
  rows := repo.rows.filter fun row =>
    !(row.subscription.endpoint = endpoint && row.subscription.tenantId = tenantId)
  distinct := repo.distinct.sublist (List.filter_sublist.map _)

def rowsOf (tenantId : TenantId) (repo : PushSubscriptionRepository) : List PushSubscriptionRow :=
  repo.rows.filter fun row => row.subscription.tenantId = tenantId

def findOne (tenantId : TenantId) (endpoint : String) (repo : PushSubscriptionRepository) :
    Option PushSubscription :=
  ((repo.rowsOf tenantId).find? fun row => row.subscription.endpoint = endpoint).map (·.subscription)

def listForTenant (tenantId : TenantId) (repo : PushSubscriptionRepository) :
    List PushSubscriptionSummary :=
  ((repo.rowsOf tenantId).mergeSort fun row other => other.createdAt ≤ row.createdAt).map fun row =>
    { endpoint := row.subscription.endpoint
      sub := row.subscription.sub
      channels := row.subscription.channels
      deviceLabel := row.subscription.deviceLabel
      createdAt := row.createdAt }

def wants (channelId : String) (sub : PushSubscription) : Bool :=
  sub.channels.any fun pattern => pattern == channelId || globMatch pattern channelId

def findMatching (tenantId : TenantId) (channelId : String) (repo : PushSubscriptionRepository) :
    List PushSubscription :=
  ((repo.rowsOf tenantId).map (·.subscription)).filter (wants channelId)

end PushSubscriptionRepository

structure RegisterPushSubscriptionDto where
  tenantId : TenantId
  endpoint : String
  p256dh : String
  auth : String
  channels : List String
  deviceLabel : Option String := none

inductive PushSubscriptionError where
  | unauthorized (err : AuthError)
  | storage
  deriving DecidableEq

/-- `written` tells whether the statement succeeds. -/
def registerPushSubscription (codec : TokenCodec) (auth : TokenService) (nowUnix createdAt : Nat)
    (written : Bool) (dto : RegisterPushSubscriptionDto) (token : String)
    (repo : PushSubscriptionRepository) : Except PushSubscriptionError Unit × PushSubscriptionRepository :=
  match auth.validate codec nowUnix dto.tenantId token with
  | .error err => (.error (.unauthorized err), repo)
  | .ok claims =>
    let subscription : PushSubscription :=
      { endpoint := dto.endpoint
        tenantId := dto.tenantId
        sub := claims.sub
        p256dhKey := dto.p256dh
        authKey := dto.auth
        channels := dto.channels
        deviceLabel := dto.deviceLabel }
    if written then (.ok (), repo.upsert subscription createdAt) else (.error .storage, repo)

def unregisterPushSubscription (codec : TokenCodec) (auth : TokenService) (nowUnix : Nat) (written : Bool)
    (tenantId : TenantId) (endpoint token : String) (repo : PushSubscriptionRepository) :
    Except PushSubscriptionError Unit × PushSubscriptionRepository :=
  match auth.validate codec nowUnix tenantId token with
  | .error err => (.error (.unauthorized err), repo)
  | .ok _ => if written then (.ok (), repo.delete tenantId endpoint) else (.error .storage, repo)

def revokePushSubscription (written : Bool) (tenantId : TenantId) (endpoint : String)
    (repo : PushSubscriptionRepository) : Except PushSubscriptionError Unit × PushSubscriptionRepository :=
  if written then (.ok (), repo.delete tenantId endpoint) else (.error .storage, repo)

structure WebPushSubscription where
  endpoint : String
  p256dhKey : String
  authKey : String
  deriving DecidableEq

structure WebPushJob where
  tenantId : TenantId
  channelId : String
  payload : String
  subscriptions : List WebPushSubscription
  deriving DecidableEq

def PushSubscription.toWebPush (sub : PushSubscription) : WebPushSubscription :=
  ⟨sub.endpoint, sub.p256dhKey, sub.authKey⟩

/-- What the spawned lookup submits. -/
def WebPushLookup.job (lookup : WebPushLookup) (repo : PushSubscriptionRepository) : Option WebPushJob :=
  let subs := repo.findMatching lookup.tenantId lookup.channelId
  if subs = [] then none
  else some ⟨lookup.tenantId, lookup.channelId, lookup.payload, subs.map PushSubscription.toWebPush⟩

end RealtimePlatform.Backend
