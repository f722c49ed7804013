import RealtimePlatform.Backend.NotificationTasks
import RealtimePlatform.Backend.PushSide
import RealtimePlatform.Proof.ClusterRouting

namespace RealtimePlatform.Proof.PushAccounts
open Library Backend Backend.Server Backend.UseCases

open Classical in
noncomputable def notice (env : Env) (server : Server) (e : Event) : Option Notification :=
  (clientPublish env server e).map fun pair =>
    { tenantId := pair.2.tenantId
      channelId := pair.2.channelId
      payload := pair.1.payload
      delivery := if HasReceiver server.ctx.channelRouter pair.2 then .realtime else .push }

noncomputable def notices (env : Env) (first : Server) (es : List Event) : List Notification :=
  Step.observed (step env) (notice env) first es

/-- The push side holds what follows from the log; `notifications` are the inserts that were spawned. -/
structure Accounts (hasWebPush : Bool) (log : List Notification) (side : PushSide) : Prop where
  notifications : side.service.notifications = log
  push : side.service.push = (log.filter Notification.pushed).map Notification.job
  webPush : side.service.webPush =
    if hasWebPush then some ((log.filter Notification.pushed).map Notification.lookup) else none
  total : ∀ tenantId, side.total tenantId = log.countP (Notification.countsFor tenantId)

section
variable {env : Env} {server server' : Server} {e : Event} {hasWebPush : Bool} {log : List Notification}

theorem notice_eq (env : Env) (server : Server) (e : Event) : notice env server e =
    (clientPublish env server e).map fun pair => server.ctx.notificationOf pair.1 pair.2 := by
  unfold notice RealtimeContext.notificationOf RealtimeContext.deliveryOf
  congr 1
  funext pair
  by_cases heard : HasReceiver server.ctx.channelRouter pair.2
  · have some : ¬ server.ctx.channelRouter.delivered pair.2 = 0 :=
      fun none => (delivered_eq_zero_iff _ _).mp none heard
    simp [heard, some]
  · simp [heard, (delivered_eq_zero_iff _ _).mpr heard]

theorem Accounts.accept {side : PushSide} (accounts : Accounts hasWebPush log side) (raw : RawFrame)
    (n : Notification) : Accounts hasWebPush (log ++ [n]) (side.accept raw n) := by
  obtain ⟨notifications, push, webPush, total⟩ := accounts
  constructor
  · simp [PushSide.accept, notifications]
  · simp [PushSide.accept, push]
  · cases hasWebPush <;> simp_all [PushSide.accept]
  · intro tenantId
    simp [PushSide.accept, total]

theorem Accounts.sent {side : PushSide} (accounts : Accounts hasWebPush log side)
    (cluster : Option (List RawFrame)) :
    Accounts hasWebPush log { side with service := { side.service with cluster := cluster } } :=
  ⟨accounts.notifications, accounts.push, accounts.webPush, accounts.total⟩

theorem accounts_step (accounts : Accounts hasWebPush log server.ctx.pushSide)
    (taken : step env server e = some server') :
    Accounts hasWebPush (log ++ (notice env server e).toList) server'.ctx.pushSide := by
  by_cases sends : e = .clusterSend
  · subst sends
    cases step_cases taken with
    | sent =>
        show Accounts hasWebPush (log ++ []) _
        rw [List.append_nil]
        exact accounts.sent _
  · rw [step_pushSide taken sends, notice_eq]
    cases clientPublish env server e with
    | none => simpa using accounts
    | some pair => exact accounts.accept pair.1.raw _

theorem spawnedBy_eq (accounts : Accounts hasWebPush log server.ctx.pushSide) (taken : step env server e = some server') :
    Portal.spawnedBy server server' = (notice env server e).toList := by
  have before : server.ctx.pushFallback.notifications = log := accounts.notifications
  have after : server'.ctx.pushFallback.notifications = log ++ (notice env server e).toList :=
    (accounts_step accounts taken).notifications
  rw [Portal.spawnedBy, before, after, List.drop_left]

end

theorem accounts_start (config : RateLimitConfig) (timeout : Nat) (hasRedis hasWebPush : Bool) :
    Accounts hasWebPush [] (start config timeout hasRedis hasWebPush).ctx.pushSide := by
  constructor
  · rfl
  · rfl
  · cases hasWebPush <;> rfl
  · intro tenantId
    rfl

def failures (env : Env) (first : Server) (es : List InstanceEvent) : List Notification :=
  (Portal.step env).observed Portal.failure { server := first } es

section
variable {env : Env} {config : RateLimitConfig} {timeout : Nat} {hasRedis hasWebPush : Bool} {portal : Portal}
  {es : List InstanceEvent}

/-- The push side is what the notices say, and each of them is stored, waits in its task or has failed. -/
structure Settled (env : Env) (hasWebPush : Bool) (first : Server) (es : List InstanceEvent) (portal : Portal) :
    Prop where
  accounts : Accounts hasWebPush (notices env first (es.filterMap InstanceEvent.server?)) portal.server.ctx.pushSide
  keeps : portal.Keeps (notices env first (es.filterMap InstanceEvent.server?)) (failures env first es)

theorem settled_run
    (reached : (Portal.step env).run { server := start config timeout hasRedis hasWebPush } es = some portal) :
    Settled env hasWebPush (start config timeout hasRedis hasWebPush) es portal := by
  refine Step.run_induction (fun es (portal : Portal) =>
    Settled env hasWebPush (start config timeout hasRedis hasWebPush) es portal) ?_ ?_ reached
  · exact ⟨accounts_start config timeout hasRedis hasWebPush, List.Perm.nil, nofun⟩
  · intro es before e after passed settled taken
    have ran := Portal.run_server passed
    have kept := Portal.keeps_step settled.keeps taken
    have moved := Portal.server_of_step taken
    have failed : failures env (start config timeout hasRedis hasWebPush) (es ++ [e]) = _ :=
      Step.observed_concat Portal.failure e passed
    constructor
    · rw [List.filterMap_append]
      cases seen : e.server? with
      | none =>
          rw [seen] at moved
          simpa [seen, show after.server = before.server from moved] using settled.accounts
      | some d =>
          rw [seen] at moved
          have last := accounts_step settled.accounts moved
          rw [notices, ← Step.observed_concat (notice env) d ran] at last
          simpa [seen, notices] using last
    · rw [failed, List.filterMap_append]
      cases seen : e.server? with
      | none => simpa [seen, failures] using kept
      | some d =>
          rw [seen] at moved kept
          rw [Option.elim_some, spawnedBy_eq settled.accounts moved, notices,
            ← Step.observed_concat (notice env) d ran] at kept
          simpa [seen, notices, failures] using kept

/-- In every run the inserts spawned are what clients have published, each as it was delivered, the push
side is what they say, and the table holds those that have neither yet to run nor failed. -/
theorem push_side_accounts
    (reached : (Portal.step env).run { server := start config timeout hasRedis hasWebPush } es = some portal) :
    Accounts hasWebPush (notices env (start config timeout hasRedis hasWebPush) (es.filterMap InstanceEvent.server?))
      portal.server.ctx.pushSide ∧
    (portal.notifications.contents ++ portal.spawned ++
      failures env (start config timeout hasRedis hasWebPush) es).Perm
        (notices env (start config timeout hasRedis hasWebPush) (es.filterMap InstanceEvent.server?)) :=
  ⟨(settled_run reached).accounts, (settled_run reached).keeps.each⟩

end

section Sample
open SampleToken Sample ClusterRouting

def morning : Timestamp :=
  ⟨2031, 3, 19, 8, 44, 29, 123, by decide, by decide, by decide, by decide, by decide, by decide, by decide⟩

def greeted (server : Server) : Server := server.setCtx (httpStep env greeting epoch server.ctx)

theorem step_greeting (server : Server) : step env server (.http greeting epoch) = some (greeted server) := rfl

theorem clientPublish_greeted : clientPublish env (greeted (started false)) (.http greeting epoch) =
    some (greetingParsed, ⟨tenantOne, "room"⟩) := by
  have passed : (greeted (started false)).ctx = _ := httpStep_published clientPublish_greeting
  have text : publishedText env greeting epoch (greeted (started false)).ctx = some "hi" := by
    rw [passed, publishedText, RealtimeContext.auth_publishAndFanout, RealtimeContext.rateLimiter_publishAndFanout]
    decide +kernel
  exact clientPublish_of_http text (FrameBuilder.parse_build _ _)

theorem spawned_greeted {server : Server} {log : List Notification} (accounts : Accounts false log server.ctx.pushSide)
    (published : clientPublish env server (.http greeting epoch) = some (greetingParsed, ⟨tenantOne, "room"⟩)) :
    Portal.spawnedBy server (greeted server) = [server.ctx.notificationOf greetingParsed ⟨tenantOne, "room"⟩] := by
  rw [spawnedBy_eq accounts (step_greeting server), notice_eq, published]
  rfl

/-- Two publishes; the insert of the second fails before that of the first is written. -/
def greetings : List InstanceEvent :=
  [.at (.http greeting epoch), .at (.http greeting epoch), .insertFails 1, .insert 0 sessionOne morning]

theorem writes_first (server : Server) (n m : Notification) :
    (Portal.step env).run { server := server, spawned := [] ++ [n] ++ [m] }
      [.insertFails 1, .insert 0 sessionOne morning] =
        some { server := server, notifications := NotificationRepository.insert sessionOne n morning {} } := rfl

theorem run_greetings : (Portal.step env).run { server := started false } greetings = some {
    server := greeted (greeted (started false))
    notifications := NotificationRepository.insert sessionOne
      ((started false).ctx.notificationOf greetingParsed ⟨tenantOne, "room"⟩) morning {} } := by
  have fresh : Accounts false [] (started false).ctx.pushSide := accounts_start _ _ _ _
  have first := spawned_greeted fresh clientPublish_greeting
  have second := spawned_greeted (accounts_step fresh (step_greeting _)) clientPublish_greeted
  refine Step.run_cons_iff.mpr ⟨_, Portal.step_at (step_greeting _) first {}, ?_⟩
  exact Step.run_cons_iff.mpr ⟨_, Portal.step_at (step_greeting _) second {}, writes_first _ _ _⟩

theorem push_side_accounts_greetings : ∃ portal : Portal,
    (Portal.step env).run { server := started false } greetings = some portal ∧
      portal.notifications.contents.length = 1 ∧
      Accounts false (notices env (started false) (greetings.filterMap InstanceEvent.server?))
        portal.server.ctx.pushSide ∧
      (portal.notifications.contents ++ portal.spawned ++ failures env (started false) greetings).Perm
        (notices env (started false) (greetings.filterMap InstanceEvent.server?)) := by
  have stored : (NotificationRepository.insert sessionOne
      ((started false).ctx.notificationOf greetingParsed ⟨tenantOne, "room"⟩) morning {}).contents = [] ++ [_] :=
    NotificationRepository.contents_insert List.not_mem_nil _ _
  exact ⟨_, run_greetings, congrArg List.length stored, push_side_accounts run_greetings⟩

end Sample

end RealtimePlatform.Proof.PushAccounts
