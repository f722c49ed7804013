import RealtimePlatform.Backend.NotificationLog
import RealtimePlatform.Backend.Server

/-!
# The tasks that write the notifications

A publish spawns the insert of its notification. The tasks run later and in any order, and an insert can
fail.
-/

namespace RealtimePlatform.Backend
open Library

namespace NotificationRow

/-- What the row records of a publish. -/
def notification (row : NotificationRow) : Notification :=
  ⟨row.tenantId, row.channelId, row.payload, .fromStr row.delivery⟩

end NotificationRow

namespace NotificationRepository

def contents (repo : NotificationRepository) : List Notification := repo.rows.map NotificationRow.notification

/-- The column `delivery` is one of the two texts that `insert` writes. -/
def Labelled (repo : NotificationRepository) : Prop :=
  ∀ row ∈ repo.rows, row.delivery = row.notification.delivery.asStr

variable {repo : NotificationRepository} {tenantId : TenantId} {id : Uuid}

theorem contents_insert (fresh : id ∉ repo.ids) (n : Notification) (createdAt : Timestamp) :
    (repo.insert id n createdAt).contents = repo.contents ++ [n] := by
  rw [insert, if_neg fresh]
  simp [contents, NotificationRow.notification, NotificationDelivery.fromStr_asStr]

theorem contents_markRead (now : Timestamp) : (repo.markRead tenantId id now).contents = repo.contents := by
  rw [contents, markRead, List.map_map]
  apply List.map_congr_left
  intro row _
  simp only [Function.comp_apply]
  split <;> rfl

theorem contents_markAllRead (now : Timestamp) : (repo.markAllRead tenantId now).contents = repo.contents := by
  rw [contents, markAllRead, List.map_map]
  apply List.map_congr_left
  intro row _
  simp only [Function.comp_apply]
  split <;> rfl

theorem Labelled.insert (labelled : repo.Labelled) (id : Uuid) (n : Notification) (createdAt : Timestamp) :
    (repo.insert id n createdAt).Labelled := by
  unfold NotificationRepository.insert
  split
  · exact labelled
  · intro row member
    rcases List.mem_append.mp member with older | last
    · exact labelled row older
    · obtain rfl := List.mem_singleton.mp last
      exact congrArg NotificationDelivery.asStr (NotificationDelivery.fromStr_asStr n.delivery).symm

theorem Labelled.markRead (labelled : repo.Labelled) (tenantId : TenantId) (id : Uuid) (now : Timestamp) :
    (repo.markRead tenantId id now).Labelled := by
  intro row member
  obtain ⟨older, inside, rfl⟩ := List.mem_map.mp member
  have own := labelled older inside
  split <;> exact own

theorem Labelled.markAllRead (labelled : repo.Labelled) (tenantId : TenantId) (now : Timestamp) :
    (repo.markAllRead tenantId now).Labelled := by
  intro row member
  obtain ⟨older, inside, rfl⟩ := List.mem_map.mp member
  have own := labelled older inside
  split <;> exact own

theorem countByDelivery_eq (labelled : repo.Labelled) (tenantId : TenantId) : repo.countByDelivery tenantId =
    (repo.contents.countP fun n => n.tenantId = tenantId && n.delivery = .realtime,
      repo.contents.countP fun n => n.tenantId = tenantId && n.delivery = .push) := by
  have label : ∀ row ∈ repo.rows, ∀ delivery : NotificationDelivery,
      row.delivery = delivery.asStr ↔ row.notification.delivery = delivery := by
    intro row member delivery
    rw [labelled row member]
    constructor
    · intro same
      rw [← NotificationDelivery.fromStr_asStr row.notification.delivery, same, NotificationDelivery.fromStr_asStr]
    · exact congrArg _
  have counted : ∀ delivery : NotificationDelivery,
      (repo.rows.countP fun row => row.tenantId = tenantId && row.delivery = delivery.asStr) =
        repo.contents.countP fun n => n.tenantId = tenantId && n.delivery = delivery := by
    intro delivery
    rw [contents, List.countP_map]
    apply List.countP_congr
    intro row member
    simp only [Bool.and_eq_true, decide_eq_true_eq, Function.comp_apply, label row member delivery]
    rfl
  exact Prod.ext (counted .realtime) (counted .push)

end NotificationRepository

/-- An instance with the table of its portal; `spawned` are the inserts that have not run. -/
structure Portal where
  server : Server
  spawned : List Notification := []
  notifications : NotificationRepository := {}

inductive InstanceEvent where
  | at (e : Event)
  | insert (task : Nat) (id : Uuid) (createdAt : Timestamp)
  | insertFails (task : Nat)
  | markRead (tenantId : TenantId) (id : Uuid) (now : Timestamp)
  | markAllRead (tenantId : TenantId) (now : Timestamp)

def InstanceEvent.server? : InstanceEvent → Option Event
  | .at e => some e
  | _ => none

namespace Portal

/-- The inserts a step of the instance has spawned. -/
def spawnedBy (server server' : Server) : List Notification :=
  server'.ctx.pushFallback.notifications.drop server.ctx.pushFallback.notifications.length

def step (env : Env) : Step Portal InstanceEvent := fun portal e => match e with
  | .at e => (Server.step env portal.server e).map fun server =>
    { portal with server := server, spawned := portal.spawned ++ spawnedBy portal.server server }
  | .insert task id createdAt => portal.spawned[task]?.map fun n =>
    { portal with
      spawned := portal.spawned.eraseIdx task
      notifications := portal.notifications.insert id n createdAt }
  | .insertFails task => portal.spawned[task]?.map fun _ => { portal with spawned := portal.spawned.eraseIdx task }
  | .markRead tenantId id now =>
    some { portal with notifications := portal.notifications.markRead tenantId id now }
  | .markAllRead tenantId now =>
    some { portal with notifications := portal.notifications.markAllRead tenantId now }

/-- A task whose insert fails: the database refuses it, or the drawn id is in the table. -/
def failure (portal : Portal) : InstanceEvent → Option Notification
  | .insert task id _ => if portal.notifications.ids.contains id then portal.spawned[task]? else none
  | .insertFails task => portal.spawned[task]?
  | _ => none

/-- `log` is in the table, waits in a task or has failed, each publish once. -/
structure Keeps (log failed : List Notification) (portal : Portal) : Prop where
  each : (portal.notifications.contents ++ portal.spawned ++ failed).Perm log
  labelled : portal.notifications.Labelled

variable {env : Env} {portal portal' : Portal} {log failed : List Notification}

theorem perm_eraseIdx {spawned : List Notification} {task : Nat} {n : Notification}
    (found : spawned[task]? = some n) : (n :: spawned.eraseIdx task).Perm spawned := by
  obtain ⟨bound, rfl⟩ := List.getElem?_eq_some_iff.mp found
  exact List.getElem_cons_eraseIdx_perm bound

theorem Keeps.written (keeps : Keeps log failed portal) {task : Nat} {n : Notification} {repo : NotificationRepository}
    (found : portal.spawned[task]? = some n) (contents : repo.contents = portal.notifications.contents ++ [n]) :
    (repo.contents ++ portal.spawned.eraseIdx task ++ failed).Perm log := by
  rw [contents, List.append_assoc portal.notifications.contents]
  exact (((perm_eraseIdx found).append_left _).append_right _).trans keeps.each

theorem Keeps.lost (keeps : Keeps log failed portal) {task : Nat} {n : Notification}
    (found : portal.spawned[task]? = some n) :
    (portal.notifications.contents ++ portal.spawned.eraseIdx task ++ (failed ++ [n])).Perm log := by
  refine List.Perm.trans ?_ keeps.each
  have moved : (portal.spawned.eraseIdx task ++ (failed ++ [n])).Perm (portal.spawned ++ failed) :=
    calc List.Perm _ (portal.spawned.eraseIdx task ++ failed ++ [n]) := by rw [List.append_assoc]
      List.Perm _ (n :: (portal.spawned.eraseIdx task ++ failed)) := List.perm_append_singleton _ _
      List.Perm _ (portal.spawned ++ failed) := (perm_eraseIdx found).append_right failed
  rw [List.append_assoc, List.append_assoc]
  exact moved.append_left _

theorem keeps_step {e : InstanceEvent} (keeps : Keeps log failed portal) (taken : step env portal e = some portal') :
    Keeps (log ++ (e.server?.elim [] fun _ => spawnedBy portal.server portal'.server))
      (failed ++ (failure portal e).toList) portal' := by
  cases e with
  | «at» e =>
      obtain ⟨server, stepped, rfl⟩ := Option.map_eq_some_iff.mp taken
      refine ⟨?_, keeps.labelled⟩
      show (portal.notifications.contents ++ (portal.spawned ++ spawnedBy portal.server server) ++ (failed ++ [])).Perm
        (log ++ spawnedBy portal.server server)
      rw [List.append_nil]
      have moved : (spawnedBy portal.server server ++ failed).Perm (failed ++ spawnedBy portal.server server) :=
        List.perm_append_comm
      have last := moved.append_left (portal.notifications.contents ++ portal.spawned)
      simp only [← List.append_assoc] at last ⊢
      exact last.trans (keeps.each.append_right _)
  | insert task id createdAt =>
      obtain ⟨n, found, rfl⟩ := Option.map_eq_some_iff.mp taken
      refine ⟨?_, keeps.labelled.insert id n createdAt⟩
      simp only [InstanceEvent.server?, Option.elim_none, List.append_nil]
      by_cases stored : id ∈ portal.notifications.ids
      · have same : portal.notifications.insert id n createdAt = portal.notifications := if_pos stored
        have fails : portal.failure (.insert task id createdAt) = some n :=
          (if_pos (List.contains_iff_mem.mpr stored)).trans found
        rw [fails, same]
        exact keeps.lost found
      · have succeeds : portal.failure (.insert task id createdAt) = none :=
          if_neg (mt List.contains_iff_mem.mp stored)
        rw [succeeds, Option.toList_none, List.append_nil]
        exact keeps.written found (NotificationRepository.contents_insert stored n createdAt)
  | insertFails task =>
      obtain ⟨n, found, rfl⟩ := Option.map_eq_some_iff.mp taken
      refine ⟨?_, keeps.labelled⟩
      simp only [InstanceEvent.server?, Option.elim_none, List.append_nil]
      rw [show portal.failure (.insertFails task) = some n from found]
      exact keeps.lost found
  | markRead tenantId id now =>
      cases taken
      refine ⟨?_, keeps.labelled.markRead tenantId id now⟩
      rw [NotificationRepository.contents_markRead]
      simpa [InstanceEvent.server?, failure] using keeps.each
  | markAllRead tenantId now =>
      cases taken
      refine ⟨?_, keeps.labelled.markAllRead tenantId now⟩
      rw [NotificationRepository.contents_markAllRead]
      simpa [InstanceEvent.server?, failure] using keeps.each

theorem step_at {e : Event} {server server' : Server} {spawned new : List Notification}
    (stepped : Server.step env server e = some server') (spawns : spawnedBy server server' = new)
    (repo : NotificationRepository) :
    step env ⟨server, spawned, repo⟩ (.at e) = some ⟨server', spawned ++ new, repo⟩ := by
  show Option.map _ _ = _
  rw [stepped, Option.map_some, spawns]

theorem server_of_step {e : InstanceEvent} (taken : step env portal e = some portal') :
    e.server?.elim (portal'.server = portal.server) fun d => Server.step env portal.server d = some portal'.server := by
  cases e with
  | «at» e =>
      obtain ⟨server, stepped, rfl⟩ := Option.map_eq_some_iff.mp taken
      exact stepped
  | insert | insertFails =>
      obtain ⟨_, _, rfl⟩ := Option.map_eq_some_iff.mp taken
      rfl
  | markRead | markAllRead =>
      cases taken
      rfl

theorem run_server {es : List InstanceEvent} (reached : (step env).run portal es = some portal') :
    (Server.step env).run portal.server (es.filterMap InstanceEvent.server?) = some portal'.server := by
  refine Step.run_induction (fun es (now : Portal) =>
    (Server.step env).run portal.server (es.filterMap InstanceEvent.server?) = some now.server) rfl ?_ reached
  intro es before e after _ ran taken
  have moved := server_of_step taken
  rw [List.filterMap_append]
  cases seen : e.server? with
  | none =>
      rw [seen] at moved
      simpa [seen, show after.server = before.server from moved] using ran
  | some d =>
      rw [seen] at moved
      simpa [seen] using Step.run_concat_iff.mpr ⟨_, ran, moved⟩

end Portal

end RealtimePlatform.Backend
