import RealtimePlatform.Backend.NotificationLog

namespace RealtimePlatform.Proof.NotificationBell
open Library Backend NotificationRepository

def applyAll (events : List NotificationEvent) : NotificationRepository := events.foldl NotificationEvent.apply {}

def reading (row : NotificationRow) : NotificationEvent → Option Timestamp
  | .inserted .. => none
  | .markedRead tenantId id now => if id = row.id ∧ tenantId = row.tenantId then some now else none
  | .markedAllRead tenantId now => if tenantId = row.tenantId then some now else none

def settle (later : List NotificationEvent) (row : NotificationRow) : NotificationRow :=
  { row with readAt := row.readAt <|> later.findSome? (reading row) }

/-- The tenant's messages in the order of their statements, with what happened to each afterwards. -/
def history (tenantId : TenantId) : List NotificationEvent → List NotificationRow
  | [] => []
  | .inserted id n createdAt :: later =>
    if n.tenantId = tenantId then
      settle later ⟨id, n.tenantId, n.channelId, n.payload, n.delivery.asStr, createdAt, none⟩ ::
        history tenantId later
    else history tenantId later
  | _ :: later => history tenantId later

def insertedId : NotificationEvent → Option Uuid
  | .inserted id _ _ => some id
  | _ => none

def notification : NotificationEvent → Option Notification
  | .inserted _ n _ => some n
  | _ => none

/-- The bell and the counts of a tenant, read after all statements. -/
structure Shows (tenantId : TenantId) (events : List NotificationEvent) : Prop where
  feed : ∃ order : List NotificationRow, order.Perm (history tenantId events) ∧
    order.Pairwise (fun row next => next.createdAt.fields ≤ row.createdAt.fields) ∧
    (listNotifications tenantId (applyAll events)).items = (order.take feedLimit).map NotificationRow.toResponse
  unread : (listNotifications tenantId (applyAll events)).unreadCount =
    (history tenantId events).countP fun row => row.readAt.isNone
  realtime : ((applyAll events).countByDelivery tenantId).1 =
    (events.filterMap notification).countP fun n => n.tenantId = tenantId && n.delivery = .realtime
  push : ((applyAll events).countByDelivery tenantId).2 =
    (events.filterMap notification).countP fun n => n.tenantId = tenantId && n.delivery = .push
  isolated : listNotifications tenantId (applyAll events) =
    listNotifications tenantId (applyAll (events.filter fun event => event.tenantId = tenantId))

variable {tenantId : TenantId} {event : NotificationEvent} {events later : List NotificationEvent}
  {row : NotificationRow} {repo : NotificationRepository}

theorem settle_nil : settle [] = id := by
  funext row
  obtain ⟨id, tenantId, channelId, payload, delivery, createdAt, readAt⟩ := row
  cases readAt <;> rfl

@[simp] theorem settle_tenantId : (settle later row).tenantId = row.tenantId := rfl

theorem settle_cons : settle (event :: later) row = settle later (settle [event] row) := by
  have same : ∀ readAt : Option Timestamp, reading { row with readAt := readAt } = reading row := by
    intro readAt
    funext event
    cases event <;> rfl
  unfold settle
  rw [same, List.findSome?_cons, List.findSome?_cons, List.findSome?_nil]
  cases row.readAt with
  | some _ => rfl
  | none => cases reading row event <;> rfl

theorem markRead_eq (id : Uuid) (now : Timestamp) :
    repo.markRead tenantId id now = ⟨repo.rows.map (settle [.markedRead tenantId id now])⟩ := by
  unfold markRead
  congr 1
  apply List.map_congr_left
  intro row _
  obtain ⟨rowId, rowTenant, channelId, payload, delivery, createdAt, readAt⟩ := row
  by_cases hit : id = rowId ∧ tenantId = rowTenant
  · obtain ⟨rfl, rfl⟩ := hit
    cases readAt <;> simp [settle, reading]
  · have missed : ¬ (rowId = id ∧ rowTenant = tenantId) := fun h => hit ⟨h.1.symm, h.2.symm⟩
    cases readAt <;> simp [settle, reading, hit, missed]

theorem markAllRead_eq (now : Timestamp) :
    repo.markAllRead tenantId now = ⟨repo.rows.map (settle [.markedAllRead tenantId now])⟩ := by
  unfold markAllRead
  congr 1
  apply List.map_congr_left
  intro row _
  obtain ⟨rowId, rowTenant, channelId, payload, delivery, createdAt, readAt⟩ := row
  by_cases hit : rowTenant = tenantId
  · subst hit
    cases readAt <;> simp [settle, reading]
  · have missed : tenantId ≠ rowTenant := fun h => hit h.symm
    cases readAt <;> simp [settle, reading, hit, missed]

theorem rowsOf_map_settle : (NotificationRepository.mk (repo.rows.map (settle later))).rowsOf tenantId =
    (repo.rowsOf tenantId).map (settle later) := by
  unfold rowsOf
  rw [List.filter_map]
  rfl

theorem ids_map_settle : (NotificationRepository.mk (repo.rows.map (settle later))).ids = repo.ids := by
  unfold ids
  rw [List.map_map]
  rfl

theorem rowsOf_marked (event : NotificationEvent) (marks : event.apply repo = ⟨repo.rows.map (settle [event])⟩)
    (ih : (later.foldl NotificationEvent.apply (event.apply repo)).rowsOf tenantId =
      ((event.apply repo).rowsOf tenantId).map (settle later) ++ history tenantId later) :
    ((event :: later).foldl NotificationEvent.apply repo).rowsOf tenantId =
      (repo.rowsOf tenantId).map (settle (event :: later)) ++ history tenantId later := by
  rw [List.foldl_cons, ih, marks, rowsOf_map_settle, List.map_map]
  congr 1
  apply List.map_congr_left
  intro row _
  exact settle_cons.symm

theorem rowsOf_foldl (distinct : (repo.ids ++ events.filterMap insertedId).Nodup) :
    (events.foldl NotificationEvent.apply repo).rowsOf tenantId =
      (repo.rowsOf tenantId).map (settle events) ++ history tenantId events := by
  induction events generalizing repo with
  | nil => simp [history, settle_nil]
  | cons event later ih =>
      cases event with
      | inserted id n createdAt =>
          have fresh : id ∉ repo.ids := by
            intro stored
            rw [List.nodup_append] at distinct
            exact distinct.2.2 id stored id (by simp [insertedId]) rfl
          have skip : ∀ row, settle (.inserted id n createdAt :: later) row = settle later row := by
            intro row
            simp [settle, reading, List.findSome?_cons]
          rw [List.foldl_cons, NotificationEvent.apply, NotificationRepository.insert, if_neg fresh, ih]
          · by_cases own : n.tenantId = tenantId
            · simp [rowsOf, history, own, skip]
            · simp [rowsOf, history, own, skip]
          · simpa [ids, insertedId] using distinct
      | markedRead tenant id now =>
          apply rowsOf_marked (.markedRead tenant id now) (markRead_eq id now)
          apply ih
          rw [NotificationEvent.apply, markRead_eq, ids_map_settle]
          exact distinct
      | markedAllRead tenant now =>
          apply rowsOf_marked (.markedAllRead tenant now) (markAllRead_eq now)
          apply ih
          rw [NotificationEvent.apply, markAllRead_eq, ids_map_settle]
          exact distinct

theorem rowsOf_applyAll (distinct : (events.filterMap insertedId).Nodup) :
    (applyAll events).rowsOf tenantId = history tenantId events := by
  rw [applyAll, rowsOf_foldl (by simpa [ids] using distinct)]
  rfl

theorem settle_own (row : NotificationRow) :
    settle (events.filter fun event => event.tenantId = row.tenantId) row = settle events row := by
  induction events generalizing row with
  | nil => rfl
  | cons event later ih =>
      by_cases own : event.tenantId = row.tenantId
      · rw [List.filter_cons_of_pos (by simpa using own), settle_cons]
        exact (ih (settle [event] row)).trans settle_cons.symm
      · rw [List.filter_cons_of_neg (by simpa using own), ih]
        have silent : reading row event = none := by
          cases event with
          | inserted => rfl
          | markedRead tenant id now => exact if_neg fun h => own h.2
          | markedAllRead tenant now => exact if_neg own
        simp [settle, silent]

theorem history_own : history tenantId (events.filter fun event => event.tenantId = tenantId) =
    history tenantId events := by
  induction events with
  | nil => rfl
  | cons event later ih =>
      by_cases own : event.tenantId = tenantId
      · rw [List.filter_cons_of_pos (by simpa using own)]
        cases event with
        | inserted id n createdAt =>
            have tenant : n.tenantId = tenantId := own
            subst tenant
            simp only [history, if_true, ih]
            congr 1
            exact settle_own ⟨id, n.tenantId, n.channelId, n.payload, n.delivery.asStr, createdAt, none⟩
        | markedRead => exact ih
        | markedAllRead => exact ih
      · rw [List.filter_cons_of_neg (by simpa using own), ih]
        cases event with
        | inserted id n createdAt => exact (if_neg own).symm
        | markedRead => rfl
        | markedAllRead => rfl

theorem countP_rows (p : NotificationRow → Bool) :
    (repo.rows.countP fun row => row.tenantId = tenantId && p row) = (repo.rowsOf tenantId).countP p := by
  unfold rowsOf
  rw [List.countP_filter]
  apply List.countP_congr
  intro row _
  simp [and_comm]

theorem listNotifications_congr {other : NotificationRepository} (same : repo.rowsOf tenantId = other.rowsOf tenantId) :
    listNotifications tenantId repo = listNotifications tenantId other := by
  simp only [listNotifications, listForTenant, unreadCount, countP_rows, same]

theorem asStr_eq_iff (delivery other : NotificationDelivery) : delivery.asStr = other.asStr ↔ delivery = other := by
  constructor
  · intro same
    rw [← NotificationDelivery.fromStr_asStr delivery, same, NotificationDelivery.fromStr_asStr]
  · exact congrArg _

theorem countP_history (delivery : NotificationDelivery) :
    ((history tenantId events).countP fun row => row.delivery = delivery.asStr) =
      (events.filterMap notification).countP fun n => n.tenantId = tenantId && n.delivery = delivery := by
  induction events with
  | nil => rfl
  | cons event later ih =>
      cases event with
      | inserted id n createdAt =>
          by_cases own : n.tenantId = tenantId
          · simp [history, notification, own, List.countP_cons, settle, ih, asStr_eq_iff]
          · simp [history, notification, own, ih]
      | markedRead => exact ih
      | markedAllRead => exact ih

theorem laterFirst_iff (row other : NotificationRow) :
    laterFirst row other = true ↔ other.createdAt.fields ≤ row.createdAt.fields := by
  rw [laterFirst, Bool.not_eq_true', decide_eq_false_iff_not, Timestamp.toRfc3339_lt_iff, not_lt]

theorem pairwise_sorted (rows : List NotificationRow) :
    (rows.mergeSort laterFirst).Pairwise fun row next => next.createdAt.fields ≤ row.createdAt.fields := by
  have sorted : (rows.mergeSort laterFirst).Pairwise fun row next => laterFirst row next = true := by
    apply List.pairwise_mergeSort
    · intro row next last first second
      rw [laterFirst_iff] at first second ⊢
      exact second.trans first
    · intro row next
      rw [Bool.or_eq_true, laterFirst_iff, laterFirst_iff]
      exact le_total _ _
  exact sorted.imp fun h => (laterFirst_iff _ _).mp h

theorem bell_shows (distinct : (events.filterMap insertedId).Nodup) (tenantId : TenantId) :
    Shows tenantId events := by
  have rows : (applyAll events).rowsOf tenantId = history tenantId events := rowsOf_applyAll distinct
  constructor
  · refine ⟨((applyAll events).rowsOf tenantId).mergeSort laterFirst, ?_, pairwise_sorted _, rfl⟩
    rw [rows]
    exact List.mergeSort_perm _ _
  · rw [← rows]
    exact countP_rows _
  · rw [← countP_history .realtime, ← rows]
    exact countP_rows _
  · rw [← countP_history .push, ← rows]
    exact countP_rows _
  · apply listNotifications_congr
    rw [rows, rowsOf_applyAll, history_own]
    exact distinct.sublist (List.Sublist.filterMap _ List.filter_sublist)

namespace Sample

def noon : Timestamp :=
  ⟨2024, 5, 1, 12, 0, 0, 0, by decide, by decide, by decide, by decide, by decide, by decide, by decide⟩

def teatime : Timestamp :=
  ⟨2024, 5, 1, 17, 0, 0, 0, by decide, by decide, by decide, by decide, by decide, by decide, by decide⟩

def evening : Timestamp :=
  ⟨2024, 5, 1, 20, 30, 0, 0, by decide, by decide, by decide, by decide, by decide, by decide, by decide⟩

def shop : TenantId := List.Vector.replicate 16 1

def neighbour : TenantId := List.Vector.replicate 16 2

def greeting : Notification := ⟨shop, "orders:1", "first", .realtime⟩

def day : List NotificationEvent := [
  .inserted (List.Vector.replicate 16 3) greeting noon,
  .inserted (List.Vector.replicate 16 4) { greeting with delivery := .push } teatime,
  .markedRead neighbour (List.Vector.replicate 16 3) teatime,
  .markedRead shop (List.Vector.replicate 16 4) evening]

end Sample

theorem bell_shows_day : (Sample.day.filterMap insertedId).Nodup ∧ Shows Sample.shop Sample.day := by
  have distinct : (Sample.day.filterMap insertedId).Nodup := by decide
  exact ⟨distinct, bell_shows distinct Sample.shop⟩

end RealtimePlatform.Proof.NotificationBell
