import RealtimePlatform.Backend.PresenceTasks
import RealtimePlatform.Proof.PresenceChannels
import Mathlib.Data.List.Count

namespace RealtimePlatform.Proof.Departures
open Library Backend PresenceTasks SampleToken Sample
open PresenceChannels (eventFrame)

theorem count_notices (r : Removal) (channelId : String) :
    r.notices.count ⟨r, channelId⟩ = r.entry.channels.count channelId := by
  have injective : Function.Injective (Notice.mk r) := fun _ _ same => (Notice.mk.inj same).2
  exact List.count_map_of_injective r.entry.channels (Notice.mk r) injective channelId

theorem removal_of_mem_notices {r : Removal} {notice : Notice} (member : notice ∈ r.notices) : notice.removal = r := by
  obtain ⟨channelId, _, rfl⟩ := List.mem_map.mp member
  rfl

theorem count_notices_of_notMem {removals : List Removal} {r : Removal} (absent : r ∉ removals) (channelId : String) :
    (removals.flatMap (·.notices)).count ⟨r, channelId⟩ = 0 := by
  apply List.count_eq_zero.mpr
  intro member
  obtain ⟨q, taken, listed⟩ := List.mem_flatMap.mp member
  have same : r = q := removal_of_mem_notices listed
  exact absent (same ▸ taken)

theorem count_owed {removals : List Removal} {r : Removal} (nodup : removals.Nodup) (member : r ∈ removals)
    (channelId : String) :
    (removals.flatMap (·.notices)).count ⟨r, channelId⟩ = r.entry.channels.count channelId := by
  induction removals with
  | nil => cases member
  | cons q removals ih =>
      obtain ⟨fresh, rest⟩ := List.nodup_cons.mp nodup
      rw [List.flatMap_cons, List.count_append]
      rcases List.mem_cons.mp member with rfl | later
      · rw [count_notices, count_notices_of_notMem fresh, Nat.add_zero]
      · have other : q.notices.count ⟨r, channelId⟩ = 0 := by
          apply List.count_eq_zero.mpr
          intro listed
          have same : r = q := removal_of_mem_notices listed
          exact fresh (same ▸ later)
        rw [other, Nat.zero_add, ih rest later]

theorem flatten_set {tasks : List (List Notice)} {i : Nat} {notice : Notice} {rest : List Notice}
    (there : tasks[i]? = some (notice :: rest)) : (notice :: (tasks.set i rest).flatten).Perm tasks.flatten := by
  induction tasks generalizing i with
  | nil => cases there
  | cons task tasks ih =>
      cases i with
      | zero =>
          obtain rfl := Option.some.inj there
          exact List.Perm.refl _
      | succ i =>
          have later := ih there
          exact (List.perm_middle.symm).trans (later.append_left task)

structure Sound (t : PresenceTasks) : Prop where
  numbered : ∀ s entry, t.entryOf s = some entry →
    t.registered[t.serials s]? = some (entry.tenantId, s, entry.sub) ∧ entry.sessionId = s
  gone : ∀ r ∈ t.removals, t.registered[r.serial]? = some (r.entry.tenantId, r.session, r.entry.sub) ∧
    r.entry.sessionId = r.session ∧ ∀ entry, t.entryOf r.session = some entry → t.serials r.session ≠ r.serial
  once : (t.removals.map (·.serial)).Nodup
  owed : (t.announced ++ t.pending).Perm (t.removals.flatMap (·.notices))

section
variable {t t' : PresenceTasks} {s : SessionId} {entry : PresenceEntry} {remover : Remover}

theorem Sound.keep (sound : Sound t) (entries : ∀ q entry', t'.entryOf q = some entry' → ∃ entry,
      t.entryOf q = some entry ∧ entry.tenantId = entry'.tenantId ∧ entry.sub = entry'.sub ∧
        entry.sessionId = entry'.sessionId)
    (registered : t'.registered = t.registered) (serials : t'.serials = t.serials)
    (removals : t'.removals = t.removals)
    (owed : (t'.announced ++ t'.pending).Perm (t.announced ++ t.pending)) : Sound t' := by
  refine ⟨fun q entry' found => ?_, fun r taken => ?_, ?_, ?_⟩
  · obtain ⟨entry, before, tenant, sub, session⟩ := entries q entry' found
    rw [registered, serials, ← tenant, ← sub, ← session]
    exact sound.numbered q entry before
  · rw [removals] at taken
    refine ⟨registered ▸ (sound.gone r taken).1, (sound.gone r taken).2.1, fun entry' found => ?_⟩
    obtain ⟨entry, before, _⟩ := entries r.session entry' found
    rw [serials]
    exact (sound.gone r taken).2.2 entry before
  · exact removals ▸ sound.once
  · exact removals ▸ owed.trans sound.owed

theorem Sound.adjust (sound : Sound t) {f : PresenceEntry → PresenceEntry}
    (sessions : t'.ctx.presence.sessions = Table.adjust s f t.ctx.presence.sessions)
    (kept : ∀ entry, (f entry).tenantId = entry.tenantId ∧ (f entry).sub = entry.sub ∧
      (f entry).sessionId = entry.sessionId)
    (registered : t'.registered = t.registered) (serials : t'.serials = t.serials)
    (removals : t'.removals = t.removals) (announced : t'.announced = t.announced)
    (pending : t'.pending = t.pending) : Sound t' := by
  refine sound.keep (fun q entry' found => ?_) registered serials removals (by rw [announced, pending])
  unfold entryOf at found ⊢
  rw [sessions] at found
  by_cases own : q = s
  · subst own
    rw [Table.lookup_adjust] at found
    obtain ⟨entry, before, rfl⟩ := Option.map_eq_some_iff.mp found
    exact ⟨entry, before, (kept entry).1.symm, (kept entry).2.1.symm, (kept entry).2.2.symm⟩
  · rw [Table.lookup_adjust_ne _ _ own] at found
    exact ⟨entry', found, rfl, rfl, rfl⟩

theorem Sound.same (sound : Sound t) (sessions : t'.ctx.presence.sessions = t.ctx.presence.sessions)
    (registered : t'.registered = t.registered) (serials : t'.serials = t.serials)
    (removals : t'.removals = t.removals)
    (owed : (t'.announced ++ t'.pending).Perm (t.announced ++ t.pending)) : Sound t' := by
  refine sound.keep (fun q entry' found => ⟨entry', ?_, rfl, rfl, rfl⟩) registered serials removals owed
  unfold entryOf at found ⊢
  rwa [sessions] at found

theorem sound_register (sound : Sound t) (tenantId : TenantId) (sub : String) (now : Clock) :
    Sound (register tenantId s sub now t) := by
  have earlier : ∀ {n : Nat} {entry : TenantId × SessionId × String}, t.registered[n]? = some entry →
      n < t.registered.length ∧ (t.registered ++ [(tenantId, s, sub)])[n]? = some entry := by
    intro n entry found
    obtain ⟨inside, _⟩ := List.getElem?_eq_some_iff.mp found
    exact ⟨inside, (List.getElem?_append_left inside).trans found⟩
  refine ⟨fun q entry found => ?_, fun r taken => ?_, sound.once, sound.owed⟩
  · by_cases own : q = s
    · subst own
      have inserted : (register tenantId q sub now t).entryOf q = some ⟨tenantId, q, sub, [], now.instant, now.system⟩ :=
        AList.lookup_insert _
      obtain rfl := Option.some.inj (found.symm.trans inserted)
      refine ⟨?_, rfl⟩
      show (t.registered ++ [(tenantId, q, sub)])[Function.update t.serials q t.registered.length q]? = _
      rw [Function.update_self, List.getElem?_concat_length]
    · have before : t.entryOf q = some entry := (AList.lookup_insert_ne own).symm.trans found
      obtain ⟨known, session⟩ := sound.numbered q entry before
      refine ⟨?_, session⟩
      show (t.registered ++ [(tenantId, s, sub)])[Function.update t.serials s t.registered.length q]? = _
      rw [Function.update_of_ne own]
      exact (earlier known).2
  · obtain ⟨known, session, absent⟩ := sound.gone r taken
    refine ⟨(earlier known).2, session, fun entry found => ?_⟩
    show Function.update t.serials s t.registered.length r.session ≠ r.serial
    by_cases own : r.session = s
    · rw [own, Function.update_self]
      exact (earlier known).1.ne'
    · rw [Function.update_of_ne own]
      exact absent entry ((AList.lookup_insert_ne own).symm.trans found)

theorem Sound.removed (remover : Remover) (sound : Sound t) (found : t.entryOf s = some entry)
    (sessions : t'.ctx.presence.sessions = AList.erase s t.ctx.presence.sessions)
    (registered : t'.registered = t.registered) (serials : t'.serials = t.serials)
    (removals : t'.removals = t.removals ++ [⟨t.serials s, s, entry, remover⟩])
    (owed : (t'.announced ++ t'.pending).Perm
      (t.announced ++ t.pending ++ (Removal.mk (t.serials s) s entry remover).notices)) : Sound t' := by
  obtain ⟨known, named⟩ := sound.numbered s entry found
  have before : ∀ q entry', t'.entryOf q = some entry' → q ≠ s ∧ t.entryOf q = some entry' := by
    intro q entry' there
    unfold entryOf at there
    rw [sessions] at there
    exact Table.lookup_of_lookup_erase there
  refine ⟨fun q entry' there => ?_, fun r taken => ?_, ?_, ?_⟩
  · rw [registered, serials]
    exact sound.numbered q entry' (before q entry' there).2
  · rw [removals] at taken
    rw [registered, serials]
    rcases List.mem_append.mp taken with earlier | last
    · obtain ⟨number, own, absent⟩ := sound.gone r earlier
      exact ⟨number, own, fun entry' there => absent entry' (before _ entry' there).2⟩
    · rw [List.mem_singleton] at last
      subst last
      exact ⟨known, named, fun entry' there => absurd rfl (before s entry' there).1⟩
  · rw [removals, List.map_append]
    refine nodup_concat sound.once fun member => ?_
    obtain ⟨r, taken, same⟩ := List.mem_map.mp member
    obtain ⟨number, _, absent⟩ := sound.gone r taken
    -- The serial of a removal tells whose entry it was.
    rw [same, known, Option.some.injEq, Prod.mk.injEq, Prod.mk.injEq] at number
    rw [← number.2.1] at absent
    exact absent entry found same.symm
  · rw [removals, List.flatMap_append, List.flatMap_singleton]
    exact owed.trans (sound.owed.append_right _)

theorem sound_announce {notice : Notice} {now : Clock} (sound : Sound t)
    (sessions : t'.ctx.presence.sessions = t.ctx.presence.sessions)
    (registered : t'.registered = t.registered) (serials : t'.serials = t.serials)
    (removals : t'.removals = t.removals) (announced : t'.announced = t.announced)
    (pending : (notice :: t'.pending).Perm t.pending) : Sound (announce notice now t') := by
  refine sound.same sessions registered serials removals ?_
  show (t'.announced ++ [notice] ++ t'.pending).Perm _
  rw [announced, List.append_assoc]
  exact pending.append_left t.announced

theorem sound_leave (sound : Sound t) : Sound (t.leave s) := by
  unfold leave
  cases found : t.entryOf s with
  | none =>
      rw [take_of_none found]
      exact sound
  | some entry =>
      rw [take_of_some found]
      refine Sound.removed .leave sound found rfl rfl rfl rfl ?_
      -- The new task comes after the others and before the sweep.
      simp only [pending, List.flatten_append, List.flatten_singleton, List.append_assoc]
      exact ((List.perm_append_comm).append_left _).append_left _

theorem sound_remove {now : Clock} {rest : List SessionId} {removed : List Removal}
    (sweep : t.sweep = .removing now (s :: rest) removed) (sound : Sound t)
    (taken : t.remove = some t') : Sound t' := by
  simp only [remove, sweep] at taken
  cases found : t.entryOf s with
  | none =>
      rw [take_of_none found] at taken
      rw [← Option.some.inj taken]
      refine sound.same rfl rfl rfl rfl (List.Perm.append_left _ ?_)
      simp [pending, sweep, SweepPhase.pending]
  | some entry =>
      rw [take_of_some found] at taken
      rw [← Option.some.inj taken]
      refine Sound.removed (.sweep now) sound found rfl rfl rfl rfl ?_
      simp [pending, sweep, SweepPhase.pending, setPresence]

theorem sound_step (sound : Sound t) {e : TaskEvent} (taken : step t e = some t') : Sound t' := by
  cases e with
  | register tenantId s sub now =>
      obtain ⟨u, read, rfl⟩ := Option.map_eq_some_iff.mp taken
      obtain ⟨_, rfl⟩ := reads_eq_some read
      have read : Sound { t with clock := now.instant } := sound.same rfl rfl rfl rfl (List.Perm.refl _)
      exact sound_register read tenantId sub now
  | heartbeat s now =>
      obtain ⟨u, read, rfl⟩ := Option.map_eq_some_iff.mp taken
      obtain ⟨_, rfl⟩ := reads_eq_some read
      exact sound.adjust rfl (fun _ => ⟨rfl, rfl, rfl⟩) rfl rfl rfl rfl rfl
  | track s channelId =>
      exact Option.some.inj taken ▸ sound.adjust rfl (fun _ => ⟨rfl, rfl, rfl⟩) rfl rfl rfl rfl rfl
  | untrack s channelId =>
      exact Option.some.inj taken ▸ sound.adjust rfl (fun _ => ⟨rfl, rfl, rfl⟩) rfl rfl rfl rfl rfl
  | announce tenantId channelId s event now =>
      exact Option.some.inj taken ▸ sound.same rfl rfl rfl rfl (List.Perm.refl _)
  | leave s => exact Option.some.inj taken ▸ sound_leave sound
  | leaveNext i now =>
      simp only [step, leaveNext] at taken
      split at taken
      · rename_i notice rest there
        rw [← Option.some.inj taken]
        exact sound_announce sound rfl rfl rfl rfl rfl ((flatten_set there).append_right _)
      · cases taken
  | tick now =>
      simp only [step, tick] at taken
      split at taken
      · rename_i idle
        obtain ⟨u, read, rfl⟩ := Option.map_eq_some_iff.mp taken
        obtain ⟨_, rfl⟩ := reads_eq_some read
        refine sound.same rfl rfl rfl rfl (List.Perm.append_left _ ?_)
        simp [pending, idle, SweepPhase.pending]
      · cases taken
  | collect s =>
      simp only [step, collect] at taken
      split at taken
      · rename_i collecting _
        obtain ⟨_, same⟩ := Option.ite_none_right_eq_some.mp taken
        rw [← Option.some.inj same]
        refine sound.same rfl rfl rfl rfl (List.Perm.append_left _ ?_)
        simp [pending, collecting, SweepPhase.pending]
      · cases taken
  | collected =>
      simp only [step, collected] at taken
      split at taken
      · rename_i collecting
        rw [← Option.some.inj taken]
        refine sound.same rfl rfl rfl rfl (List.Perm.append_left _ ?_)
        simp [pending, collecting, SweepPhase.pending]
      · cases taken
  | remove =>
      have kept := taken
      simp only [step, remove] at taken
      split at taken
      · rename_i removing
        exact sound_remove removing sound kept
      · cases taken
  | removed =>
      simp only [step, removed] at taken
      split at taken
      · rename_i removing
        rw [← Option.some.inj taken]
        refine sound.same rfl rfl rfl rfl (List.Perm.append_left _ ?_)
        simp [pending, removing, SweepPhase.pending]
      · cases taken
  | sweepNext now =>
      simp only [step, sweepNext] at taken
      split at taken
      · rename_i notice rest announcing
        rw [← Option.some.inj taken]
        refine sound_announce sound rfl rfl rfl rfl rfl ?_
        simp only [pending, announcing, SweepPhase.pending]
        exact List.perm_middle.symm
      · cases taken

theorem sound_start (ctx : RealtimeContext) (timeout : Nat) : Sound (start ctx timeout) :=
  ⟨nofun, nofun, List.nodup_nil, List.Perm.nil⟩

end

def GoesOn : TaskEvent → Prop
  | .leaveNext _ _ | .remove | .removed | .sweepNext _ => True
  | _ => False

/-- What is owed is announced when the tasks under way go on. -/
def Settles (t : PresenceTasks) : Prop :=
  ∃ es t', (∀ e ∈ es, GoesOn e) ∧ step.run t es = some t' ∧ t'.pending = [] ∧ t.removals <+: t'.removals

section
variable {t t' : PresenceTasks} {s : SessionId} {entry : PresenceEntry} {now : Clock}

theorem Settles.after {e : TaskEvent} (settles : Settles t') (taken : step t e = some t') (goesOn : GoesOn e)
    (removals : t.removals <+: t'.removals) : Settles t := by
  obtain ⟨es, u, others, reached, nothing, grown⟩ := settles
  refine ⟨e :: es, u, fun d member => ?_, Step.run_cons_iff.mpr ⟨t', taken, reached⟩, nothing, removals.trans grown⟩
  rcases List.mem_cons.mp member with rfl | later
  · exact goesOn
  · exact others d later

theorem settles_announcing (now : Clock) {notices : List Notice} (sweep : t.sweep = .announcing notices)
    (left : t.leaving.flatten = []) : Settles t := by
  induction notices generalizing t with
  | nil =>
      refine ⟨[], t, fun _ member => absurd member List.not_mem_nil, rfl, ?_, List.prefix_rfl⟩
      simp [pending, left, sweep, SweepPhase.pending]
  | cons notice notices ih =>
      have taken : step t (.sweepNext now) = some (announce notice now { t with sweep := .announcing notices }) := by
        simp only [step, sweepNext, sweep]
      have settles : Settles (announce notice now { t with sweep := .announcing notices }) := ih rfl left
      exact settles.after taken trivial List.prefix_rfl

theorem settles_removing {ids : List SessionId} {removed : List Removal}
    (sweep : t.sweep = .removing now ids removed) (left : t.leaving.flatten = []) : Settles t := by
  induction ids generalizing t removed with
  | nil =>
      have taken : step t .removed = some { t with sweep := .announcing (removed.flatMap (·.notices)) } := by
        simp only [step, PresenceTasks.removed, sweep]
      have settles : Settles { t with sweep := .announcing (removed.flatMap (·.notices)) } :=
        settles_announcing now rfl left
      exact settles.after taken trivial List.prefix_rfl
  | cons s ids ih =>
      have taken : step t .remove = some { (t.take s (.sweep now)).2 with
          sweep := .removing now ids (removed ++ (t.take s (.sweep now)).1.toList) } := by
        simp only [step, remove, sweep]
      have kept : (t.take s (.sweep now)).2.leaving = t.leaving ∧
          t.removals <+: (t.take s (.sweep now)).2.removals := by
        cases found : t.entryOf s with
        | none => simp [take_of_none found]
        | some entry => simp [take_of_some found, setPresence]
      have settles : Settles { (t.take s (.sweep now)).2 with
          sweep := .removing now ids (removed ++ (t.take s (.sweep now)).1.toList) } := ih rfl (kept.1 ▸ left)
      exact settles.after taken trivial kept.2

theorem settles_swept (now : Clock) (left : t.leaving.flatten = []) : Settles t := by
  cases sweep : t.sweep with
  | collecting =>
      refine ⟨[], t, fun _ member => absurd member List.not_mem_nil, rfl, ?_, List.prefix_rfl⟩
      simp [pending, left, sweep, SweepPhase.pending]
  | removing => exact settles_removing sweep left
  | announcing => exact settles_announcing now sweep left

theorem exists_next {tasks : List (List Notice)} (owing : tasks.flatten ≠ []) :
    ∃ (i : Nat) (notice : Notice) (rest : List Notice), tasks[i]? = some (notice :: rest) := by
  obtain ⟨notice, member⟩ := List.exists_mem_of_ne_nil _ owing
  obtain ⟨task, listed, inside⟩ := List.mem_flatten.mp member
  obtain ⟨i, there⟩ := List.mem_iff_getElem?.mp listed
  cases task with
  | nil => cases inside
  | cons first rest => exact ⟨i, first, rest, there⟩

theorem settles (now : Clock) (t : PresenceTasks) : Settles t := by
  induction owing : t.leaving.flatten.length generalizing t with
  | zero => exact settles_swept now (List.eq_nil_of_length_eq_zero owing)
  | succ n ih =>
      obtain ⟨i, notice, rest, there⟩ := exists_next (List.ne_nil_of_length_eq_add_one owing)
      have taken : step t (.leaveNext i now) = some (announce notice now { t with leaving := t.leaving.set i rest }) := by
        simp only [step, leaveNext, there]
      have fewer : (t.leaving.set i rest).flatten.length = n := by
        have same := (flatten_set there).length_eq
        rw [owing, List.length_cons] at same
        omega
      exact (ih _ fewer).after taken trivial List.prefix_rfl

end

/-- What `handle_leave` and the sweep do. -/
def Removes : TaskEvent → Prop
  | .leave _ | .leaveNext _ _ | .tick _ | .collect _ | .collected | .remove | .removed | .sweepNext _ => True
  | _ => False

/-- The notice that a task comes to with its step. -/
def noticeAt (t : PresenceTasks) : TaskEvent → Option Notice
  | .leaveNext i _ => t.leaving[i]?.bind List.head?
  | .sweepNext _ =>
    match t.sweep with
    | .announcing notices => notices.head?
    | _ => none
  | _ => none

/-- The frames that a step publishes, with their keys. -/
def gained (t : PresenceTasks) (e : TaskEvent) : List (ChannelKey × Message) :=
  ((step t e).elim [] fun t' => t'.ctx.channelRouter.journal.drop t.ctx.channelRouter.journal.length).map
    fun entry => (entry.1, entry.2.1)

def departing (serial : Nat) (channelId : String) (t : PresenceTasks) (e : TaskEvent) :
    Option (List (ChannelKey × Message)) :=
  (noticeAt t e).bind fun notice =>
    if notice.removal.serial = serial ∧ notice.channelId = channelId then some (gained t e) else none

/-- What a run publishes so. -/
def departures (t : PresenceTasks) (es : List TaskEvent) (serial : Nat) (channelId : String) :
    List (ChannelKey × Message) :=
  (step.observed (departing serial channelId) t es).flatten

/-- The event on a channel that the removal of an entry brings about. -/
def departure (r : Removal) (channelId : String) : ChannelKey × Message :=
  let key := ChannelKey.mk r.entry.tenantId channelId
  (key.presenceKey, ⟨(eventFrame key r.session r.remover.event).build, key.presenceKey⟩)

theorem journal_departFrom (s : SessionId) (event : PresenceEvent) (tenantId : TenantId) (now : Clock)
    (ctx : RealtimeContext) (channelId : String) : ∃ n,
    (RealtimeContext.departFrom s event tenantId now ctx channelId).channelRouter.journal =
      ctx.channelRouter.journal ++ [((ChannelKey.mk tenantId channelId).presenceKey,
        ⟨(eventFrame ⟨tenantId, channelId⟩ s event).build, (ChannelKey.mk tenantId channelId).presenceKey⟩, n)] := by
  have own : ¬ tenantId ≠ (ChannelKey.mk tenantId channelId).presenceKey.tenantId := not_not.mpr rfl
  simp only [RealtimeContext.departFrom, RealtimeContext.publishPresenceEvent, ChannelRouterService.pruneEmpty,
    ChannelRouterService.publish, if_neg own]
  exact ⟨_, rfl⟩

section
variable {t t' : PresenceTasks} {e : TaskEvent} {notice : Notice}

theorem gained_of_announce {now : Clock} {u : PresenceTasks} (taken : step t e = some (announce notice now u))
    (before : u.ctx = t.ctx) (own : notice.removal.entry.sessionId = notice.removal.session) :
    gained t e = [departure notice.removal notice.channelId] := by
  obtain ⟨⟨serial, session, entry, remover⟩, channelId⟩ := notice
  obtain rfl : entry.sessionId = session := own
  obtain ⟨n, grown⟩ := journal_departFrom entry.sessionId remover.event entry.tenantId now t.ctx channelId
  have journal : (announce ⟨⟨serial, entry.sessionId, entry, remover⟩, channelId⟩ now u).ctx.channelRouter.journal =
      u.ctx.channelRouter.journal ++ [((departure ⟨serial, entry.sessionId, entry, remover⟩ channelId).1,
        (departure ⟨serial, entry.sessionId, entry, remover⟩ channelId).2, n)] := by
    rw [← before] at grown
    cases remover with
    | leave => exact grown
    | sweep began => exact grown
  simp only [gained, taken, Option.elim_some, journal, ← before, List.drop_left, List.map_cons, List.map_nil]

theorem announced_step (taken : step t e = some t') :
    (∃ notice now u, noticeAt t e = some notice ∧ t' = announce notice now u ∧ u.ctx = t.ctx ∧
      u.announced = t.announced ∧ notice ∈ t.pending) ∨ noticeAt t e = none ∧ t'.announced = t.announced ∧
      (Removes e → t'.ctx.channelRouter.journal = t.ctx.channelRouter.journal) := by
  cases e with
  | leaveNext i now =>
      simp only [step, leaveNext] at taken
      split at taken
      · rename_i notice rest there
        refine Or.inl ⟨notice, now, _, ?_, (Option.some.inj taken).symm, rfl, rfl, ?_⟩
        · simp only [noticeAt, there, Option.bind_some, List.head?_cons]
        · exact List.mem_append_left _ (List.mem_flatten.mpr ⟨_, List.mem_of_getElem? there, List.mem_cons_self⟩)
      · cases taken
  | sweepNext now =>
      simp only [step, sweepNext] at taken
      split at taken
      · rename_i notice rest announcing
        refine Or.inl ⟨notice, now, _, ?_, (Option.some.inj taken).symm, rfl, rfl, ?_⟩
        · simp only [noticeAt, announcing, List.head?_cons]
        · simp [pending, announcing, SweepPhase.pending]
      · cases taken
  | register | heartbeat =>
      obtain ⟨u, read, rfl⟩ := Option.map_eq_some_iff.mp taken
      obtain ⟨_, rfl⟩ := reads_eq_some read
      exact Or.inr ⟨rfl, rfl, fun removes => removes.elim⟩
  | track | untrack | announce => exact Or.inr ⟨rfl, Option.some.inj taken ▸ rfl, fun removes => removes.elim⟩
  | leave s =>
      refine Or.inr ⟨rfl, ?_⟩
      rw [← Option.some.inj taken]
      unfold leave
      cases found : t.entryOf s with
      | none =>
          rw [take_of_none found]
          exact ⟨rfl, fun _ => rfl⟩
      | some entry =>
          rw [take_of_some found]
          exact ⟨rfl, fun _ => rfl⟩
  | tick now =>
      simp only [step, tick] at taken
      split at taken
      · obtain ⟨u, read, rfl⟩ := Option.map_eq_some_iff.mp taken
        obtain ⟨_, rfl⟩ := reads_eq_some read
        exact Or.inr ⟨rfl, rfl, fun _ => rfl⟩
      · cases taken
  | collect s =>
      simp only [step, collect] at taken
      split at taken
      · obtain ⟨_, same⟩ := Option.ite_none_right_eq_some.mp taken
        exact Or.inr ⟨rfl, Option.some.inj same ▸ rfl, fun _ => Option.some.inj same ▸ rfl⟩
      · cases taken
  | collected =>
      simp only [step, collected] at taken
      split at taken
      · exact Or.inr ⟨rfl, Option.some.inj taken ▸ rfl, fun _ => Option.some.inj taken ▸ rfl⟩
      · cases taken
  | remove =>
      simp only [step, PresenceTasks.remove] at taken
      split at taken
      · rename_i s rest removed removing
        refine Or.inr ⟨rfl, ?_⟩
        rw [← Option.some.inj taken]
        cases found : t.entryOf s with
        | none =>
            rw [take_of_none found]
            exact ⟨rfl, fun _ => rfl⟩
        | some entry =>
            rw [take_of_some found]
            exact ⟨rfl, fun _ => rfl⟩
      · cases taken
  | removed =>
      simp only [step, PresenceTasks.removed] at taken
      split at taken
      · exact Or.inr ⟨rfl, Option.some.inj taken ▸ rfl, fun _ => Option.some.inj taken ▸ rfl⟩
      · cases taken

theorem gained_of_silent (taken : step t e = some t') (removes : Removes e) (silent : noticeAt t e = none) :
    gained t e = [] := by
  have same : t'.ctx.channelRouter.journal = t.ctx.channelRouter.journal := by
    rcases announced_step taken with ⟨notice, _, _, there, _⟩ | ⟨_, _, kept⟩
    · rw [silent] at there
      cases there
    · exact kept removes
  simp only [gained, taken, Option.elim_some, same, List.drop_length, List.map_nil]

end

theorem departures_eq {ctx : RealtimeContext} {timeout : Nat} {es : List TaskEvent} {t : PresenceTasks}
    (reached : step.run (start ctx timeout) es = some t) (serial : Nat) (channelId : String) :
    departures (start ctx timeout) es serial channelId =
      (t.announced.filter fun notice => notice.removal.serial = serial ∧ notice.channelId = channelId).map
        fun notice => departure notice.removal notice.channelId := by
  refine (Step.run_induction (fun ds u => Sound u ∧ departures (start ctx timeout) ds serial channelId =
    (u.announced.filter fun notice => notice.removal.serial = serial ∧ notice.channelId = channelId).map
      fun notice => departure notice.removal notice.channelId) ⟨sound_start ctx timeout, rfl⟩ ?_ reached).2
  rintro ds u e v before ⟨sound, same⟩ taken
  refine ⟨sound_step sound taken, ?_⟩
  rw [departures, Step.observed_concat (departing serial channelId) e before, List.flatten_append, ← departures, same]
  rcases announced_step taken with ⟨notice, now, w, there, rfl, ctx', kept, owed⟩ | ⟨silent, kept, _⟩
  · have announced : (announce notice now w).announced = u.announced ++ [notice] := congrArg (· ++ [notice]) kept
    obtain ⟨r, removed, listed⟩ := List.mem_flatMap.mp (sound.owed.subset (List.mem_append_right _ owed))
    have own := (sound.gone r removed).2.1
    rw [← removal_of_mem_notices listed] at own
    rw [announced, List.filter_append, List.map_append, departing, there, Option.bind_some]
    congr 1
    by_cases wanted : notice.removal.serial = serial ∧ notice.channelId = channelId
    · rw [if_pos wanted, gained_of_announce taken ctx' own]
      simp [wanted]
    · rw [if_neg wanted]
      simp [wanted]
  · rw [departing, silent, kept]
    exact List.append_nil _

theorem departures_of_removal {ctx : RealtimeContext} {timeout : Nat} {es : List TaskEvent} {t : PresenceTasks}
    (reached : step.run (start ctx timeout) es = some t) (sound : Sound t) {r : Removal} (taken : r ∈ t.removals)
    (channelId : String) : departures (start ctx timeout) es r.serial channelId =
      List.replicate (t.announced.count ⟨r, channelId⟩) (departure r channelId) := by
  have own : ∀ notice ∈ t.announced, notice.removal.serial = r.serial ∧ notice.channelId = channelId ↔
      notice = ⟨r, channelId⟩ := by
    intro notice member
    obtain ⟨q, removed, listed⟩ := List.mem_flatMap.mp (sound.owed.subset (List.mem_append_left _ member))
    obtain rfl := removal_of_mem_notices listed
    constructor
    · rintro ⟨serial, rfl⟩
      rw [← List.inj_on_of_nodup_map sound.once removed taken serial]
    · rintro rfl
      exact ⟨rfl, rfl⟩
  rw [departures_eq reached, List.filter_congr fun notice member => decide_eq_decide.mpr (own notice member),
    List.filter_eq, List.map_replicate]

/-- Every registration is removed at most once, and for each occurrence of a channel in what was removed the router
is given one frame, the event of the one that removed it: until then it is pending, and nothing stays pending. -/
theorem departs_once {ctx : RealtimeContext} {timeout : Nat} {es : List TaskEvent} {t : PresenceTasks}
    (reached : step.run (start ctx timeout) es = some t) :
    (t.removals.map (·.serial)).Nodup ∧
    (∀ r ∈ t.removals, t.registered[r.serial]? = some (r.entry.tenantId, r.session, r.entry.sub) ∧
      ∀ channelId, ∃ n,
        departures (start ctx timeout) es r.serial channelId = List.replicate n (departure r channelId) ∧
        n + t.pending.count ⟨r, channelId⟩ = r.entry.channels.count channelId) ∧
    (∀ ds e u v, ds ++ [e] <+: es → step.run (start ctx timeout) ds = some u → step u e = some v → Removes e →
      noticeAt u e = none → gained u e = []) ∧
    Settles t := by
  have sound : Sound t := Step.run_invariant (fun _ _ _ sound taken => sound_step sound taken) reached
    (sound_start ctx timeout)
  refine ⟨sound.once, fun r taken => ⟨(sound.gone r taken).1, fun channelId => ?_⟩,
    fun _ _ _ _ _ _ taken => gained_of_silent taken, settles ⟨0, 0⟩ t⟩
  refine ⟨_, departures_of_removal reached sound taken channelId, ?_⟩
  rw [← List.count_append, sound.owed.count_eq, count_owed (List.Nodup.of_map _ sound.once) taken]

/-- The session leaves when the sweep has collected it. -/
def raced : List TaskEvent :=
  [.register tenantOne sessionOne "a" epoch, .track sessionOne "room", .tick ⟨31000000000, 0⟩, .collect sessionOne,
    .collected, .leave sessionOne, .remove, .removed, .leaveNext 0 ⟨31000000000, 0⟩]

theorem departs_once_raced : ∃ t r, step.run (start (started false).ctx 30000000000) raced = some t ∧
    t.removals = [r] ∧ r.remover = .leave ∧ t.pending = [] ∧
    departures (start (started false).ctx 30000000000) raced r.serial "room" = [departure r "room"] := by
  obtain ⟨t, r, reached, removals, left, nothing, tracked⟩ :
      ∃ t r, step.run (start (started false).ctx 30000000000) raced = some t ∧ t.removals = [r] ∧
        r.remover = .leave ∧ t.pending = [] ∧ r.entry.channels = ["room"] := ⟨_, _, rfl, rfl, rfl, rfl, rfl⟩
  obtain ⟨_, each, _⟩ := departs_once reached
  obtain ⟨n, published, counted⟩ := (each r (removals ▸ List.mem_singleton_self r)).2 "room"
  rw [nothing, tracked, List.count_nil, Nat.add_zero, List.count_singleton_self] at counted
  rw [counted, List.replicate_one] at published
  exact ⟨t, r, reached, removals, left, nothing, published⟩

end RealtimePlatform.Proof.Departures
